import Mathlib.Data.List.DropRight
import PresentRelay.Proofs.Daemon.Lights
import PresentRelay.Proofs.Daemon.Returns

/-!
# When the layer is bound and validated

What is due for a layer is said in terms of what happened to it so far, as its compositor saw
it: a bind is due for another buffer than the one bound last, a validation until one asks for
no changes, and both after a power notice until a validation is complete.  `Layered` says that
the flags of a daemon tell the same; each operation keeps it, wherever it fails, and so does a
run.
-/

set_option autoImplicit false

namespace PresentRelay

/-! ## What happened to a layer -/

/-- A notice of power, a bind that was done, or a validation that was completed, and whether it
asked for changes. -/
inductive LayerEvent where
  | notice (power : Power)
  | bound (serial : Serial)
  | validated (changes : Bool)
  deriving DecidableEq

namespace LayerEvent

def bound? : LayerEvent → Option Serial
  | .bound serial => some serial
  | _ => none

def validated? : LayerEvent → Option Bool
  | .validated changes => some changes
  | _ => none

/-- The buffer bound last since the producers were last gone. -/
def boundLast (past : List LayerEvent) : Option Serial :=
  ((past.rtakeWhile (· ≠ .notice .noConsumer)).filterMap bound?).getLast?

def validatedLast (past : List LayerEvent) : Option Bool := (past.filterMap validated?).getLast?

/-- A power notice came after the validation completed last. -/
def Noticed (past : List LayerEvent) : Prop :=
  ∃ power, .notice power ∈ past.rtakeWhile (·.validated?.isNone)

def BindDue (past : List LayerEvent) (serial : Serial) : Prop :=
  boundLast past ≠ some serial ∨ Noticed past

def ValidationDue (past : List LayerEvent) : Prop :=
  validatedLast past = none ∨ validatedLast past = some true ∨ Noticed past

theorem boundLast_concat (past : List LayerEvent) (event : LayerEvent) :
    boundLast (past ++ [event]) =
      match event with
      | .bound serial => some serial
      | .notice .noConsumer => none
      | .notice _ | .validated _ => boundLast past := by
  unfold boundLast
  rw [List.rtakeWhile_concat]
  cases event with
  | bound serial => simp [bound?]
  | validated changes => simp [bound?]
  | notice power => cases power <;> simp [bound?]

theorem validatedLast_concat (past : List LayerEvent) (event : LayerEvent) :
    validatedLast (past ++ [event]) = event.validated?.or (validatedLast past) := by
  unfold validatedLast
  cases told : event.validated? <;> simp [told]

theorem noticed_concat (past : List LayerEvent) (event : LayerEvent) :
    Noticed (past ++ [event]) ↔
      match event with
      | .notice _ => True
      | .validated _ => False
      | .bound _ => Noticed past := by
  unfold Noticed
  rw [List.rtakeWhile_concat]
  cases event <;> simp [validated?]

theorem Noticed.append {past : List LayerEvent} (noticed : Noticed past) {more : List LayerEvent}
    (unvalidated : ∀ event ∈ more, event.validated? = none) : Noticed (past ++ more) := by
  induction more using List.reverseRecOn with
  | nil => rwa [List.append_nil]
  | append_singleton more event ih =>
    have still := ih fun other member => unvalidated other (List.mem_append_left _ member)
    have last := unvalidated event (List.mem_append_right _ (List.mem_singleton_self _))
    rw [← List.append_assoc, noticed_concat]
    cases event with
    | notice power => trivial
    | validated changes => cases last
    | bound other => exact still

theorem boundLast_append_ne {past : List LayerEvent} {serial : Serial}
    (other : boundLast past ≠ some serial) {more : List LayerEvent}
    (unbound : .bound serial ∉ more) : boundLast (past ++ more) ≠ some serial := by
  induction more using List.reverseRecOn with
  | nil => rwa [List.append_nil]
  | append_singleton more event ih =>
    rw [List.mem_append, not_or, List.mem_singleton] at unbound
    have still := ih unbound.1
    rw [← List.append_assoc, boundLast_concat]
    cases event with
    | bound last =>
      intro same
      exact unbound.2 (congrArg LayerEvent.bound (Option.some.inj same).symm)
    | validated changes => exact still
    | notice power =>
      cases power with
      | noConsumer => nofun
      | off | on => exact still

theorem ValidationDue.append {past : List LayerEvent} (due : ValidationDue past)
    {more : List LayerEvent} (unvalidated : ∀ event ∈ more, event.validated? = none) :
    ValidationDue (past ++ more) := by
  have none : more.filterMap validated? = [] := List.filterMap_eq_nil_iff.mpr unvalidated
  have last : validatedLast (past ++ more) = validatedLast past := by
    rw [validatedLast, List.filterMap_append, none, List.append_nil]
    rfl
  rw [ValidationDue, last]
  exact due.imp_right (Or.imp_right (Noticed.append · unvalidated))

end LayerEvent

/-! ## What a compositor recorded -/

namespace Compositor

def boundSince (before after : Compositor) : List Serial := after.binds.drop before.binds.length

/-- The validation completed since an earlier state, and whether it asked for changes; it is
complete when the changes that it asked for are accepted. -/
def validatedSince (before after : Compositor) : Option Bool :=
  let changes := before.upcoming.headD false
  if before.validates < after.validates ∧ (changes = true → before.accepts < after.accepts) then
    some changes
  else none

def layerSince (before after : Compositor) : List LayerEvent :=
  (before.boundSince after).map .bound ++ (before.validatedSince after).toList.map .validated

def layer (compositor : Compositor) : List Serial × Nat × Nat :=
  (compositor.binds, compositor.validates, compositor.accepts)

theorem layerSince_congr {before after other : Compositor} (same : other.layer = after.layer) :
    before.layerSince other = before.layerSince after := by
  simp only [layer, Prod.mk.injEq] at same
  obtain ⟨binds, validates, accepts⟩ := same
  unfold layerSince boundSince validatedSince
  rw [binds, validates, accepts]

theorem layerSince_of_same {before after : Compositor} (same : after.layer = before.layer) :
    before.layerSince after = [] := by
  rw [layerSince_congr same]
  simp [layerSince, boundSince, validatedSince]

theorem boundSince_of_binds {before after : Compositor} {more : List Serial}
    (binds : after.binds = before.binds ++ more) : before.boundSince after = more := by
  rw [boundSince, binds, List.drop_left]

theorem layerSince_of_binds {before after : Compositor} {serial : Serial}
    (layer : after.layer = (before.binds ++ [serial], before.validates, before.accepts)) :
    before.layerSince after = [.bound serial] := by
  simp only [Compositor.layer, Prod.mk.injEq] at layer
  obtain ⟨binds, validates, accepts⟩ := layer
  rw [layerSince, boundSince_of_binds binds]
  simp [validatedSince, validates]

theorem layerSince_of_validates {before after : Compositor} {changes : Bool}
    (asked : before.upcoming.headD false = changes)
    (layer : after.layer = (before.binds, before.validates + 1, before.accepts + changes.toNat)) :
    before.layerSince after = [.validated changes] := by
  simp only [Compositor.layer, Prod.mk.injEq] at layer
  obtain ⟨binds, validates, accepts⟩ := layer
  rw [layerSince, boundSince_of_binds (binds.trans (List.append_nil _).symm)]
  simp only [validatedSince, asked, validates, accepts]
  cases changes <;> simp

theorem layerSince_of_unaccepted {before after : Compositor}
    (changes : before.upcoming.headD false = true)
    (layer : after.layer = (before.binds, before.validates + 1, before.accepts)) :
    before.layerSince after = [] := by
  simp only [Compositor.layer, Prod.mk.injEq] at layer
  obtain ⟨binds, validates, accepts⟩ := layer
  rw [layerSince, boundSince_of_binds (binds.trans (List.append_nil _).symm)]
  simp only [validatedSince, changes, accepts]
  simp

theorem layerSince_trans {before bound after : Compositor} {serial : Serial}
    (same : bound.layer = before.layer ∨
      bound.layer = (before.binds ++ [serial], before.validates, before.accepts))
    (upcoming : bound.upcoming = before.upcoming) (binds : after.binds = bound.binds) :
    before.layerSince after = before.layerSince bound ++ bound.layerSince after := by
  have recorded : bound.validates = before.validates ∧ bound.accepts = before.accepts := by
    simp only [layer, Prod.mk.injEq] at same
    rcases same with same | same <;> exact same.2
  obtain ⟨validates, accepts⟩ := recorded
  have unbound : bound.boundSince after = [] :=
    boundSince_of_binds (binds.trans (List.append_nil _).symm)
  have unvalidated : before.validatedSince bound = none := by
    simp [validatedSince, validates]
  have later : before.validatedSince after = bound.validatedSince after := by
    unfold validatedSince
    rw [upcoming, validates, accepts]
  simp only [layerSince, unbound, unvalidated, later]
  simp [boundSince, binds]

end Compositor

namespace Daemon

variable {β : Type} {daemon : Daemon β} {past : List LayerEvent}

def Step.notice? : Step β → Option Power
  | .power notice => some notice
  | _ => none

def layerEvents [Backlight β] (daemon : Daemon β) (step : Step β) : List LayerEvent :=
  step.notice?.toList.map .notice ++
    daemon.compositor.layerSince (daemon.step step).daemon.compositor

def layerHistory [Backlight β] : Daemon β → List (Step β) → List LayerEvent
  | _, [] => []
  | daemon, step :: run => daemon.layerEvents step ++ (daemon.step step).daemon.layerHistory run

theorem layerHistory_append [Backlight β] (daemon : Daemon β) (run more : List (Step β)) :
    daemon.layerHistory (run ++ more) =
      daemon.layerHistory run ++ (daemon.steps run).layerHistory more := by
  induction run generalizing daemon with
  | nil => rfl
  | cons step run ih =>
    rw [List.cons_append, layerHistory, ih, layerHistory, List.append_assoc]
    rfl

/-! ## Binding and validating -/

def withBound (daemon : Daemon β) (serial : Serial) : Daemon β :=
  { daemon with
    compositor := { daemon.compositor with
      bound := some serial, binds := daemon.compositor.binds ++ [serial] }
    lastBound := some serial
    stats.binds := daemon.stats.binds + 1 }

inductive Binding (daemon : Daemon β) (serial : Serial) :
    Daemon β × Except Failure Unit → Prop where
  | spared (bound : daemon.lastBound = some serial) (settled : daemon.revalidate = false) :
    Binding daemon serial (daemon, .ok ())
  | refused (due : daemon.lastBound ≠ some serial ∨ daemon.revalidate = true)
    (failure : Failure) :
    Binding daemon serial (daemon, .error (failure.during "error binding layer buffer"))
  | done (due : daemon.lastBound ≠ some serial ∨ daemon.revalidate = true) :
    Binding daemon serial (daemon.withBound serial, .ok ())

theorem binding (daemon : Daemon β) (serial : Serial) :
    Binding daemon serial (daemon.bindLayer serial) := by
  unfold bindLayer
  split
  · next spared =>
    exact .spared spared.1 (Bool.eq_false_iff.mpr spared.2)
  · next due =>
    have due : daemon.lastBound ≠ some serial ∨ daemon.revalidate = true := by
      rwa [not_and_or, not_not] at due
    split
    · next failure refused => exact .refused due failure
    · next compositor done =>
      obtain ⟨-, answer⟩ := Compositor.allow_eq_ok.mp done
      cases answer
      exact .done due

inductive Validation (daemon : Daemon β) : Daemon β × Except Failure Unit → Prop where
  | spared (idle : daemon.needsValidate = false) (settled : daemon.revalidate = false) :
    Validation daemon (daemon, .ok ())
  | refused (due : daemon.needsValidate = true ∨ daemon.revalidate = true) (failure : Failure) :
    Validation daemon (daemon, .error (failure.during "error validating"))
  | unaccepted (due : daemon.needsValidate = true ∨ daemon.revalidate = true)
    (changes : daemon.compositor.upcoming.headD false = true) (failure : Failure) :
    Validation daemon
      ({ daemon with
          compositor := { daemon.compositor with
            upcoming := daemon.compositor.upcoming.tail
            validates := daemon.compositor.validates + 1 } },
        .error (failure.during "error accepting changes"))
  | completed (due : daemon.needsValidate = true ∨ daemon.revalidate = true)
    (compositor : Compositor)
    (layer : compositor.layer = (daemon.compositor.binds, daemon.compositor.validates + 1,
      daemon.compositor.accepts + (daemon.compositor.upcoming.headD false).toNat)) :
    Validation daemon
      (daemon.validated compositor (daemon.compositor.upcoming.headD false), .ok ())

theorem validation (daemon : Daemon β) : Validation daemon daemon.validateLayer := by
  unfold validateLayer
  split
  · next due =>
    split
    · next failure refused => exact .refused due failure
    · next compositor done =>
      obtain ⟨-, answer⟩ := Compositor.allow_eq_ok.mp done
      obtain ⟨rfl, clean⟩ := Prod.mk.inj (Except.ok.inj answer)
      rw [← clean]
      refine .completed due _ ?_
      rw [clean]
      rfl
    · next compositor done =>
      obtain ⟨-, answer⟩ := Compositor.allow_eq_ok.mp done
      obtain ⟨rfl, changes⟩ := Prod.mk.inj (Except.ok.inj answer)
      split
      · next failure refused => exact .unaccepted due changes failure
      · next accepted done =>
        obtain ⟨-, answer⟩ := Compositor.allow_eq_ok.mp done
        cases answer
        rw [← changes]
        refine .completed due _ ?_
        rw [changes]
        rfl
  · next spared =>
    rw [not_or, Bool.not_eq_true, Bool.not_eq_true] at spared
    exact .spared spared.1 spared.2

/-! ## What a daemon remembers of its layer -/

/-- Two daemons whose layers are alike, and what they know of them. -/
structure SameLayer (before after : Daemon β) : Prop where
  lastBound : after.lastBound = before.lastBound
  needsValidate : after.needsValidate = before.needsValidate
  revalidate : after.revalidate = before.revalidate
  layer : after.compositor.layer = before.compositor.layer

theorem sameLayer_release (daemon : Daemon β) (serial : Serial) :
    SameLayer daemon (daemon.release serial) := by
  unfold release
  split <;> exact ⟨rfl, rfl, rfl, rfl⟩

theorem compositor_release (daemon : Daemon β) (serial : Serial) :
    (daemon.release serial).compositor = daemon.compositor := by
  unfold release
  split <;> rfl

theorem compositor_releaseOption (daemon : Daemon β) (serial : Option Serial) :
    (serial.elim daemon daemon.release).compositor = daemon.compositor := by
  cases serial with
  | none => rfl
  | some serial => exact compositor_release daemon serial

/-- The flags of a daemon tell what is due.  A buffer bound before may be forgotten once it is
not cached any more, as it is never bound again. -/
structure Layered (past : List LayerEvent) (daemon : Daemon β) : Prop where
  noticed : daemon.revalidate = true ↔ LayerEvent.Noticed past
  validated : daemon.needsValidate = (LayerEvent.validatedLast past).getD true
  bound : ∀ serial ∈ daemon.cache.buffers,
    daemon.lastBound = some serial ↔ LayerEvent.boundLast past = some serial
  given : ∀ serial, daemon.lastBound = some serial ∨ LayerEvent.boundLast past = some serial →
    serial < daemon.allocator.next

theorem Layered.same (layered : Layered past daemon) {after : Daemon β}
    (same : SameLayer daemon after) (cached : after.cache.buffers ⊆ daemon.cache.buffers)
    (next : daemon.allocator.next ≤ after.allocator.next) : Layered past after where
  noticed := by
    rw [same.revalidate]
    exact layered.noticed
  validated := by
    rw [same.needsValidate]
    exact layered.validated
  bound serial member := by
    rw [same.lastBound]
    exact layered.bound serial (cached member)
  given serial last := by
    rw [same.lastBound] at last
    exact Nat.lt_of_lt_of_le (layered.given serial last) next

theorem Layered.release (layered : Layered past daemon) (serial : Serial) :
    Layered past (daemon.release serial) := by
  refine layered.same (daemon.sameLayer_release serial) ?_ ?_
  · rw [cache_release]
    exact List.Subset.refl _
  · exact Nat.le_of_eq (next_release daemon serial).symm

theorem Layered.bindDue (layered : Layered past daemon) {serial : Serial}
    (cached : serial ∈ daemon.cache.buffers) :
    LayerEvent.BindDue past serial ↔
      daemon.lastBound ≠ some serial ∨ daemon.revalidate = true :=
  or_congr (layered.bound serial cached).not.symm layered.noticed.symm

theorem Layered.validationDue (layered : Layered past daemon) :
    LayerEvent.ValidationDue past ↔
      daemon.needsValidate = true ∨ daemon.revalidate = true := by
  rw [LayerEvent.ValidationDue, ← or_assoc, layered.validated, layered.noticed]
  refine or_congr ?_ Iff.rfl
  cases LayerEvent.validatedLast past <;> simp

theorem Layered.bindLayer (layered : Layered past daemon) {serial : Serial}
    (given : serial < daemon.allocator.next) :
    Layered (past ++ daemon.compositor.layerSince (daemon.bindLayer serial).1.compositor)
      (daemon.bindLayer serial).1 := by
  have binding := daemon.binding serial
  generalize daemon.bindLayer serial = outcome at binding ⊢
  cases binding with
  | spared | refused =>
    rw [Compositor.layerSince_of_same rfl, List.append_nil]
    exact layered
  | done =>
    rw [Compositor.layerSince_of_binds rfl]
    refine ⟨?_, ?_, ?_, ?_⟩
    · rw [LayerEvent.noticed_concat]
      exact layered.noticed
    · rw [LayerEvent.validatedLast_concat]
      exact layered.validated
    · intro other member
      rw [LayerEvent.boundLast_concat]
      exact Iff.rfl
    · intro other last
      rw [LayerEvent.boundLast_concat] at last
      obtain rfl : serial = other := Option.some.inj (last.elim id id)
      exact given

theorem Layered.validateLayer (layered : Layered past daemon) :
    Layered (past ++ daemon.compositor.layerSince daemon.validateLayer.1.compositor)
      daemon.validateLayer.1 := by
  have validation := daemon.validation
  generalize daemon.validateLayer = outcome at validation ⊢
  cases validation with
  | spared | refused =>
    rw [Compositor.layerSince_of_same rfl, List.append_nil]
    exact layered
  | unaccepted due changes =>
    rw [Compositor.layerSince_of_unaccepted changes rfl, List.append_nil]
    exact ⟨layered.noticed, layered.validated, layered.bound, layered.given⟩
  | completed due compositor layer =>
    show Layered (past ++ daemon.compositor.layerSince compositor) _
    rw [Compositor.layerSince_of_validates rfl layer]
    refine ⟨?_, ?_, ?_, ?_⟩
    · rw [LayerEvent.noticed_concat]
      simp [Daemon.validated]
    · rw [LayerEvent.validatedLast_concat]
      rfl
    · intro other member
      rw [LayerEvent.boundLast_concat]
      exact layered.bound other member
    · intro other last
      rw [LayerEvent.boundLast_concat] at last
      exact layered.given other last

theorem Layered.prepareLayer (layered : Layered past daemon) {serial : Serial}
    (given : serial < daemon.allocator.next) :
    Layered (past ++ daemon.compositor.layerSince (daemon.prepareLayer serial).1.compositor)
      (daemon.prepareLayer serial).1 := by
  have bound := layered.bindLayer given
  have binding := daemon.binding serial
  unfold Daemon.prepareLayer
  generalize daemon.bindLayer serial = outcome at binding bound ⊢
  cases binding with
  | spared => exact layered.validateLayer
  | refused => exact bound
  | done =>
    have validated := bound.validateLayer
    have later : daemon.compositor.layerSince (daemon.withBound serial).validateLayer.1.compositor =
        daemon.compositor.layerSince (daemon.withBound serial).compositor ++
          (daemon.withBound serial).compositor.layerSince
            (daemon.withBound serial).validateLayer.1.compositor :=
      Compositor.layerSince_trans (.inr rfl) rfl (quiet_validateLayer _).binds
    rw [List.append_assoc, ← later] at validated
    exact validated

/-! ## Frames -/

theorem Layered.after {ready : Daemon β}
    (layered : Layered (past ++ daemon.compositor.layerSince ready.compositor) ready)
    {after : Daemon β} (same : SameLayer ready after) (buffers : SameBuffers ready after) :
    Layered (past ++ daemon.compositor.layerSince after.compositor) after := by
  rw [Compositor.layerSince_congr same.layer]
  refine layered.same same ?_ ?_
  · rw [buffers.cache]
    exact List.Subset.refl _
  · exact Nat.le_of_eq (congrArg Allocator.next buffers.allocator).symm

theorem Layered.unrecorded (layered : Layered past daemon) {after : Daemon β}
    (same : SameLayer daemon after) (cached : after.cache = daemon.cache)
    (next : after.allocator.next = daemon.allocator.next) :
    Layered (past ++ daemon.compositor.layerSince after.compositor) after := by
  rw [Compositor.layerSince_of_same same.layer, List.append_nil]
  refine layered.same same ?_ (Nat.le_of_eq next.symm)
  rw [cached]
  exact List.Subset.refl _

theorem importBuffer_next {allocator after : Allocator} {planes : List File} {metadata : Bytes}
    {desc : BufferDesc} {serial : Serial}
    (success : allocator.importBuffer planes metadata desc = .ok (after, serial)) :
    serial = allocator.next ∧ after.next = allocator.next + 1 := by
  unfold Allocator.importBuffer at success
  split at success
  · cases success
  · cases success
    exact ⟨rfl, rfl⟩

theorem compositor_importFrame {exported : Export} {imported : Daemon β} {serial : Serial}
    (success : daemon.importFrame exported = .ok (imported, serial)) :
    imported.compositor = daemon.compositor := by
  obtain ⟨planes, metadata, allocator, -, -, rfl⟩ := importFrame_eq_ok success
  exact compositor_releaseOption _ _

theorem Layered.importFrame (layered : Layered past daemon) {exported : Export}
    {imported : Daemon β} {serial : Serial}
    (success : daemon.importFrame exported = .ok (imported, serial)) :
    Layered past imported := by
  obtain ⟨planes, metadata, allocator, -, given, rfl⟩ := importFrame_eq_ok success
  obtain ⟨rfl, next⟩ := importBuffer_next given
  have older : daemon.allocator.next ≤ allocator.next := next ▸ Nat.le_succ _
  have cached : Layered past
      (daemon.withImport allocator exported.id daemon.allocator.next) := by
    refine ⟨layered.noticed, layered.validated, ?_, ?_⟩
    · intro other member
      obtain ⟨others, before, after⟩ :=
        daemon.cache.buffers_insert exported.id daemon.allocator.next
      rcases List.mem_cons.mp (after.mem_iff.mp member) with rfl | old
      · -- the next serial number is below itself if it was bound
        exact iff_of_false
          (fun last => Nat.lt_irrefl _ (layered.given _ (.inl last)))
          (fun last => Nat.lt_irrefl _ (layered.given _ (.inr last)))
      · exact layered.bound other (before.mem_iff.mpr (List.mem_append_right _ old))
    · intro other last
      exact Nat.lt_of_lt_of_le (layered.given other last) older
  cases (daemon.cache.insert exported.id daemon.allocator.next).2 with
  | none => exact cached
  | some evicted => exact cached.release evicted

theorem compositor_fetchBuffer {exported : Export} {fetched : Daemon β} {serial : Serial}
    {hit : Bool} (success : daemon.fetchBuffer exported = .ok (fetched, serial, hit)) :
    fetched.compositor = daemon.compositor := by
  unfold Daemon.fetchBuffer at success
  split at success
  · cases success
    rfl
  · split at success
    · cases success
    · next imported new frame =>
      cases success
      exact compositor_importFrame frame

theorem Layered.fetchBuffer (layered : Layered past daemon) {exported : Export}
    {fetched : Daemon β} {serial : Serial} {hit : Bool}
    (success : daemon.fetchBuffer exported = .ok (fetched, serial, hit)) :
    Layered past fetched := by
  unfold Daemon.fetchBuffer at success
  split at success
  · cases success
    exact layered.same ⟨rfl, rfl, rfl, rfl⟩ (List.Subset.refl _) (Nat.le_refl _)
  · split at success
    · cases success
    · next imported new frame =>
      cases success
      exact layered.importFrame frame

theorem sameLayer_presentLayer (daemon : Daemon β) : SameLayer daemon daemon.presentLayer.1 := by
  unfold presentLayer
  split
  · exact ⟨rfl, rfl, rfl, rfl⟩
  · next compositor done =>
    obtain ⟨-, answer⟩ := Compositor.allow_eq_ok.mp done
    refine ⟨rfl, rfl, rfl, ?_⟩
    cases bound : daemon.compositor.bound <;> rw [bound] at answer <;> cases answer
    rfl

theorem Layered.showFrame (layered : Layered past daemon) {serial : Serial}
    (given : serial < daemon.allocator.next) (id : UInt32) (hit : Bool) :
    Layered (past ++ daemon.compositor.layerSince (daemon.showFrame id serial hit).1.compositor)
      (daemon.showFrame id serial hit).1 := by
  have ready := layered.prepareLayer given
  have released {after : Daemon β} (serial : Serial)
      (kept : Layered (past ++ daemon.compositor.layerSince after.compositor) after) :
      Layered (past ++ daemon.compositor.layerSince (after.release serial).compositor)
        (after.release serial) := by
    rw [compositor_release]
    exact kept.release serial
  obtain dropped | ⟨-, after, done, shown⟩ := daemon.showFrame_cases id serial hit
  · rw [dropped]
    exact released serial (ready.after ⟨rfl, rfl, rfl, rfl⟩ ⟨rfl, rfl, rfl⟩)
  · have same := (daemon.prepareLayer serial).1.sameLayer_presentLayer
    have buffers := (daemon.prepareLayer serial).1.sameBuffers_presentLayer
    rw [done] at same buffers
    have presented := ready.after same buffers
    have onScreen : Layered (past ++ daemon.compositor.layerSince after.compositor)
        (after.withShown serial) :=
      presented.same ⟨rfl, rfl, rfl, rfl⟩ (List.Subset.refl _) (Nat.le_refl _)
    rw [shown]
    cases after.lastPresented with
    | none => exact onScreen
    | some previous => exact released previous onScreen

variable {start : Allocator} {capacity : Nat}

theorem Layered.presentExport (layered : Layered past daemon)
    (custody : Custody start capacity daemon []) (exported : Export) :
    Layered (past ++ daemon.compositor.layerSince (daemon.presentExport exported).1.compositor)
      (daemon.presentExport exported).1 := by
  unfold Daemon.presentExport
  split
  · exact layered.unrecorded ⟨rfl, rfl, rfl, rfl⟩ rfl rfl
  · split
    · exact layered.unrecorded ⟨rfl, rfl, rfl, rfl⟩ rfl rfl
    · next fetched serial hit success =>
      obtain ⟨kept, cached⟩ := custody.fetchBuffer success
      rw [← compositor_fetchBuffer success]
      have found := layered.fetchBuffer success
      exact found.showFrame (kept.lt_of_holds (holds_iff.mpr (.inl cached))) exported.id hit

/-! ## Runs -/

theorem compositor_emptyCache (daemon : Daemon β) :
    daemon.emptyCache.compositor = daemon.compositor :=
  emptyCache_induction (motive := fun other => other.compositor = daemon.compositor) rfl
    fun other serial same => (compositor_release other serial).trans same

theorem compositor_shutdown (daemon : Daemon β) :
    daemon.shutdown.compositor = daemon.compositor := by
  obtain ⟨-, same⟩ | ⟨serial, -, released⟩ := daemon.shutdown_cases
  · rw [same, compositor_emptyCache]
  · rw [released, compositor_release, ← daemon.compositor_emptyCache]

theorem layered_emptyCache (noticed : daemon.revalidate = true ↔ LayerEvent.Noticed past)
    (validated : daemon.needsValidate = (LayerEvent.validatedLast past).getD true)
    (given : ∀ serial, LayerEvent.boundLast past = some serial → serial < daemon.allocator.next) :
    Layered past daemon.emptyCache := by
  refine emptyCache_induction ⟨noticed, validated, ?_, ?_⟩ fun other serial kept =>
    kept.release serial
  · intro serial member
    rw [BufferCache.buffers_clear] at member
    cases member
  · rintro serial (none | last)
    · cases none
    · exact given serial last

theorem Layered.shutdown (layered : Layered past daemon) : Layered past daemon.shutdown := by
  have emptied := layered_emptyCache layered.noticed layered.validated fun serial last =>
    layered.given serial (.inr last)
  obtain ⟨-, same⟩ | ⟨serial, -, released⟩ := daemon.shutdown_cases
  · rw [same]
    exact emptied
  · have gone : Layered past { daemon.emptyCache with lastPresented := none } :=
      emptied.same ⟨rfl, rfl, rfl, rfl⟩ (List.Subset.refl _) (Nat.le_refl _)
    rw [released]
    exact gone.release serial

theorem sameLayer_setDisplayPower (daemon : Daemon β) (power : DisplayPower) :
    SameLayer daemon (daemon.setDisplayPower power).1 := by
  unfold setDisplayPower
  split
  · next compositor done =>
    obtain ⟨-, answer⟩ := Compositor.allow_eq_ok.mp done
    cases answer
    exact ⟨rfl, rfl, rfl, rfl⟩
  · exact ⟨rfl, rfl, rfl, rfl⟩

theorem Layered.notice (layered : Layered past daemon) (power : Power)
    (other : power ≠ .noConsumer) (policy : PowerPolicy β) :
    Layered (past ++ [.notice power]) { daemon with policy, revalidate := true } where
  noticed := by
    rw [LayerEvent.noticed_concat]
    exact iff_of_true rfl trivial
  validated := by
    rw [LayerEvent.validatedLast_concat]
    exact layered.validated
  bound serial member := by
    rw [LayerEvent.boundLast_concat]
    cases power with
    | noConsumer => exact absurd rfl other
    | off | on => exact layered.bound serial member
  given serial last := by
    rw [LayerEvent.boundLast_concat] at last
    cases power with
    | noConsumer => exact absurd rfl other
    | off | on => exact layered.given serial last

theorem Layered.setDisplayPower (layered : Layered past daemon) (power : DisplayPower) :
    Layered past (daemon.setDisplayPower power).1 := by
  have quiet := daemon.quiet_setDisplayPower power
  refine layered.same (daemon.sameLayer_setDisplayPower power) ?_ ?_
  · rw [quiet.cache]
    exact List.Subset.refl _
  · exact Nat.le_of_eq (congrArg Allocator.next quiet.allocator).symm

def noted [Backlight β] (daemon : Daemon β) (power : Power) : Daemon β :=
  { daemon with policy := (daemon.policy.transition power).1, revalidate := true }

theorem handlePower_noConsumer [Backlight β] (daemon : Daemon β) :
    (daemon.handlePower .noConsumer).1 = (daemon.noted .noConsumer).emptyCache :=
  rfl

theorem handlePower_of_ne [Backlight β] (daemon : Daemon β) {power : Power}
    (other : power ≠ .noConsumer) :
    (daemon.handlePower power).1 = daemon.noted power ∨
      ∃ asked, (daemon.handlePower power).1 = ((daemon.noted power).setDisplayPower asked).1 := by
  unfold Daemon.handlePower noted
  dsimp only
  obtain still | ⟨rfl, on⟩ | ⟨rfl, off⟩ := daemon.policy.turn_cases power
  · rw [PowerPolicy.transition_still still, if_neg other]
    exact .inl rfl
  · rw [PowerPolicy.transition_off on]
    exact .inr ⟨.off, rfl⟩
  · rw [PowerPolicy.transition_on off]
    exact .inr ⟨.on, rfl⟩

theorem Layered.handlePower [Backlight β] (layered : Layered past daemon) (power : Power) :
    Layered (past ++ [.notice power]) (daemon.handlePower power).1 ∧
      (daemon.handlePower power).1.compositor.layer = daemon.compositor.layer := by
  by_cases gone : power = .noConsumer
  · rw [gone, handlePower_noConsumer]
    refine ⟨layered_emptyCache ?_ ?_ ?_, congrArg _ (compositor_emptyCache _)⟩
    · rw [LayerEvent.noticed_concat]
      exact iff_of_true rfl trivial
    · rw [LayerEvent.validatedLast_concat]
      exact layered.validated
    · rw [LayerEvent.boundLast_concat]
      exact nofun
  · have noticed := layered.notice power gone (daemon.policy.transition power).1
    obtain same | ⟨asked, same⟩ := daemon.handlePower_of_ne gone
    · rw [same]
      exact ⟨noticed, rfl⟩
    · rw [same]
      exact ⟨noticed.setDisplayPower asked, (sameLayer_setDisplayPower _ asked).layer⟩

theorem Layered.step [Backlight β] (layered : Layered past daemon)
    (custody : Custody start capacity daemon []) (step : Step β) :
    Layered (past ++ daemon.layerEvents step) (daemon.step step).daemon := by
  unfold layerEvents
  cases step with
  | power notice =>
    obtain ⟨kept, same⟩ := layered.handlePower notice
    simp only [Daemon.step, Step.notice?]
    rw [Compositor.layerSince_of_same same, List.append_nil]
    exact kept
  | frame exported => exact layered.presentExport custody exported
  | shutdown =>
    simp only [Daemon.step, quietly, compositor_shutdown]
    rw [Compositor.layerSince_of_same rfl]
    exact (List.append_nil past).symm ▸ layered.shutdown
  | expectValidation | refuseImports | loseFiles | refuseRequest | backlight =>
    exact layered.unrecorded ⟨rfl, rfl, rfl, rfl⟩ rfl rfl

theorem Layered.steps [Backlight β] (layered : Layered past daemon)
    (custody : Custody start capacity daemon []) (run : List (Step β)) :
    Layered (past ++ daemon.layerHistory run) (daemon.steps run) := by
  induction run generalizing daemon past with
  | nil =>
    rw [layerHistory, List.append_nil]
    exact layered
  | cons step run ih =>
    rw [layerHistory, ← List.append_assoc]
    exact ih (layered.step custody step) (custody.step step)

end Daemon

namespace Station

variable {β : Type}

theorem layered_start [Backlight β] {feed : Feed} {start : Allocator} {compositor : Compositor}
    {backlight : Option β} {config : DaemonConfig} {station : Station β}
    (started : (Station.start feed start compositor backlight config).1 = .running station) :
    Daemon.Layered [] station.daemon := by
  have cases := start_cases feed start compositor backlight config
  rw [started] at cases
  obtain ⟨lit, desc, new⟩ := cases
  rw [new]
  exact ⟨by simp [Daemon.new, LayerEvent.Noticed], rfl, fun _ _ => Iff.rfl, by
    simp [Daemon.new, LayerEvent.boundLast]⟩

end Station

end PresentRelay
