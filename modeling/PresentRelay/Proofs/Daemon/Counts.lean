import PresentRelay.Proofs.Daemon.Drops

/-!
# What a daemon counts

A daemon counts what became of frames and where their buffers were found, and what its allocator
and its compositor did for it.  `Course` says all that a frame can come to.  Every course counts a
frame once as presented or dropped, and once as found, as imported or as failing to be imported;
and what the collaborators did is on their own records (`Recorded`).  So the counts balance after
every run.
-/

set_option autoImplicit false

namespace PresentRelay

def LayerEvent.completed (past : List LayerEvent) : Nat := (past.filterMap validated?).length

theorem LayerEvent.completed_append (past more : List LayerEvent) :
    completed (past ++ more) = completed past + completed more := by
  rw [completed, List.filterMap_append, List.length_append]
  rfl

theorem Compositor.completed_layerSince (before after : Compositor) :
    LayerEvent.completed (before.layerSince after) =
      (before.validatedSince after).toList.length := by
  have unvalidated : ((before.boundSince after).map LayerEvent.bound).filterMap
      LayerEvent.validated? = [] := by
    simp [LayerEvent.validated?]
  have validated : ((before.validatedSince after).toList.map LayerEvent.validated).filterMap
      LayerEvent.validated? = (before.validatedSince after).toList := by
    cases before.validatedSince after <;> rfl
  rw [LayerEvent.completed, layerSince, List.filterMap_append, unvalidated, validated]
  rfl

def Compositor.presentedSince (before after : Compositor) : List Serial :=
  after.presents.drop before.presents.length

namespace Daemon

variable {β : Type} {daemon : Daemon β}

/-! ## What leaves all accounts alone -/

/-- What a daemon counted, and what its collaborators recorded. -/
def accounts (daemon : Daemon β) :
    Stats × List Serial × (List Serial × Nat × Nat) × List Import :=
  (daemon.stats, daemon.compositor.presents, daemon.compositor.layer, daemon.allocator.imports)

theorem accounts_release (daemon : Daemon β) (serial : Serial) :
    (daemon.release serial).accounts = daemon.accounts := by
  unfold release
  split <;> rfl

theorem accounts_releaseOption (daemon : Daemon β) (serial : Option Serial) :
    (serial.elim daemon daemon.release).accounts = daemon.accounts := by
  cases serial with
  | none => rfl
  | some serial => exact accounts_release daemon serial

theorem accounts_emptyCache (daemon : Daemon β) :
    daemon.emptyCache.accounts = daemon.accounts := by
  refine emptyCache_induction (motive := fun other => other.accounts = daemon.accounts) rfl ?_
  intro other serial kept
  exact (accounts_release other serial).trans kept

theorem accounts_shutdown (daemon : Daemon β) : daemon.shutdown.accounts = daemon.accounts := by
  obtain ⟨-, same⟩ | ⟨serial, -, released⟩ := daemon.shutdown_cases
  · rw [same, accounts_emptyCache]
  · rw [released, accounts_release]
    exact daemon.accounts_emptyCache

theorem accounts_setDisplayPower (daemon : Daemon β) (power : DisplayPower) :
    (daemon.setDisplayPower power).1.accounts = daemon.accounts := by
  unfold setDisplayPower
  split
  · next compositor done =>
    obtain ⟨-, answer⟩ := Compositor.allow_eq_ok.mp done
    cases answer
    rfl
  · rfl

theorem accounts_handlePower [Backlight β] (daemon : Daemon β) (power : Power) :
    (daemon.handlePower power).1.accounts = daemon.accounts := by
  by_cases gone : power = .noConsumer
  · rw [gone, handlePower_noConsumer, accounts_emptyCache]
    rfl
  · obtain same | ⟨asked, same⟩ := daemon.handlePower_of_ne gone
    · rw [same]
      rfl
    · rw [same, accounts_setDisplayPower]
      rfl

theorem stats_releaseOption (daemon : Daemon β) (serial : Option Serial) :
    (serial.elim daemon daemon.release).stats = daemon.stats :=
  congrArg Prod.fst (accounts_releaseOption daemon serial)

/-! ## The course of a frame -/

inductive Course (daemon : Daemon β) (exported : Export) :
    Daemon β × Outcome × List Warning → Prop where
  | nothing (empty : exported.isEmpty = true) : Course daemon exported (daemon, .empty, [])
  | unfit (content : exported.isEmpty = false) {failure : Failure}
    (failed : daemon.fetchBuffer exported = .error failure) :
    Course daemon exported
      (daemon.countDropped, .dropped exported.id, [.importFailed failure exported.id])
  | refused (content : exported.isEmpty = false) {fetched : Daemon β} {serial : Serial}
    {hit : Bool} (success : daemon.fetchBuffer exported = .ok (fetched, serial, hit))
    {after : Daemon β} {failure : Failure}
    (refused : fetched.showBuffer serial = (after, .error failure)) :
    Course daemon exported
      (after.countDropped, .dropped exported.id, [.presentFailed failure exported.id])
  | shown (content : exported.isEmpty = false) {fetched : Daemon β} {serial : Serial}
    {hit : Bool} (success : daemon.fetchBuffer exported = .ok (fetched, serial, hit))
    {after : Daemon β} (done : fetched.showBuffer serial = (after, .ok ())) :
    Course daemon exported
      (after.lastPresented.elim (after.withShown serial) (after.withShown serial).release,
        .presented exported.id hit, [])

theorem course (daemon : Daemon β) (exported : Export) :
    Course daemon exported (daemon.presentExport exported) := by
  cases content : exported.isEmpty with
  | true =>
    rw [presentExport, if_pos content]
    exact .nothing content
  | false =>
    cases success : daemon.fetchBuffer exported with
    | error failure =>
      rw [presentExport, if_neg (Bool.eq_false_iff.mp content), success]
      exact .unfit content success
    | ok found =>
      obtain ⟨fetched, serial, hit⟩ := found
      cases done : fetched.showBuffer serial with
      | mk after result =>
        cases result with
        | error failure =>
          have refused : (fetched.showBuffer serial).2 = .error failure := by rw [done]
          rw [presentExport_of_refused content success refused, done]
          exact .refused content success done
        | ok _ =>
          rw [presentExport, if_neg (Bool.eq_false_iff.mp content), success]
          dsimp only
          rw [showFrame, done]
          exact .shown content success done

/-! ## Outcomes and counts -/

def failsImport (daemon : Daemon β) (exported : Export) : Bool :=
  !(daemon.fetchBuffer exported).isOk

def Step.frame? : Step β → Option Export
  | .frame exported => if exported.isEmpty then none else some exported
  | _ => none

def framesOf (run : List (Step β)) : List Export := run.filterMap Step.frame?

def failedImports [Backlight β] : Daemon β → List (Step β) → Nat
  | _, [] => 0
  | daemon, step :: run =>
    (step.frame?.any daemon.failsImport).toNat + (daemon.step step).daemon.failedImports run

theorem Step.frame?_eq_some {step : Step β} {exported : Export} :
    step.frame? = some exported ↔ step = .frame exported ∧ exported.isEmpty = false := by
  cases step with
  | frame other =>
    simp only [frame?, Step.frame.injEq]
    split
    · next nothing =>
      refine iff_of_false nofun ?_
      rintro ⟨rfl, content⟩
      rw [nothing] at content
      cases content
    · next content =>
      rw [Option.some.injEq]
      exact ⟨fun same => ⟨same, same ▸ Bool.eq_false_iff.mpr content⟩, fun same => same.1⟩
  | _ => exact iff_of_false nofun (fun same => nomatch same.1)

theorem failsImport_iff (daemon : Daemon β) (exported : Export) :
    daemon.failsImport exported = true ↔
      daemon.cache.lookup exported.id = none ∧
        exported.Unfit daemon.unreadable daemon.allocator := by
  rw [← daemon.importFrame_error_iff exported, failsImport, fetchBuffer]
  cases daemon.cache.lookup exported.id with
  | some serial => simp [Except.isOk, Except.toBool]
  | none => cases daemon.importFrame exported <;> simp [Except.isOk, Except.toBool]

theorem failsImport_of_error {exported : Export} {failure : Failure}
    (failed : daemon.fetchBuffer exported = .error failure) :
    daemon.failsImport exported = true := by
  rw [failsImport, failed]
  rfl

theorem failsImport_of_ok {exported : Export} {found : Daemon β × Serial × Bool}
    (success : daemon.fetchBuffer exported = .ok found) : daemon.failsImport exported = false := by
  rw [failsImport, success]
  rfl

end Daemon

/-- Binds and validations are counted up by one at most. -/
structure Stats.Takes (before after : Stats) : Prop where
  binds : after.binds ≤ before.binds + 1
  validates : after.validates ≤ before.validates + 1

/-- The counts went up from one daemon to another as the outcome of an export says. -/
def Outcome.Tells {β : Type} (outcome : Outcome) (exported : Export) (before after : Daemon β) :
    Prop :=
  match outcome with
  | .empty => exported.isEmpty = true ∧ after = before
  | .presented id hit =>
    exported.isEmpty = false ∧ id = exported.id ∧ before.failsImport exported = false ∧
      hit = (before.cache.lookup exported.id).isSome ∧
      after.stats.frames = (before.stats.presented + 1, before.stats.dropped,
        before.stats.cacheHits + hit.toNat, before.stats.imports + (!hit).toNat)
  | .dropped id =>
    exported.isEmpty = false ∧ id = exported.id ∧
      if before.failsImport exported then
        after.stats = { before.stats with dropped := before.stats.dropped + 1 }
      else
        let hit := (before.cache.lookup exported.id).isSome
        after.stats.frames = (before.stats.presented, before.stats.dropped + 1,
          before.stats.cacheHits + hit.toNat, before.stats.imports + (!hit).toNat)

namespace Daemon

variable {β : Type} {daemon : Daemon β}

theorem hit_of_fetchBuffer {exported : Export} {fetched : Daemon β} {serial : Serial} {hit : Bool}
    (success : daemon.fetchBuffer exported = .ok (fetched, serial, hit)) :
    hit = (daemon.cache.lookup exported.id).isSome := by
  obtain ⟨found, cached, -⟩ | ⟨made, missed, -⟩ := fetchBuffer_eq_ok success
  · rw [found, cached]
    rfl
  · rw [made, missed]
    rfl

theorem frames_of_found {exported : Export} {fetched : Daemon β} {serial : Serial} {hit : Bool}
    (success : daemon.fetchBuffer exported = .ok (fetched, serial, hit)) :
    (fetched.showBuffer serial).1.stats.frames =
      (daemon.stats.presented, daemon.stats.dropped, daemon.stats.cacheHits + hit.toNat,
        daemon.stats.imports + (!hit).toNat) := by
  rw [frames_showBuffer, stats_fetchBuffer success]
  rfl

theorem tells_presentExport (daemon : Daemon β) (exported : Export) :
    (daemon.presentExport exported).2.1.Tells exported daemon
      (daemon.presentExport exported).1 := by
  have course := daemon.course exported
  generalize daemon.presentExport exported = result at course ⊢
  cases course with
  | nothing empty => exact ⟨empty, rfl⟩
  | unfit content failed =>
    refine ⟨content, rfl, ?_⟩
    rw [if_pos (failsImport_of_error failed)]
    rfl
  | refused content success refused =>
    refine ⟨content, rfl, ?_⟩
    have fits := Bool.eq_false_iff.mp (failsImport_of_ok success)
    have found := frames_of_found success
    rw [refused] at found
    rw [if_neg fits, ← hit_of_fetchBuffer success]
    simp only [Stats.frames, Prod.mk.injEq] at found ⊢
    obtain ⟨presented, dropped, hits, imports⟩ := found
    exact ⟨presented, congrArg (· + 1) dropped, hits, imports⟩
  | shown content success done =>
    refine ⟨content, rfl, failsImport_of_ok success, hit_of_fetchBuffer success, ?_⟩
    have found := frames_of_found success
    rw [done] at found
    rw [stats_releaseOption]
    simp only [Stats.frames, Prod.mk.injEq] at found ⊢
    obtain ⟨presented, dropped, hits, imports⟩ := found
    exact ⟨congrArg (· + 1) presented, dropped, hits, imports⟩

theorem accounts_step [Backlight β] (daemon : Daemon β) {step : Step β}
    (other : step.frame? = none) : (daemon.step step).daemon.accounts = daemon.accounts := by
  cases step with
  | frame exported =>
    have nothing : exported.isEmpty = true := by
      by_contra content
      rw [Step.frame?, if_neg content] at other
      cases other
    simp only [step, presentExport, if_pos nothing]
  | power notice => exact daemon.accounts_handlePower notice
  | shutdown => exact daemon.accounts_shutdown
  | expectValidation | refuseImports | loseFiles | refuseRequest | backlight => rfl

/-! ## What a frame takes -/

theorem takes_validateLayer (daemon : Daemon β) :
    daemon.validateLayer.1.stats.binds = daemon.stats.binds ∧
      daemon.validateLayer.1.stats.validates ≤ daemon.stats.validates + 1 := by
  have validation := daemon.validation
  generalize daemon.validateLayer = outcome at validation ⊢
  cases validation with
  | spared | refused | unaccepted => exact ⟨rfl, Nat.le_succ _⟩
  | completed => exact ⟨rfl, Nat.le_refl _⟩

theorem takes_prepareLayer (daemon : Daemon β) (serial : Serial) :
    daemon.stats.Takes (daemon.prepareLayer serial).1.stats := by
  have binding := daemon.binding serial
  unfold prepareLayer
  generalize daemon.bindLayer serial = outcome at binding ⊢
  cases binding with
  | spared =>
    obtain ⟨binds, validates⟩ := daemon.takes_validateLayer
    exact ⟨binds.le.trans (Nat.le_succ _), validates⟩
  | refused => exact ⟨Nat.le_succ _, Nat.le_succ _⟩
  | done =>
    obtain ⟨binds, validates⟩ := (daemon.withBound serial).takes_validateLayer
    exact ⟨binds.le, validates⟩

theorem takes_showBuffer (daemon : Daemon β) (serial : Serial) :
    daemon.stats.Takes (daemon.showBuffer serial).1.stats := by
  have ready := daemon.takes_prepareLayer serial
  rcases daemon.showBuffer_fst serial with same | same
  · rw [same]
    exact ready
  · rw [same, stats_presentLayer]
    exact ready

theorem takes_presentExport (daemon : Daemon β) (exported : Export) :
    daemon.stats.Takes (daemon.presentExport exported).1.stats := by
  have shown {fetched after : Daemon β} {serial : Serial} {hit : Bool}
      {result : Except Failure Unit}
      (success : daemon.fetchBuffer exported = .ok (fetched, serial, hit))
      (done : fetched.showBuffer serial = (after, result)) : daemon.stats.Takes after.stats := by
    have taken := fetched.takes_showBuffer serial
    rw [done, stats_fetchBuffer success] at taken
    exact ⟨taken.binds, taken.validates⟩
  have course := daemon.course exported
  generalize daemon.presentExport exported = result at course ⊢
  cases course with
  | nothing | unfit => exact ⟨Nat.le_succ _, Nat.le_succ _⟩
  | refused content success refused =>
    have taken := shown success refused
    exact ⟨taken.binds, taken.validates⟩
  | shown content success done =>
    have taken := shown success done
    rw [stats_releaseOption]
    exact ⟨taken.binds, taken.validates⟩

/-! ## Frames presented or dropped, found or imported -/

/-- So many frames are presented or dropped; and so many are found, are imported or fail to be.
Binds and validations are as many at most. -/
structure Balanced (frames failed : Nat) (daemon : Daemon β) : Prop where
  fates : daemon.stats.presented + daemon.stats.dropped = frames
  found : daemon.stats.cacheHits + daemon.stats.imports + failed = frames
  binds : daemon.stats.binds ≤ frames
  validates : daemon.stats.validates ≤ frames

variable {frames failed : Nat}

theorem Balanced.count_le (balanced : Balanced frames failed daemon) :
    ∀ count ∈ daemon.stats.counts, count ≤ frames := by
  obtain ⟨fates, found, binds, validates⟩ := balanced
  simp only [Stats.counts, List.forall_mem_cons]
  exact ⟨by omega, by omega, by omega, by omega, binds, validates, nofun⟩

theorem Balanced.presentExport (balanced : Balanced frames failed daemon) {exported : Export}
    (content : exported.isEmpty = false) :
    Balanced (frames + 1) (failed + (daemon.failsImport exported).toNat)
      (daemon.presentExport exported).1 := by
  obtain ⟨fates, found, bound, validated⟩ := balanced
  have takes := daemon.takes_presentExport exported
  have binds := takes.binds.trans (Nat.succ_le_succ bound)
  have validates := takes.validates.trans (Nat.succ_le_succ validated)
  have tells := daemon.tells_presentExport exported
  generalize daemon.presentExport exported = result at tells binds validates ⊢
  obtain ⟨after, outcome, warnings⟩ := result
  have either (hit : Bool) : hit.toNat + (!hit).toNat = 1 := by cases hit <;> rfl
  cases outcome with
  | empty =>
    obtain ⟨nothing, -⟩ := tells
    rw [content] at nothing
    cases nothing
  | presented id hit =>
    obtain ⟨-, -, fits, -, counts⟩ := tells
    simp only [Stats.frames, Prod.mk.injEq] at counts
    obtain ⟨presented, dropped, hits, imports⟩ := counts
    have one := either hit
    refine ⟨?_, ?_, binds, validates⟩
    · dsimp only
      omega
    · rw [fits]
      dsimp only [Bool.toNat_false]
      omega
  | dropped id =>
    obtain ⟨-, -, counts⟩ := tells
    cases fails : daemon.failsImport exported with
    | true =>
      rw [if_pos fails] at counts
      refine ⟨?_, ?_, binds, validates⟩ <;> rw [counts]
      · dsimp only
        omega
      · dsimp only [Bool.toNat_true]
        omega
    | false =>
      rw [if_neg (Bool.eq_false_iff.mp fails)] at counts
      simp only [Stats.frames, Prod.mk.injEq] at counts
      obtain ⟨presented, dropped, hits, imports⟩ := counts
      have one := either (daemon.cache.lookup exported.id).isSome
      refine ⟨?_, ?_, binds, validates⟩
      · dsimp only
        omega
      · dsimp only [Bool.toNat_false]
        omega

theorem Balanced.step [Backlight β] (balanced : Balanced frames failed daemon) (step : Step β) :
    Balanced (frames + step.frame?.toList.length)
      (failed + (step.frame?.any daemon.failsImport).toNat) (daemon.step step).daemon := by
  cases frame : step.frame? with
  | none =>
    have counts : (daemon.step step).daemon.stats = daemon.stats :=
      congrArg Prod.fst (daemon.accounts_step frame)
    obtain ⟨fates, found, binds, validates⟩ := balanced
    constructor <;> rw [counts]
    · exact fates
    · exact found
    · exact binds
    · exact validates
  | some exported =>
    obtain ⟨rfl, content⟩ := Step.frame?_eq_some.mp frame
    exact balanced.presentExport content

theorem Balanced.steps [Backlight β] (balanced : Balanced frames failed daemon)
    (run : List (Step β)) :
    Balanced (frames + (framesOf run).length) (failed + daemon.failedImports run)
      (daemon.steps run) := by
  induction run generalizing daemon frames failed with
  | nil => exact balanced
  | cons step run ih =>
    have rest := ih (balanced.step step)
    have received : (framesOf (step :: run)).length =
        step.frame?.toList.length + (framesOf run).length := by
      unfold framesOf
      rw [List.filterMap_cons]
      cases step.frame? with
      | none => exact (Nat.zero_add _).symm
      | some exported => exact Nat.add_comm _ _
    rw [received, failedImports, ← Nat.add_assoc, ← Nat.add_assoc]
    exact rest

/-! ## What is on record -/

/-- What a daemon counted of presents, imports and binds is on the records of its collaborators,
which held something already when the count began. -/
structure Recorded (start : Allocator) (compositor : Compositor) (daemon : Daemon β) : Prop where
  presents : daemon.compositor.presents.length =
    compositor.presents.length + daemon.stats.presented
  imports : daemon.allocator.imports.length = start.imports.length + daemon.stats.imports
  binds : daemon.compositor.binds.length = compositor.binds.length + daemon.stats.binds

variable {start : Allocator} {compositor : Compositor}

theorem Recorded.same (recorded : Recorded start compositor daemon) {after : Daemon β}
    (same : after.accounts = daemon.accounts) : Recorded start compositor after := by
  simp only [accounts, Compositor.layer, Prod.mk.injEq] at same
  obtain ⟨stats, presents, ⟨binds, -, -⟩, imports⟩ := same
  constructor
  · rw [presents, stats]
    exact recorded.presents
  · rw [imports, stats]
    exact recorded.imports
  · rw [binds, stats]
    exact recorded.binds

theorem Recorded.fetchBuffer (recorded : Recorded start compositor daemon) {exported : Export}
    {fetched : Daemon β} {serial : Serial} {hit : Bool}
    (success : daemon.fetchBuffer exported = .ok (fetched, serial, hit)) :
    Recorded start compositor fetched := by
  unfold Daemon.fetchBuffer at success
  split at success
  · cases success
    exact ⟨recorded.presents, recorded.imports, recorded.binds⟩
  · split at success
    · cases success
    · next imported new frame =>
      cases success
      obtain ⟨planes, metadata, allocator, -, given, rfl⟩ := importFrame_eq_ok frame
      have one : allocator.imports.length = daemon.allocator.imports.length + 1 := by
        unfold Allocator.importBuffer at given
        split at given <;> cases given
        exact List.length_append
      have before := recorded.imports
      have cached : Recorded start compositor
          (daemon.withImport allocator exported.id serial) := by
        refine ⟨recorded.presents, ?_, recorded.binds⟩
        dsimp only [withImport]
        omega
      exact cached.same (accounts_releaseOption _ _)

theorem Recorded.bindLayer (recorded : Recorded start compositor daemon) (serial : Serial) :
    Recorded start compositor (daemon.bindLayer serial).1 := by
  have binding := daemon.binding serial
  generalize daemon.bindLayer serial = outcome at binding ⊢
  cases binding with
  | spared | refused => exact recorded
  | done =>
    have before := recorded.binds
    refine ⟨recorded.presents, recorded.imports, ?_⟩
    dsimp only [withBound]
    rw [List.length_append, List.length_singleton]
    omega

theorem Recorded.validateLayer (recorded : Recorded start compositor daemon) :
    Recorded start compositor daemon.validateLayer.1 := by
  have quiet := daemon.quiet_validateLayer
  have validation := daemon.validation
  generalize daemon.validateLayer = outcome at quiet validation ⊢
  have presents := quiet.presents
  have binds := quiet.binds
  cases validation with
  | spared | refused => exact recorded
  | unaccepted => exact ⟨recorded.presents, recorded.imports, recorded.binds⟩
  | completed due after layer =>
    refine ⟨?_, recorded.imports, ?_⟩
    · rw [presents]
      exact recorded.presents
    · rw [binds]
      exact recorded.binds

theorem Recorded.prepareLayer (recorded : Recorded start compositor daemon) (serial : Serial) :
    Recorded start compositor (daemon.prepareLayer serial).1 := by
  have bound := recorded.bindLayer serial
  unfold Daemon.prepareLayer
  rcases done : daemon.bindLayer serial with ⟨layered, failure | _⟩
  · rw [done] at bound
    exact bound
  · rw [done] at bound
    exact bound.validateLayer

theorem presentLayer_eq_ok {after : Daemon β} (done : daemon.presentLayer = (after, .ok ())) :
    ∃ shown, after = { daemon with
      compositor.presents := daemon.compositor.presents ++ [shown] } := by
  unfold presentLayer at done
  split at done
  · cases done
  · next compositor presented =>
    cases done
    obtain ⟨-, answer⟩ := Compositor.allow_eq_ok.mp presented
    split at answer
    · next shown bound =>
      cases answer
      exact ⟨shown, rfl⟩
    · cases answer

theorem Recorded.showFrame (recorded : Recorded start compositor daemon) (id : UInt32)
    (serial : Serial) (hit : Bool) :
    Recorded start compositor (daemon.showFrame id serial hit).1 := by
  have ready := recorded.prepareLayer serial
  obtain dropped | ⟨-, after, done, shown⟩ := daemon.showFrame_cases id serial hit
  · have counted : Recorded start compositor (daemon.prepareLayer serial).1.countDropped :=
      ⟨ready.presents, ready.imports, ready.binds⟩
    rw [dropped]
    exact counted.same (accounts_release _ serial)
  · obtain ⟨presented, rfl⟩ := presentLayer_eq_ok done
    have before := ready.presents
    have counted : Recorded start compositor (withShown { (daemon.prepareLayer serial).1 with
        compositor.presents :=
          (daemon.prepareLayer serial).1.compositor.presents ++ [presented] } serial) := by
      refine ⟨?_, ready.imports, ready.binds⟩
      dsimp only [withShown]
      rw [List.length_append, List.length_singleton]
      omega
    rw [shown]
    exact counted.same (accounts_releaseOption _ _)

theorem Recorded.presentExport (recorded : Recorded start compositor daemon) (exported : Export) :
    Recorded start compositor (daemon.presentExport exported).1 := by
  unfold Daemon.presentExport
  split
  · exact recorded
  · split
    · exact ⟨recorded.presents, recorded.imports, recorded.binds⟩
    · next fetched serial hit success =>
      exact (recorded.fetchBuffer success).showFrame exported.id serial hit

theorem Recorded.step [Backlight β] (recorded : Recorded start compositor daemon)
    (step : Step β) : Recorded start compositor (daemon.step step).daemon := by
  cases frame : step.frame? with
  | none => exact recorded.same (daemon.accounts_step frame)
  | some exported =>
    obtain ⟨rfl, -⟩ := Step.frame?_eq_some.mp frame
    exact recorded.presentExport exported

theorem Recorded.steps [Backlight β] (recorded : Recorded start compositor daemon)
    (run : List (Step β)) : Recorded start compositor (daemon.steps run) := by
  induction run generalizing daemon with
  | nil => exact recorded
  | cons step run ih => exact ih (recorded.step step)

/-! ## Validations completed -/

theorem completed_validateLayer (daemon : Daemon β) :
    daemon.validateLayer.1.stats.validates = daemon.stats.validates +
      LayerEvent.completed (daemon.compositor.layerSince daemon.validateLayer.1.compositor) := by
  have validation := daemon.validation
  generalize daemon.validateLayer = outcome at validation ⊢
  cases validation with
  | spared | refused =>
    rw [Compositor.layerSince_of_same rfl]
    rfl
  | unaccepted due changes =>
    rw [Compositor.layerSince_of_unaccepted changes rfl]
    rfl
  | completed due compositor layer =>
    dsimp only [validated]
    rw [Compositor.layerSince_of_validates rfl layer]
    rfl

theorem completed_prepareLayer (daemon : Daemon β) (serial : Serial) :
    (daemon.prepareLayer serial).1.stats.validates = daemon.stats.validates +
      LayerEvent.completed
        (daemon.compositor.layerSince (daemon.prepareLayer serial).1.compositor) := by
  have binding := daemon.binding serial
  unfold prepareLayer
  generalize daemon.bindLayer serial = outcome at binding ⊢
  cases binding with
  | spared => exact daemon.completed_validateLayer
  | refused =>
    rw [Compositor.layerSince_of_same rfl]
    rfl
  | done =>
    have validated := (daemon.withBound serial).completed_validateLayer
    rw [Compositor.completed_layerSince] at validated ⊢
    exact validated

theorem completed_showBuffer (daemon : Daemon β) (serial : Serial) :
    (daemon.showBuffer serial).1.stats.validates = daemon.stats.validates +
      LayerEvent.completed
        (daemon.compositor.layerSince (daemon.showBuffer serial).1.compositor) := by
  have ready := daemon.completed_prepareLayer serial
  rcases daemon.showBuffer_fst serial with same | same
  · rw [same]
    exact ready
  · rw [same, stats_presentLayer,
      Compositor.layerSince_congr (daemon.prepareLayer serial).1.sameLayer_presentLayer.layer]
    exact ready

theorem completed_presentExport (daemon : Daemon β) (exported : Export) :
    (daemon.presentExport exported).1.stats.validates = daemon.stats.validates +
      LayerEvent.completed
        (daemon.compositor.layerSince (daemon.presentExport exported).1.compositor) := by
  have shown {fetched after : Daemon β} {serial : Serial} {hit : Bool}
      {result : Except Failure Unit}
      (success : daemon.fetchBuffer exported = .ok (fetched, serial, hit))
      (done : fetched.showBuffer serial = (after, result)) :
      after.stats.validates = daemon.stats.validates +
        LayerEvent.completed (daemon.compositor.layerSince after.compositor) := by
    have counted := fetched.completed_showBuffer serial
    rw [done, compositor_fetchBuffer success, stats_fetchBuffer success] at counted
    exact counted
  have unshown : daemon.stats.validates = daemon.stats.validates +
      LayerEvent.completed (daemon.compositor.layerSince daemon.compositor) := by
    rw [Compositor.layerSince_of_same rfl]
    rfl
  have course := daemon.course exported
  generalize daemon.presentExport exported = result at course ⊢
  cases course with
  | nothing | unfit => exact unshown
  | refused content success refused =>
    have counted := shown success refused
    exact counted
  | shown content success done =>
    have counted := shown success done
    rw [stats_releaseOption, compositor_releaseOption]
    exact counted

theorem completed_step [Backlight β] (daemon : Daemon β) (step : Step β) :
    (daemon.step step).daemon.stats.validates =
      daemon.stats.validates + LayerEvent.completed (daemon.layerEvents step) := by
  have unnoticed : LayerEvent.completed (step.notice?.toList.map LayerEvent.notice) = 0 := by
    cases step.notice? <;> rfl
  rw [layerEvents, LayerEvent.completed_append, unnoticed, Nat.zero_add]
  cases frame : step.frame? with
  | none =>
    have same := daemon.accounts_step frame
    simp only [accounts, Prod.mk.injEq] at same
    obtain ⟨counts, -, layer, -⟩ := same
    rw [Compositor.layerSince_of_same layer, counts]
    rfl
  | some exported =>
    obtain ⟨rfl, -⟩ := Step.frame?_eq_some.mp frame
    exact daemon.completed_presentExport exported

theorem completed_steps [Backlight β] (daemon : Daemon β) (run : List (Step β)) :
    (daemon.steps run).stats.validates =
      daemon.stats.validates + LayerEvent.completed (daemon.layerHistory run) := by
  induction run generalizing daemon with
  | nil => rfl
  | cons step run ih =>
    have rest := ih (daemon.step step).daemon
    rw [daemon.completed_step step] at rest
    rw [layerHistory, LayerEvent.completed_append, ← Nat.add_assoc]
    exact rest

end Daemon

namespace Station

variable {β : Type}

theorem counts_start {feed : Feed} {start : Allocator} {compositor : Compositor}
    {backlight : Option β} {config : DaemonConfig} {station : Station β}
    (started : (Station.start feed start compositor backlight config).1 = .running station) :
    Daemon.Balanced 0 0 station.daemon ∧ Daemon.Recorded start compositor station.daemon ∧
      station.daemon.stats.validates = 0 := by
  have turned := (lights_start started).1
  obtain ⟨-, answer⟩ := Compositor.allow_eq_ok.mp turned
  have lit := Except.ok.inj answer
  have cases := start_cases feed start compositor backlight config
  rw [started] at cases
  obtain ⟨other, desc, new⟩ := cases
  have recorded : Daemon.Recorded start compositor station.daemon := by
    constructor
    · rw [← lit, new]
      rfl
    · rw [new]
      rfl
    · rw [← lit, new]
      rfl
  rw [new] at recorded ⊢
  exact ⟨⟨rfl, rfl, Nat.le_refl 0, Nat.le_refl 0⟩, recorded, rfl⟩

/-- What a daemon does about the active frame is what it does about an export that it gets; with
none, it does nothing. -/
theorem tells_presentActive (station : Station β) :
    match station.feed.exportFrame.answer with
    | .error error =>
      station.presentActive.result = .error error ∧
        station.presentActive.station.daemon = station.daemon
    | .ok exported => ∃ outcome, station.presentActive.result = .ok outcome ∧
        station.presentActive.station.daemon = (station.daemon.presentExport exported).1 ∧
        outcome.Tells exported station.daemon station.presentActive.station.daemon := by
  unfold presentActive
  dsimp only
  cases station.feed.exportFrame.answer with
  | error error => exact ⟨rfl, rfl⟩
  | ok exported => exact ⟨_, rfl, rfl, station.daemon.tells_presentExport exported⟩

/-- In every run of a daemon its counts balance.  Every frame, which is an export that is not
empty, is presented or dropped; and its buffer is cached, is imported, or fails to be, which
happens exactly where its id is not cached and it is unfit.  Presents, imports and binds are as
many as the collaborators did for the daemon, and validations as many as were completed; no count
exceeds that of the frames.  A daemon that asks for the active frame gets an error, which changes
nothing; or it gets an export, and the outcome tells how the counts go up. -/
theorem counts_balance [Backlight β] {feed : Feed} {start : Allocator} {compositor : Compositor}
    {backlight : Option β} {config : DaemonConfig} {station : Station β}
    (started : (Station.start feed start compositor backlight config).1 = .running station)
    (run : List (Daemon.Step β)) :
    let daemon := station.daemon.steps run
    let stats := daemon.stats
    let frames := (Daemon.framesOf run).length
    stats.presented + stats.dropped = frames ∧
    stats.cacheHits + stats.imports + station.daemon.failedImports run = frames ∧
    stats.presented = (compositor.presentedSince daemon.compositor).length ∧
    stats.imports = (start.importedSince daemon.allocator).length ∧
    stats.binds = (compositor.boundSince daemon.compositor).length ∧
    stats.validates = LayerEvent.completed (station.daemon.layerHistory run) ∧
    (∀ count ∈ stats.counts, count ≤ frames) ∧
    (∀ exported, daemon.failsImport exported = true ↔
      daemon.cache.lookup exported.id = none ∧
        exported.Unfit daemon.unreadable daemon.allocator) ∧
    ∀ feed : Feed,
      let done := (⟨feed, daemon⟩ : Station β).presentActive
      match feed.exportFrame.answer with
      | .error error => done.result = .error error ∧ done.station.daemon = daemon
      | .ok exported => ∃ outcome, done.result = .ok outcome ∧
          done.station.daemon = station.daemon.steps (run ++ [.frame exported]) ∧
          outcome.Tells exported daemon done.station.daemon := by
  intro daemon stats frames
  obtain ⟨nothing, unrecorded, none⟩ := counts_start started
  have within := (nothing.steps run).count_le
  obtain ⟨fates, found, -, -⟩ := nothing.steps run
  have recorded : Daemon.Recorded start compositor daemon := unrecorded.steps run
  have validates := station.daemon.completed_steps run
  rw [Nat.zero_add] at fates found within
  rw [Nat.zero_add] at found
  rw [none, Nat.zero_add] at validates
  refine ⟨fates, found, ?_, ?_, ?_, validates, within, daemon.failsImport_iff, ?_⟩
  · rw [Compositor.presentedSince, List.length_drop, recorded.presents, Nat.add_sub_cancel_left]
  · rw [Allocator.importedSince, List.length_drop, recorded.imports, Nat.add_sub_cancel_left]
  · rw [Compositor.boundSince, List.length_drop, recorded.binds, Nat.add_sub_cancel_left]
  · intro feed done
    have told := tells_presentActive ⟨feed, daemon⟩
    dsimp only at told ⊢
    cases answer : feed.exportFrame.answer with
    | error error =>
      rw [answer] at told
      exact told
    | ok exported =>
      rw [answer] at told
      obtain ⟨outcome, result, after, tells⟩ := told
      refine ⟨outcome, result, ?_, tells⟩
      rw [after, Daemon.steps, List.foldl_concat]
      rfl

/-- A frame that is imported and presented, and presented again from the cache; one that has too
few handles; an export of nothing; and a frame whose present is refused.  The daemon counts four
frames, one of which could not be imported. -/
theorem counts_balance_every_course :
    let frame (id : UInt32) : Export := ⟨id, [some ⟨1, []⟩, some ⟨9, [7]⟩]⟩
    let run : List (Daemon.Step Panel) :=
      [.frame (frame 1), .frame (frame 1), .frame ⟨2, [some ⟨1, []⟩]⟩, .frame .empty,
        .refuseRequest .present true, .frame (frame 3)]
    ∃ station : Station Panel,
      (Station.start ⟨.new .default, .link 0 []⟩ (.new 1920) (.new (.ofMode .default)) none
        .default).1 = .running station ∧
      (Daemon.framesOf run).length = 4 ∧ station.daemon.failedImports run = 1 ∧
      let stats := (station.daemon.steps run).stats
      stats.presented + stats.dropped = 4 ∧ stats.cacheHits + stats.imports = 3 ∧
      stats.binds = ((Compositor.new (.ofMode .default)).boundSince
        (station.daemon.steps run).compositor).length := by
  intro frame run
  let station : Station Panel := idle none .default
  have started : (Station.start ⟨.new .default, .link 0 []⟩ (.new 1920) (.new (.ofMode .default))
      none .default).1 = .running station := start_idle none .default
  have frames : (Daemon.framesOf run).length = 4 := by decide
  have failed : station.daemon.failedImports run = 1 := by decide
  obtain ⟨fates, found, -, -, binds, -⟩ := counts_balance started run
  rw [frames] at fates found
  rw [failed] at found
  exact ⟨station, started, frames, failed, fates, Nat.succ.inj found, binds⟩

end Station

end PresentRelay
