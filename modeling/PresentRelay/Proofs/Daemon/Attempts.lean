import PresentRelay.Proofs.Daemon.Layer

/-!
# Attempts to show a frame

What an attempt asks the compositor for can be told from what the compositor recorded, and from
why the attempt failed.  It asks for just what is due, so that what an attempt did not get done
is asked for again at the next.
-/

set_option autoImplicit false

namespace PresentRelay

def Warning.unshown? : Warning → Option Failure
  | .presentFailed failure _ => some failure
  | _ => none

/-- An attempt to show a frame: the compositor before and after, and why it failed. -/
structure Attempt where
  before : Compositor
  after : Compositor
  failure : Option Failure

namespace Attempt

def FailsWhile (attempt : Attempt) (activity : String) : Prop :=
  ∃ failure, attempt.failure = some failure ∧ failure.outer = activity

def AsksBind (attempt : Attempt) : Prop :=
  attempt.before.boundSince attempt.after ≠ [] ∨ attempt.FailsWhile "error binding layer buffer"

def AsksValidation (attempt : Attempt) : Prop :=
  attempt.before.validates < attempt.after.validates ∨ attempt.FailsWhile "error validating"

end Attempt

namespace Daemon

variable {β : Type} {daemon : Daemon β}

def attempt (daemon : Daemon β) (exported : Export) : Attempt :=
  let (after, _, warnings) := daemon.presentExport exported
  ⟨daemon.compositor, after.compositor, (warnings.filterMap Warning.unshown?).head?⟩

/-- What follows once a buffer is bound: the layer is validated, then presented. -/
def presentValidated (daemon : Daemon β) : Daemon β × Except Failure Unit :=
  match daemon.validateLayer with
  | (daemon, .error failure) => (daemon, .error failure)
  | (daemon, .ok ()) => daemon.presentLayer

theorem showBuffer_eq (daemon : Daemon β) (serial : Serial) :
    daemon.showBuffer serial =
      match daemon.bindLayer serial with
      | (daemon, .error failure) => (daemon, .error failure)
      | (daemon, .ok ()) => daemon.presentValidated := by
  unfold showBuffer prepareLayer presentValidated
  rcases daemon.bindLayer serial with ⟨bound, failure | _⟩ <;> rfl

def attemptOf (before : Compositor) (shown : Daemon β × Except Failure Unit) : Attempt :=
  ⟨before, shown.1.compositor,
    match shown.2 with
    | .error failure => some failure
    | .ok () => none⟩

theorem attempt_eq {exported : Export} (content : exported.isEmpty = false) {fetched : Daemon β}
    {serial : Serial} {hit : Bool}
    (success : daemon.fetchBuffer exported = .ok (fetched, serial, hit)) :
    daemon.attempt exported = attemptOf daemon.compositor (fetched.showBuffer serial) := by
  unfold attempt attemptOf Daemon.presentExport Daemon.showFrame
  rw [if_neg (Bool.eq_false_iff.mp content), success]
  dsimp only
  rcases fetched.showBuffer serial with ⟨shown, failure | _⟩
  · simp [compositor_release, countDropped, Warning.unshown?]
  · simp [compositor_releaseOption]

theorem presentLayer_outer {after : Daemon β} {failure : Failure}
    (refused : daemon.presentLayer = (after, .error failure)) :
    failure.outer = "error presenting" := by
  unfold presentLayer at refused
  split at refused
  · cases refused
    rfl
  · cases refused

theorem presentLayer_attempt (before : Compositor) (daemon : Daemon β) {activity : String}
    (other : activity ≠ "error presenting") :
    (attemptOf before daemon.presentLayer).after.layer = daemon.compositor.layer ∧
      ¬(attemptOf before daemon.presentLayer).FailsWhile activity := by
  refine ⟨daemon.sameLayer_presentLayer.layer, ?_⟩
  rintro ⟨failure, told, outer⟩
  rcases done : daemon.presentLayer with ⟨after, refused | _⟩
  · rw [done] at told
    obtain rfl : refused = failure := Option.some.inj told
    exact other (outer.symm.trans (presentLayer_outer done))
  · rw [done] at told
    cases told

theorem presentValidated_attempt (before : Compositor) (daemon : Daemon β) :
    let attempt := attemptOf before daemon.presentValidated
    attempt.after.binds = daemon.compositor.binds ∧
      ¬attempt.FailsWhile "error binding layer buffer" ∧
      ((daemon.compositor.validates < attempt.after.validates ∨
          attempt.FailsWhile "error validating") ↔
        daemon.needsValidate = true ∨ daemon.revalidate = true) := by
  have validation := daemon.validation
  unfold presentValidated
  generalize daemon.validateLayer = outcome at validation ⊢
  cases validation with
  | spared idle settled =>
    obtain ⟨same, unbinding⟩ := daemon.presentLayer_attempt before
      (show "error binding layer buffer" ≠ "error presenting" by decide)
    obtain ⟨-, unvalidating⟩ := daemon.presentLayer_attempt before
      (show "error validating" ≠ "error presenting" by decide)
    simp only [Compositor.layer, Prod.mk.injEq] at same
    refine ⟨same.1, unbinding, ?_⟩
    dsimp only
    rw [same.2.1]
    simp [unvalidating, idle, settled]
  | refused due failure =>
    refine ⟨rfl, ?_, iff_of_true (.inr ⟨_, rfl, rfl⟩) due⟩
    have apart : "error validating" ≠ "error binding layer buffer" := by decide
    rintro ⟨other, told, outer⟩
    obtain rfl := Option.some.inj told
    exact apart outer
  | unaccepted due changes failure =>
    refine ⟨rfl, ?_, iff_of_true (.inl (Nat.lt_succ_self _)) due⟩
    have apart : "error accepting changes" ≠ "error binding layer buffer" := by decide
    rintro ⟨other, told, outer⟩
    obtain rfl := Option.some.inj told
    exact apart outer
  | completed due compositor layer =>
    obtain ⟨same, unbinding⟩ := presentLayer_attempt before
      (daemon.validated compositor (daemon.compositor.upcoming.headD false))
      (show "error binding layer buffer" ≠ "error presenting" by decide)
    have recorded := same.trans layer
    simp only [Compositor.layer, Prod.mk.injEq] at recorded
    refine ⟨recorded.1, unbinding, iff_of_true (.inl ?_) due⟩
    dsimp only
    rw [recorded.2.1]
    exact Nat.lt_succ_self _

theorem showBuffer_attempt (daemon : Daemon β) (serial : Serial) :
    let attempt := attemptOf daemon.compositor (daemon.showBuffer serial)
    (∀ bound ∈ attempt.before.boundSince attempt.after, bound = serial) ∧
      (attempt.AsksBind ↔ daemon.lastBound ≠ some serial ∨ daemon.revalidate = true) ∧
      (¬attempt.FailsWhile "error binding layer buffer" →
        (attempt.AsksValidation ↔ daemon.needsValidate = true ∨ daemon.revalidate = true)) := by
  have binding := daemon.binding serial
  rw [showBuffer_eq]
  generalize daemon.bindLayer serial = outcome at binding ⊢
  cases binding with
  | spared bound settled =>
    obtain ⟨binds, unbinding, validates⟩ := presentValidated_attempt daemon.compositor daemon
    have unbound := Compositor.boundSince_of_binds (binds.trans (List.append_nil _).symm)
    refine ⟨?_, ?_, fun _ => validates⟩
    · intro other member
      exact absurd member (unbound ▸ List.not_mem_nil)
    · exact iff_of_false (not_or.mpr ⟨not_not.mpr unbound, unbinding⟩) (by simp [bound, settled])
  | refused due failure =>
    refine ⟨?_, iff_of_true (.inr ⟨_, rfl, rfl⟩) due, fun bound => absurd ⟨_, rfl, rfl⟩ bound⟩
    intro other member
    have unbound := Compositor.boundSince_of_binds (List.append_nil daemon.compositor.binds).symm
    exact absurd member (unbound ▸ List.not_mem_nil)
  | done due =>
    obtain ⟨binds, unbinding, validates⟩ :=
      presentValidated_attempt daemon.compositor (daemon.withBound serial)
    have bound := Compositor.boundSince_of_binds binds
    refine ⟨?_, iff_of_true (.inl ?_) due, fun _ => validates⟩
    · intro other member
      exact List.mem_singleton.mp (bound ▸ member)
    · exact bound.symm ▸ List.cons_ne_nil _ _

end Daemon

namespace Station

variable {β : Type}

/-- In every run of a daemon, an attempt to show a buffer asks its compositor to bind that
buffer, and no other, exactly if it is not the one bound last since the start or since the
producers were last gone, or a power notice came since a validation was last complete.  If the
bind does not fail, it asks for a validation exactly if none was complete yet, or the last asked
for changes, or a power notice came since.  So nothing that is due gets lost, whatever fails in
between: it is asked for until it is done. -/
theorem layer_prepared_when_due [Backlight β] {feed : Feed} {start : Allocator}
    {compositor : Compositor} {backlight : Option β} {config : DaemonConfig} {station : Station β}
    (started : (Station.start feed start compositor backlight config).1 = .running station)
    (run : List (Daemon.Step β)) (exported : Export) (content : exported.isEmpty = false) :
    let daemon := station.daemon.steps run
    let past := station.daemon.layerHistory run
    let attempt := daemon.attempt exported
    ∀ fetched serial hit, daemon.fetchBuffer exported = .ok (fetched, serial, hit) →
      (∀ bound ∈ attempt.before.boundSince attempt.after, bound = serial) ∧
      (attempt.AsksBind ↔ LayerEvent.BindDue past serial) ∧
      (¬attempt.FailsWhile "error binding layer buffer" →
        (attempt.AsksValidation ↔ LayerEvent.ValidationDue past)) ∧
      ∀ before after, run = before ++ after →
        let earlier := station.daemon.layerHistory before
        let since := (station.daemon.steps before).layerHistory after
        (LayerEvent.boundLast earlier ≠ some serial → .bound serial ∉ since → attempt.AsksBind) ∧
        ((∀ event ∈ since, event.validated? = none) →
          (LayerEvent.Noticed earlier → attempt.AsksBind) ∧
          (LayerEvent.ValidationDue earlier →
            ¬attempt.FailsWhile "error binding layer buffer" → attempt.AsksValidation)) := by
  intro daemon past attempt fetched serial hit success
  have custody : Daemon.Custody start (max config.cacheSlots.toNat 1) daemon [] :=
    custody_steps started run
  have layered : Daemon.Layered past daemon :=
    (layered_start started).steps (custody_steps started []) run
  have found := layered.fetchBuffer success
  have cached := (custody.fetchBuffer success).2
  have asked := fetched.showBuffer_attempt serial
  have shown : attempt = Daemon.attemptOf fetched.compositor (fetched.showBuffer serial) :=
    Daemon.compositor_fetchBuffer success ▸ Daemon.attempt_eq content success
  rw [← shown] at asked
  obtain ⟨bound, binds, validates⟩ := asked
  have bindDue : attempt.AsksBind ↔ LayerEvent.BindDue past serial :=
    binds.trans (found.bindDue cached).symm
  have validationDue (done : ¬attempt.FailsWhile "error binding layer buffer") :
      attempt.AsksValidation ↔ LayerEvent.ValidationDue past :=
    (validates done).trans found.validationDue.symm
  refine ⟨bound, bindDue, validationDue, ?_⟩
  intro before after split earlier since
  have history : past = earlier ++ since := by
    rw [← Daemon.layerHistory_append, ← split]
  rw [history] at bindDue validationDue
  refine ⟨fun other unbound => ?_, fun unvalidated => ⟨fun noticed => ?_, fun due done => ?_⟩⟩
  · exact bindDue.mpr (.inl (LayerEvent.boundLast_append_ne other unbound))
  · exact bindDue.mpr (.inr (noticed.append unvalidated))
  · exact (validationDue done).mpr (due.append unvalidated)

/-- A power notice comes, and the validation after it is refused: the next attempt to show the
same buffer binds it again, and validates. -/
theorem layer_prepared_when_due_after_refusal :
    let frame : Export := ⟨1, [some ⟨1, []⟩, some ⟨9, [7]⟩]⟩
    let run : List (Daemon.Step Panel) :=
      [.frame frame, .power .off, .refuseRequest .validate true, .frame frame,
        .refuseRequest .validate false]
    ∃ station : Station Panel,
      (Station.start ⟨.new .default, .link 0 []⟩ (.new 1920) (.new (.ofMode .default)) none
        .default).1 = .running station ∧
      station.daemon.layerHistory run =
        [.bound 2, .validated false, .notice .off, .bound 2] ∧
      ((station.daemon.steps run).attempt frame).AsksBind ∧
      ((station.daemon.steps run).attempt frame).AsksValidation := by
  intro frame run
  let station : Station Panel := idle none .default
  have started : (Station.start ⟨.new .default, .link 0 []⟩ (.new 1920) (.new (.ofMode .default))
      none .default).1 = .running station := start_idle none .default
  have history : station.daemon.layerHistory run =
      [.bound 2, .validated false, .notice .off, .bound 2] := by decide
  have noticed : LayerEvent.Noticed
      (station.daemon.layerHistory [.frame frame, .power .off]) := ⟨.off, by decide⟩
  have unvalidated : ∀ event ∈ (station.daemon.steps [.frame frame, .power .off]).layerHistory
      (run.drop 2), event.validated? = none := by decide
  have willing : ¬((station.daemon.steps run).attempt frame).FailsWhile
      "error binding layer buffer" := by
    have none : ((station.daemon.steps run).attempt frame).failure = none := by decide
    simp [Attempt.FailsWhile, none]
  have cached : (station.daemon.steps run).cache.lookup frame.id = some 2 := by decide
  have due := layer_prepared_when_due started run frame rfl _ 2 true
    (Daemon.fetchBuffer_of_cached cached)
  obtain ⟨binds, validates⟩ := (due.2.2.2 [.frame frame, .power .off] _ rfl).2 unvalidated
  exact ⟨station, started, history, binds noticed, validates (.inr (.inr noticed)) willing⟩

end Station

end PresentRelay
