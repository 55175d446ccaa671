import Mathlib.Data.List.Induction
import Mathlib.Data.List.Chain
import PresentRelay.Daemon.Run
import PresentRelay.Proofs.Daemon.Lights

/-!
# Power notices one after the other

Whatever happens to a backlight between the notices, and whether or not it can be read and
set: the display is turned off and on by turns, and at each turn the backlight is asked for
one level at most.  `Sequenced` says what a policy remembers of the notices before; each
notice keeps it, and so does a run.
-/

set_option autoImplicit false

namespace PresentRelay

def PowerAction.display? : PowerAction → Option DisplayPower
  | .displayOff => some .off
  | .displayOn => some .on
  | .none | .invalidateCache => Option.none

theorem DisplayPower.after_eq_last (display : DisplayPower) (states : List Power) :
    display.after states = (states.filterMap Power.display?).getLast?.getD display := by
  induction states using List.reverseRecOn with
  | nil => rfl
  | append_singleton states state ih =>
    rw [after_concat, ih, next, List.filterMap_append]
    cases asked : state.display? with
    | none => simp [asked]
    | some power => simp [asked]

namespace Backlight

variable {β : Type} [Backlight β]

def ask (light : β) (level : UInt32) : β × Option Failure :=
  match setLevel light level with
  | .ok lit => (lit, none)
  | .error failure => (light, some failure)

end Backlight

def Warning.unset? : Warning → Option Failure
  | .backlightUndimmed failure => some failure
  | .backlightUnrestored failure => some failure
  | _ => none

namespace PowerPolicy

variable {β : Type}

/-! ## Runs of a policy -/

inductive Step (β : Type) where
  | notice (state : Power)
  | backlight (change : β → β)

structure Hearing (β : Type) where
  policy : PowerPolicy β
  state : Power

variable [Backlight β]

def step (policy : PowerPolicy β) : Step β → PowerPolicy β
  | .notice state => (policy.transition state).1
  | .backlight change => { policy with backlight := policy.backlight.map change }

def after (policy : PowerPolicy β) (run : List (Step β)) : PowerPolicy β := run.foldl step policy

omit [Backlight β] in
def hearing? (policy : PowerPolicy β) : Step β → Option (Hearing β)
  | .notice state => some ⟨policy, state⟩
  | .backlight _ => none

def hearings : PowerPolicy β → List (Step β) → List (Hearing β)
  | _, [] => []
  | policy, step :: run => (policy.hearing? step).toList ++ (policy.step step).hearings run

theorem after_concat (policy : PowerPolicy β) (run : List (Step β)) (step : Step β) :
    policy.after (run ++ [step]) = (policy.after run).step step :=
  List.foldl_append

theorem hearings_concat (policy : PowerPolicy β) (run : List (Step β)) (step : Step β) :
    policy.hearings (run ++ [step]) =
      policy.hearings run ++ ((policy.after run).hearing? step).toList := by
  induction run generalizing policy with
  | nil => simp [hearings, after]
  | cons first run ih =>
    rw [List.cons_append, hearings, ih, hearings, List.append_assoc]
    rfl

/-! ## What a notice comes to -/

namespace Hearing

def outcome (hearing : Hearing β) : PowerPolicy β := (hearing.policy.transition hearing.state).1

def action (hearing : Hearing β) : PowerAction := (hearing.policy.transition hearing.state).2.1

def warnings (hearing : Hearing β) : List Warning :=
  (hearing.policy.transition hearing.state).2.2

/-- The backlight is what asking it for one level leaves, or for none, and so are the
complaints. -/
def Asks (hearing : Hearing β) : Option UInt32 → Prop
  | none =>
    hearing.outcome.backlight = hearing.policy.backlight ∧
      hearing.warnings.filterMap Warning.unset? = []
  | some level => ∃ light, hearing.policy.backlight = some light ∧
      hearing.outcome.backlight = some (Backlight.ask light level).1 ∧
      hearing.warnings.filterMap Warning.unset? = (Backlight.ask light level).2.toList

def Darkens (hearing : Hearing β) : Prop :=
  ∃ light, hearing.policy.backlight = some light ∧ (Backlight.ask light 0).2 = none

end Hearing

/-- The powers that notices gave to the display, in order. -/
def turns (past : List (Hearing β)) : List DisplayPower :=
  past.filterMap fun hearing => hearing.action.display?

/-- The backlight went dark when the display was last turned off. -/
def Darkened (past : List (Hearing β)) : Prop :=
  ∃ hearing, (past.filter (·.action = .displayOff)).getLast? = some hearing ∧ hearing.Darkens

theorem turns_append (past more : List (Hearing β)) :
    turns (past ++ more) = turns past ++ turns more :=
  List.filterMap_append

theorem turns_singleton (hearing : Hearing β) :
    turns [hearing] = hearing.action.display?.toList := by
  cases told : hearing.action.display? <;> simp [turns, told]

theorem darkened_concat_off {past : List (Hearing β)} {hearing : Hearing β}
    (off : hearing.action = .displayOff) : Darkened (past ++ [hearing]) ↔ hearing.Darkens := by
  simp [Darkened, off]

theorem darkened_concat_of_ne {past : List (Hearing β)} {hearing : Hearing β}
    (other : hearing.action ≠ .displayOff) : Darkened (past ++ [hearing]) ↔ Darkened past := by
  simp [Darkened, other]

/-! ## Turning the display -/

theorem transition_off_of_missing {policy : PowerPolicy β} (on : policy.displayOn = true)
    (missing : policy.backlight = none) :
    policy.transition .off = ({ policy with displayOn := false }, .displayOff, []) := by
  rw [transition_off on]
  unfold dim
  rw [missing]
  cases policy.dimmed <;> rfl

theorem transition_off_of_undimmed {policy : PowerPolicy β} (on : policy.displayOn = true)
    (undimmed : policy.dimmed = false) {light : β} (there : policy.backlight = some light) :
    policy.transition .off =
      ({ policy with
          backlight := some (Backlight.ask light 0).1
          savedLevel := (levelBefore light).1
          dimmed := (Backlight.ask light 0).2.isNone
          displayOn := false },
        .displayOff,
        (levelBefore light).2 ++ ((Backlight.ask light 0).2.map .backlightUndimmed).toList) := by
  rw [transition_off on]
  unfold dim Backlight.ask
  rw [undimmed, there]
  cases told : Backlight.setLevel light 0 <;> simp [told]

theorem transition_on_of_undimmed {policy : PowerPolicy β} (off : policy.displayOn = false)
    (undimmed : policy.dimmed = false) :
    policy.transition .on = ({ policy with displayOn := true }, .displayOn, []) := by
  rw [transition_on off]
  unfold restore
  rw [undimmed]

theorem transition_on_of_dimmed {policy : PowerPolicy β} (off : policy.displayOn = false)
    (dimmed : policy.dimmed = true) {light : β} (there : policy.backlight = some light) :
    policy.transition .on =
      ({ policy with
          backlight := some (Backlight.ask light policy.restoredLevel).1
          dimmed := false
          displayOn := true },
        .displayOn,
        ((Backlight.ask light policy.restoredLevel).2.map .backlightUnrestored).toList) := by
  rw [transition_on off]
  obtain ⟨backlight, defaultLevel, savedLevel, wasDimmed, displayOn⟩ := policy
  obtain rfl : wasDimmed = true := dimmed
  obtain rfl : backlight = some light := there
  -- the level does not depend on what the display is
  have level : restoredLevel (⟨some light, defaultLevel, savedLevel, true, true⟩ : PowerPolicy β) =
      restoredLevel ⟨some light, defaultLevel, savedLevel, true, displayOn⟩ := rfl
  unfold restore Backlight.ask
  dsimp only
  rw [level]
  cases told : Backlight.setLevel light
    (restoredLevel ⟨some light, defaultLevel, savedLevel, true, displayOn⟩) <;> rfl

theorem unset?_levelBefore (light : β) :
    (levelBefore light).2.filterMap Warning.unset? = [] := by
  unfold levelBefore
  cases Backlight.level light <;> rfl

/-! ## Notices in sequence -/

/-- What a policy remembers of the notices before. -/
structure Sequenced (past : List (Hearing β)) (policy : PowerPolicy β) : Prop where
  display : policy.display = DisplayPower.on.after (past.map Hearing.state)
  turned : (DisplayPower.on :: turns past).getLast? = some policy.display
  alternate : (DisplayPower.on :: turns past).IsChain (· ≠ ·)
  dimmed : policy.dimmed = true ↔ policy.displayOn = false ∧ Darkened past
  there : policy.dimmed = true → policy.backlight.isSome = true

theorem sequenced_new (backlight : Option β) (defaultLevel : UInt32) :
    Sequenced [] (.new backlight defaultLevel) := by
  refine ⟨rfl, rfl, .singleton _, ?_, nofun⟩
  simp [new]

theorem Sequenced.undimmed {past : List (Hearing β)} {policy : PowerPolicy β}
    (sequenced : Sequenced past policy) (on : policy.displayOn = true) :
    policy.dimmed = false := by
  rw [Bool.eq_false_iff]
  intro dimmed
  have off := (sequenced.dimmed.mp dimmed).1
  rw [on] at off
  cases off

theorem Sequenced.alternates {past : List (Hearing β)} {policy : PowerPolicy β}
    (sequenced : Sequenced past policy) {power : DisplayPower} (other : policy.display ≠ power) :
    (DisplayPower.on :: (turns past ++ [power])).IsChain (· ≠ ·) := by
  rw [← List.cons_append]
  refine sequenced.alternate.append (.singleton _) ?_
  intro last isLast next isNext
  rw [sequenced.turned, Option.mem_some_iff] at isLast
  rw [List.head?_cons, Option.mem_some_iff] at isNext
  rwa [← isLast, ← isNext]

theorem Sequenced.switch {past : List (Hearing β)} {hearing : Hearing β}
    (sequenced : Sequenced past hearing.policy) {power : DisplayPower}
    (asked : hearing.state.display? = some power) (turned : hearing.action.display? = some power)
    (other : hearing.policy.display ≠ power) {after : PowerPolicy β}
    (display : after.display = power)
    (dimmed : after.dimmed = true ↔
      after.displayOn = false ∧ Darkened (past ++ [hearing]))
    (there : after.dimmed = true → after.backlight.isSome = true) :
    Sequenced (past ++ [hearing]) after := by
  have calls : turns (past ++ [hearing]) = turns past ++ [power] := by
    rw [turns_append, turns_singleton, turned]
    rfl
  refine ⟨?_, ?_, calls ▸ sequenced.alternates other, dimmed, there⟩
  · rw [List.map_append, List.map_singleton, DisplayPower.after_concat, DisplayPower.next, asked]
    exact display
  · rw [calls, ← List.cons_append, List.getLast?_concat, display]

theorem Sequenced.still {past : List (Hearing β)} {policy : PowerPolicy β}
    (sequenced : Sequenced past policy) {state : Power}
    (still : policy.display.next state = policy.display) :
    Sequenced (past ++ [⟨policy, state⟩]) policy := by
  have action : (⟨policy, state⟩ : Hearing β).action =
      if state = .noConsumer then .invalidateCache else .none := by
    rw [Hearing.action, transition_still still]
  have unturned : PowerPolicy.turns (past ++ [⟨policy, state⟩]) = PowerPolicy.turns past := by
    rw [turns_append, turns_singleton, action]
    split <;> exact List.append_nil _
  have other : (⟨policy, state⟩ : Hearing β).action ≠ .displayOff := by
    rw [action]
    split <;> decide
  refine ⟨?_, ?_, ?_, ?_, sequenced.there⟩
  · rw [List.map_append, List.map_singleton, DisplayPower.after_concat, ← sequenced.display]
    exact still.symm
  · rw [unturned]
    exact sequenced.turned
  · rw [unturned]
    exact sequenced.alternate
  · rw [darkened_concat_of_ne other]
    exact sequenced.dimmed

theorem Sequenced.off {past : List (Hearing β)} {policy : PowerPolicy β}
    (sequenced : Sequenced past policy) (on : policy.displayOn = true) :
    Sequenced (past ++ [⟨policy, .off⟩]) (policy.transition .off).1 := by
  have undimmed := sequenced.undimmed on
  have action : (⟨policy, .off⟩ : Hearing β).action = .displayOff := by
    rw [Hearing.action, transition_off on]
  have turned : (⟨policy, .off⟩ : Hearing β).action.display? = some .off := by
    rw [action]
    rfl
  have lit : policy.display ≠ .off := by simp [PowerPolicy.display, on]
  have darkened : Darkened (past ++ [⟨policy, .off⟩]) ↔ (⟨policy, .off⟩ : Hearing β).Darkens :=
    darkened_concat_off action
  obtain missing | ⟨light, there⟩ := Option.eq_none_or_eq_some policy.backlight
  · rw [transition_off_of_missing on missing]
    refine sequenced.switch rfl turned lit rfl ?_ ?_
    · rw [darkened]
      simp [Hearing.Darkens, missing, undimmed]
    · simp [undimmed]
  · rw [transition_off_of_undimmed on undimmed there]
    refine sequenced.switch rfl turned lit rfl ?_ fun _ => rfl
    rw [darkened]
    simp [Hearing.Darkens, there]

theorem Sequenced.on {past : List (Hearing β)} {policy : PowerPolicy β}
    (sequenced : Sequenced past policy) (off : policy.displayOn = false) :
    Sequenced (past ++ [⟨policy, .on⟩]) (policy.transition .on).1 := by
  have turned : (⟨policy, .on⟩ : Hearing β).action.display? = some .on := by
    rw [Hearing.action, transition_on off]
    rfl
  have dark : policy.display ≠ .on := by simp [PowerPolicy.display, off]
  cases dimmed : policy.dimmed with
  | false =>
    rw [transition_on_of_undimmed off dimmed]
    exact sequenced.switch rfl turned dark rfl (by simp [dimmed]) (by simp [dimmed])
  | true =>
    obtain ⟨light, there⟩ := Option.isSome_iff_exists.mp (sequenced.there dimmed)
    rw [transition_on_of_dimmed off dimmed there]
    exact sequenced.switch rfl turned dark rfl (by simp) (by simp)

theorem Sequenced.step {past : List (Hearing β)} {policy : PowerPolicy β}
    (sequenced : Sequenced past policy) (step : Step β) :
    Sequenced (past ++ (policy.hearing? step).toList) (policy.step step) := by
  cases step with
  | notice state =>
    obtain still | ⟨rfl, on⟩ | ⟨rfl, off⟩ := policy.turn_cases state
    · rw [PowerPolicy.step, transition_still still]
      exact sequenced.still still
    · exact sequenced.off on
    · exact sequenced.on off
  | backlight change =>
    have same : past ++ (policy.hearing? (.backlight change)).toList = past := List.append_nil _
    rw [same]
    refine ⟨sequenced.display, sequenced.turned, sequenced.alternate, sequenced.dimmed, ?_⟩
    intro dimmed
    rw [PowerPolicy.step, Option.isSome_map]
    exact sequenced.there dimmed

theorem sequenced_run (backlight : Option β) (defaultLevel : UInt32) (run : List (Step β)) :
    Sequenced ((new backlight defaultLevel).hearings run)
      ((new backlight defaultLevel).after run) := by
  induction run using List.reverseRecOn with
  | nil => exact sequenced_new backlight defaultLevel
  | append_singleton run step ih =>
    rw [hearings_concat, after_concat]
    exact ih.step step

/-! ## What the backlight is asked for -/

theorem Sequenced.asks_off {past : List (Hearing β)} {policy : PowerPolicy β}
    (sequenced : Sequenced past policy) (on : policy.displayOn = true) :
    (⟨policy, .off⟩ : Hearing β).Asks (policy.backlight.map fun _ => 0) := by
  have undimmed := sequenced.undimmed on
  obtain missing | ⟨light, there⟩ := Option.eq_none_or_eq_some policy.backlight
  · rw [missing]
    simp [Hearing.Asks, Hearing.outcome, Hearing.warnings, transition_off_of_missing on missing]
  · have failures : ((Backlight.ask light 0).2.map Warning.backlightUndimmed).toList.filterMap
        Warning.unset? = (Backlight.ask light 0).2.toList := by
      cases (Backlight.ask light 0).2 <;> rfl
    rw [there]
    refine ⟨light, there, ?_, ?_⟩
    · rw [Hearing.outcome, transition_off_of_undimmed on undimmed there]
    · rw [Hearing.warnings, transition_off_of_undimmed on undimmed there, List.filterMap_append,
        unset?_levelBefore, failures, List.nil_append]

theorem Sequenced.asks_on {past : List (Hearing β)} {policy : PowerPolicy β}
    (sequenced : Sequenced past policy) (off : policy.displayOn = false) :
    (Darkened past → (⟨policy, .on⟩ : Hearing β).Asks (some policy.restoredLevel)) ∧
      (¬Darkened past → (⟨policy, .on⟩ : Hearing β).Asks none) := by
  constructor
  · intro darkened
    have dimmed := sequenced.dimmed.mpr ⟨off, darkened⟩
    obtain ⟨light, there⟩ := Option.isSome_iff_exists.mp (sequenced.there dimmed)
    refine ⟨light, there, ?_, ?_⟩
    · rw [Hearing.outcome, transition_on_of_dimmed off dimmed there]
    · rw [Hearing.warnings, transition_on_of_dimmed off dimmed there]
      cases (Backlight.ask light policy.restoredLevel).2 <;> rfl
  · intro lit
    have undimmed : policy.dimmed = false :=
      Bool.eq_false_iff.mpr fun dimmed => lit (sequenced.dimmed.mp dimmed).2
    simp [Hearing.Asks, Hearing.outcome, Hearing.warnings, transition_on_of_undimmed off undimmed]

end PowerPolicy

/-! ## What the compositor is asked for -/

def Warning.refusedPower? : Warning → Option DisplayPower
  | .powerModeFailed mode _ => [DisplayPower.off, .on].find? fun power => power.title = mode
  | _ => none

theorem Warning.refusedPower?_title (power : DisplayPower) (failure : Failure) :
    (Warning.powerModeFailed power.title failure).refusedPower? = some power := by
  cases power <;> rfl

theorem PowerPolicy.refusedPower?_transition {β : Type} [Backlight β] (policy : PowerPolicy β)
    (state : Power) : (policy.transition state).2.2.filterMap Warning.refusedPower? = [] := by
  have unread (light : β) : (levelBefore light).2.filterMap Warning.refusedPower? = [] := by
    unfold levelBefore
    cases Backlight.level light <;> rfl
  obtain still | ⟨rfl, on⟩ | ⟨rfl, off⟩ := policy.turn_cases state
  · rw [transition_still still]
    rfl
  · rw [transition_off on]
    unfold dim
    split
    · next light _ _ =>
      cases Backlight.setLevel light 0 with
      | ok dark => exact unread light
      | error failure =>
        show List.filterMap Warning.refusedPower? (_ ++ _) = []
        rw [List.filterMap_append, unread]
        rfl
    · rfl
  · rw [transition_on off]
    unfold restore
    split
    · split <;> rfl
    · rfl

namespace Daemon

variable {β : Type}

def Step.ofPolicy? : Step β → Option (PowerPolicy.Step β)
  | .power notice => some (.notice notice)
  | .backlight change => some (.backlight change)
  | _ => none

variable [Backlight β]

/-- The powers that a step asks the compositor for, done first, then those refused. -/
def powersAsked (daemon : Daemon β) (step : Step β) : List DisplayPower :=
  (daemon.step step).daemon.compositor.powers.drop daemon.compositor.powers.length ++
    (daemon.step step).warnings.filterMap Warning.refusedPower?

def powerCalls : Daemon β → List (Step β) → List DisplayPower
  | _, [] => []
  | daemon, step :: run => daemon.powersAsked step ++ (daemon.step step).daemon.powerCalls run

omit [Backlight β] in
theorem powersAsked_setDisplayPower (daemon : Daemon β) (power : DisplayPower) :
    (daemon.setDisplayPower power).1.policy = daemon.policy ∧
      (daemon.setDisplayPower power).1.compositor.powers.drop daemon.compositor.powers.length ++
        (daemon.setDisplayPower power).2.filterMap Warning.refusedPower? = [power] := by
  unfold setDisplayPower
  cases told : daemon.compositor.setPower power with
  | ok compositor =>
    obtain ⟨-, answer⟩ := Compositor.allow_eq_ok.mp told
    cases answer
    simp
  | error failure => simp [Warning.refusedPower?_title]

theorem powersAsked_power (daemon : Daemon β) (notice : Power) :
    (daemon.step (.power notice)).daemon.policy = (daemon.policy.transition notice).1 ∧
      daemon.powersAsked (.power notice) =
        (daemon.policy.transition notice).2.1.display?.toList := by
  have raised := daemon.policy.refusedPower?_transition notice
  let noted : Daemon β :=
    { daemon with policy := (daemon.policy.transition notice).1, revalidate := true }
  unfold powersAsked
  simp only [step, handlePower]
  cases (daemon.policy.transition notice).2.1 with
  | none => simp [raised, PowerAction.display?]
  | displayOff =>
    obtain ⟨policy, asked⟩ := noted.powersAsked_setDisplayPower .off
    exact ⟨policy, by simpa [raised, PowerAction.display?] using asked⟩
  | displayOn =>
    obtain ⟨policy, asked⟩ := noted.powersAsked_setDisplayPower .on
    exact ⟨policy, by simpa [raised, PowerAction.display?] using asked⟩
  | invalidateCache =>
    obtain ⟨policy, others⟩ := Prod.mk.inj noted.lights_emptyCache
    have powers := (Prod.mk.inj others).2
    refine ⟨policy, ?_⟩
    simp [powers, raised, PowerAction.display?, noted]

omit [Backlight β] in
theorem refusedPower?_presentExport (daemon : Daemon β) (exported : Export) :
    (daemon.presentExport exported).2.2.filterMap Warning.refusedPower? = [] := by
  unfold presentExport
  split
  · rfl
  · split
    · rfl
    · unfold showFrame
      split <;> rfl

theorem powersAsked_of_none (daemon : Daemon β) {step : Step β} (other : step.ofPolicy? = none) :
    (daemon.step step).daemon.policy = daemon.policy ∧ daemon.powersAsked step = [] := by
  have quiet {after : Daemon β} (same : after.lights = daemon.lights) :
      after.policy = daemon.policy ∧
        after.compositor.powers.drop daemon.compositor.powers.length = [] := by
    obtain ⟨policy, others⟩ := Prod.mk.inj same
    rw [(Prod.mk.inj others).2]
    exact ⟨policy, List.drop_length⟩
  unfold powersAsked
  cases step with
  | power | backlight => cases other
  | frame exported =>
    obtain ⟨policy, powers⟩ := quiet (daemon.lights_presentExport exported)
    simp only [step]
    rw [powers, refusedPower?_presentExport]
    exact ⟨policy, rfl⟩
  | shutdown =>
    obtain ⟨policy, powers⟩ := quiet daemon.lights_shutdown
    simp only [step, quietly]
    rw [powers]
    exact ⟨policy, rfl⟩
  | expectValidation | refuseImports | loseFiles | refuseRequest =>
    simp [step, quietly, Compositor.setRefused]

theorem powerCalls_eq (daemon : Daemon β) (run : List (Step β)) :
    daemon.powerCalls run =
      PowerPolicy.turns (daemon.policy.hearings (run.filterMap Step.ofPolicy?)) := by
  induction run generalizing daemon with
  | nil => rfl
  | cons step run ih =>
    rw [powerCalls, ih]
    cases other : step.ofPolicy? with
    | none =>
      obtain ⟨policy, asked⟩ := daemon.powersAsked_of_none other
      rw [List.filterMap_cons_none other, asked, policy]
      rfl
    | some told =>
      rw [List.filterMap_cons_some other, PowerPolicy.hearings, PowerPolicy.turns_append]
      cases step with
      | power notice =>
        cases other
        obtain ⟨policy, asked⟩ := daemon.powersAsked_power notice
        have turned := PowerPolicy.turns_singleton ⟨daemon.policy, notice⟩
        rw [asked, policy]
        exact congrArg (· ++ _) turned.symm
      | backlight change =>
        cases other
        have asked : daemon.powersAsked (.backlight change) = [] := by
          simp [powersAsked, Daemon.step, quietly]
        rw [asked]
        rfl
      | frame | expectValidation | refuseImports | loseFiles | refuseRequest | shutdown =>
        cases other

end Daemon

namespace PowerPolicy

variable {β : Type} [Backlight β]

/-- Power notices in any number, with or without a backlight, and whatever happens to it between
them.  The display is on just if the last notice that speaks of it, or none so far, said so.  It
is turned off and on by turns, first off; and that is what a daemon asks its compositor for, so
that a notice told again asks for nothing.  A notice that the producers are gone changes
nothing but the cache.  A backlight counts as dimmed only while the display is off.  When the
display is turned off, the backlight is asked for zero, and for nothing else; when it is turned
on, for the level to come back to, if it went dark at the last turn, and else for nothing. -/
theorem display_turns_alternate (backlight : Option β) (defaultLevel : UInt32)
    (run : List (Step β)) :
    let start := new backlight defaultLevel
    let policy := start.after run
    let past := start.hearings run
    (policy.displayOn = true ↔
      ((past.map Hearing.state).filterMap Power.display?).getLast?.getD .on = .on) ∧
    (turns past).IsChain (· ≠ ·) ∧ (∀ first, (turns past).head? = some first → first = .off) ∧
    (∀ (daemon : Daemon β) (steps : List (Daemon.Step β)), daemon.policy = start →
      steps.filterMap Daemon.Step.ofPolicy? = run → daemon.powerCalls steps = turns past) ∧
    policy.transition .noConsumer = (policy, .invalidateCache, []) ∧
    (policy.dimmed = true → policy.displayOn = false ∧ policy.backlight.isSome = true) ∧
    ∀ state,
      let hearing : Hearing β := ⟨policy, state⟩
      match hearing.action with
      | .displayOff => hearing.Asks (policy.backlight.map fun _ => 0)
      | .displayOn =>
        (Darkened past → hearing.Asks (some policy.restoredLevel)) ∧
          (¬Darkened past → hearing.Asks none)
      | .none | .invalidateCache => hearing.Asks none := by
  intro start policy past
  have sequenced : Sequenced past policy := sequenced_run backlight defaultLevel run
  refine ⟨?_, sequenced.alternate.tail, ?_, ?_, rfl, ?_, ?_⟩
  · rw [← DisplayPower.after_eq_last, ← sequenced.display, display]
    cases policy.displayOn <;> simp
  · intro first isFirst
    have other := sequenced.alternate.rel_head? (Option.mem_def.mpr isFirst)
    cases first with
    | off => rfl
    | on => exact absurd rfl other
  · intro daemon steps fresh same
    rw [daemon.powerCalls_eq, fresh, same]
  · intro dimmed
    exact ⟨(sequenced.dimmed.mp dimmed).1, sequenced.there dimmed⟩
  · intro state hearing
    obtain still | ⟨rfl, on⟩ | ⟨rfl, off⟩ := policy.turn_cases state
    · have action : hearing.action = if state = .noConsumer then .invalidateCache else .none := by
        rw [Hearing.action, transition_still still]
      have quiet : hearing.Asks none := by
        simp [hearing, Hearing.Asks, Hearing.outcome, Hearing.warnings, transition_still still]
      rw [action]
      by_cases gone : state = .noConsumer
      · rwa [if_pos gone]
      · rwa [if_neg gone]
    · have action : hearing.action = .displayOff := by rw [Hearing.action, transition_off on]
      rw [action]
      exact sequenced.asks_off on
    · have action : hearing.action = .displayOn := by rw [Hearing.action, transition_on off]
      rw [action]
      exact sequenced.asks_on off

end PowerPolicy

end PresentRelay
