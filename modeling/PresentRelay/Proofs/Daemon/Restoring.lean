import PresentRelay.Proofs.Daemon.Turns

/-!
# The level that a backlight comes back to

While a backlight can be read and nobody but the policy sets it, it comes back to the level it
had at first, or to the default for zero, however often it refuses to go dark.  Where it
refuses to come back, it stays dark, and the policy takes that for its level at the next turn:
from then on it comes back to the default.  `Recoverable` says which level can still be had.
-/

set_option autoImplicit false

namespace PresentRelay

namespace Backlight

variable {β : Type} [Backlight β]

/-- Backlights that can be read, and have the level they were set to; they may refuse to be
set. -/
structure Readable (works : β → Prop) : Prop where
  reads : ∀ light, works light → ∃ level, Backlight.level light = .ok level
  keeps : ∀ light level lit, works light → setLevel light level = .ok lit →
    works lit ∧ Backlight.level lit = .ok level

theorem Readable.ask {works : β → Prop} (readable : Readable works) {light : β}
    (working : works light) {level : UInt32} (shows : Backlight.level light = .ok level)
    (asked : UInt32) :
    works (ask light asked).1 ∧ Backlight.level (ask light asked).1 =
      .ok (if (ask light asked).2.isNone then asked else level) := by
  unfold Backlight.ask
  cases told : setLevel light asked with
  | ok lit => exact readable.keeps light asked lit working told
  | error failure => exact ⟨working, shows⟩

end Backlight

theorem Panel.readable : Backlight.Readable fun panel : Panel => panel.readFails = false := by
  refine ⟨fun panel reads => ⟨panel.level, ?_⟩, fun panel level lit reads done => ?_⟩
  · simp [Backlight.level, read, reads]
  · simp only [Backlight.setLevel] at done
    split at done
    · cases done
    · cases done
      exact ⟨reads, by simp [Backlight.level, read, write, reads]⟩

def Warning.isUnrestored : Warning → Bool
  | .backlightUnrestored _ => true
  | _ => false

namespace PowerPolicy

variable {β : Type}

/-- Between notices, a backlight works on and keeps its level. -/
def Step.Undisturbed [Backlight β] (works : β → Prop) : Step β → Prop
  | .notice _ => True
  | .backlight change => ∀ light, works light →
      works (change light) ∧ Backlight.level (change light) = Backlight.level light

variable [Backlight β]

/-- The backlight was asked to come back and refused. -/
def Hearing.staysDark (hearing : Hearing β) : Bool := hearing.warnings.any Warning.isUnrestored

/-- The level that a backlight comes back to, if it had some level at first. -/
def recovered (defaultLevel level : UInt32) (past : List (Hearing β)) : UInt32 :=
  if level = 0 ∨ past.any Hearing.staysDark then defaultLevel else level

/-- The level that is to be recovered is saved while the backlight is dimmed, and else it is
the level now, or the default for zero. -/
def Recoverable (works : β → Prop) (level : UInt32) (policy : PowerPolicy β) : Prop :=
  ∃ light, policy.backlight = some light ∧ works light ∧
    if policy.dimmed then Backlight.level light = .ok 0 ∧ policy.restoredLevel = level
    else ∃ now, Backlight.level light = .ok now ∧
      (if now = 0 then policy.defaultLevel else now) = level

variable {works : β → Prop} {level : UInt32} {policy : PowerPolicy β}

theorem Recoverable.off (recoverable : Recoverable works level policy)
    (readable : Backlight.Readable works) (on : policy.displayOn = true)
    (undimmed : policy.dimmed = false) :
    Recoverable works level (policy.transition .off).1 ∧
      (⟨policy, .off⟩ : Hearing β).staysDark = false ∧
      (policy.transition .off).1.defaultLevel = policy.defaultLevel := by
  obtain ⟨light, there, working, found⟩ := recoverable
  rw [if_neg (by simp [undimmed])] at found
  obtain ⟨now, shows, comesBack⟩ := found
  have saved : (levelBefore light).1 = now ∧ (levelBefore light).2 = [] := by
    simp [levelBefore, shows]
  obtain ⟨still, after⟩ := readable.ask working shows 0
  rw [Hearing.staysDark, Hearing.warnings, transition_off_of_undimmed on undimmed there]
  refine ⟨⟨(Backlight.ask light 0).1, rfl, still, ?_⟩, ?_, rfl⟩
  · rw [after]
    cases (Backlight.ask light 0).2 with
    | none => exact ⟨rfl, by simpa [restoredLevel, saved.1] using comesBack⟩
    | some failure => exact ⟨now, rfl, comesBack⟩
  · rw [saved.2]
    cases (Backlight.ask light 0).2 <;> rfl

theorem Recoverable.on_of_undimmed (recoverable : Recoverable works level policy)
    (off : policy.displayOn = false) (undimmed : policy.dimmed = false) :
    Recoverable works level (policy.transition .on).1 ∧
      (⟨policy, .on⟩ : Hearing β).staysDark = false ∧
      (policy.transition .on).1.defaultLevel = policy.defaultLevel := by
  rw [Hearing.staysDark, Hearing.warnings, transition_on_of_undimmed off undimmed]
  exact ⟨recoverable, rfl, rfl⟩

theorem Recoverable.on_of_dimmed (recoverable : Recoverable works level policy)
    (readable : Backlight.Readable works) (off : policy.displayOn = false)
    (dimmed : policy.dimmed = true) :
    Recoverable works
        (if (⟨policy, .on⟩ : Hearing β).staysDark then policy.defaultLevel else level)
        (policy.transition .on).1 ∧
      (policy.transition .on).1.defaultLevel = policy.defaultLevel := by
  obtain ⟨light, there, working, found⟩ := recoverable
  rw [if_pos dimmed] at found
  obtain ⟨dark, comesBack⟩ := found
  obtain ⟨still, after⟩ := readable.ask working dark policy.restoredLevel
  rw [Hearing.staysDark, Hearing.warnings, transition_on_of_dimmed off dimmed there]
  refine ⟨⟨(Backlight.ask light policy.restoredLevel).1, rfl, still, ?_⟩, rfl⟩
  rw [after]
  cases (Backlight.ask light policy.restoredLevel).2 with
  | none =>
    refine ⟨policy.restoredLevel, rfl, ?_⟩
    -- a default of zero comes back as itself
    by_cases zero : policy.savedLevel = 0 <;>
      simp_all [restoredLevel]
  | some failure => exact ⟨0, rfl, by simp [Warning.isUnrestored]⟩

theorem recovered_concat (defaultLevel level : UInt32) (past : List (Hearing β))
    (hearing : Hearing β) :
    recovered defaultLevel level (past ++ [hearing]) =
      if hearing.staysDark then defaultLevel else recovered defaultLevel level past := by
  cases refused : hearing.staysDark <;> simp [recovered, refused]

/-! ## Runs -/

theorem recoverable_notice (readable : Backlight.Readable works) {past : List (Hearing β)}
    (sequenced : Sequenced past policy)
    (recoverable : Recoverable works (recovered policy.defaultLevel level past) policy)
    (state : Power) :
    Recoverable works (recovered policy.defaultLevel level (past ++ [⟨policy, state⟩]))
        (policy.transition state).1 ∧
      (policy.transition state).1.defaultLevel = policy.defaultLevel := by
  rw [recovered_concat]
  obtain still | ⟨rfl, on⟩ | ⟨rfl, off⟩ := policy.turn_cases state
  · rw [Hearing.staysDark, Hearing.warnings, transition_still still]
    exact ⟨recoverable, rfl⟩
  · obtain ⟨after, answered, same⟩ := recoverable.off readable on (sequenced.undimmed on)
    rw [answered]
    exact ⟨after, same⟩
  · cases dimmed : policy.dimmed with
    | false =>
      obtain ⟨after, answered, same⟩ := recoverable.on_of_undimmed off dimmed
      rw [answered]
      exact ⟨after, same⟩
    | true => exact recoverable.on_of_dimmed readable off dimmed

theorem recoverable_run (readable : Backlight.Readable works) {light : β} (working : works light)
    (shows : Backlight.level light = .ok level) (defaultLevel : UInt32) {run : List (Step β)}
    (undisturbed : ∀ step ∈ run, step.Undisturbed works) :
    let start := new (some light) defaultLevel
    Recoverable works (recovered defaultLevel level (start.hearings run)) (start.after run) ∧
      (start.after run).defaultLevel = defaultLevel := by
  intro start
  induction run using List.reverseRecOn with
  | nil =>
    refine ⟨⟨light, rfl, working, ?_⟩, rfl⟩
    simp [start, new, after, recovered, hearings, shows]
  | append_singleton run step ih =>
    obtain ⟨recoverable, same⟩ := ih fun other member =>
      undisturbed other (List.mem_append_left _ member)
    have sequenced := sequenced_run (some light) defaultLevel run
    rw [hearings_concat, after_concat]
    cases step with
    | notice state =>
      have notice := recoverable_notice readable sequenced (same.symm ▸ recoverable) state
      rw [same] at notice
      exact notice
    | backlight change =>
      obtain ⟨now, there, works, found⟩ := recoverable
      obtain ⟨still, keeps⟩ := undisturbed (.backlight change)
        (List.mem_append_right _ (List.mem_singleton_self _)) now works
      refine ⟨⟨change now, ?_, still, ?_⟩, same⟩
      · rw [PowerPolicy.step, there]
        rfl
      · rw [keeps, hearing?, Option.toList_none, List.append_nil]
        exact found

theorem Hearing.turns_on {hearing : Hearing β} (action : hearing.action = .displayOn) :
    hearing.state = .on ∧ hearing.policy.displayOn = false := by
  obtain ⟨policy, state⟩ := hearing
  rw [Hearing.action] at action
  obtain still | ⟨rfl, on⟩ | on := policy.turn_cases state
  · rw [transition_still still] at action
    dsimp only at action
    split at action <;> cases action
  · rw [transition_off on] at action
    cases action
  · exact on

theorem Recoverable.restoredLevel_eq (recoverable : Recoverable works level policy)
    (dimmed : policy.dimmed = true) : policy.restoredLevel = level := by
  obtain ⟨light, -, -, found⟩ := recoverable
  rw [if_pos dimmed] at found
  exact found.2

theorem Recoverable.level_of_dimmed (recoverable : Recoverable works level policy)
    (readable : Backlight.Readable works) (off : policy.displayOn = false)
    (dimmed : policy.dimmed = true)
    (comesBack : (⟨policy, .on⟩ : Hearing β).staysDark = false) :
    (⟨policy, .on⟩ : Hearing β).outcome.level? = some level := by
  obtain ⟨light, there, working, found⟩ := recoverable
  rw [if_pos dimmed] at found
  obtain ⟨dark, rfl⟩ := found
  obtain ⟨-, after⟩ := readable.ask working dark policy.restoredLevel
  rw [Hearing.staysDark, Hearing.warnings, transition_on_of_dimmed off dimmed there] at comesBack
  rw [Hearing.outcome, transition_on_of_dimmed off dimmed there]
  cases told : (Backlight.ask light policy.restoredLevel).2 with
  | none =>
    rw [told] at after
    simp [level?, after, Except.toOption]
  | some failure =>
    rw [told] at comesBack
    cases comesBack

/-- How bright a backlight comes back, in every run of notices, however often it refuses to be
set, while it can be read and nobody else sets it.  Whenever the display comes on and the
backlight went dark before, it is asked for the level it had at first, or for the default if
that was zero, unless it refused to come back before: then it is asked for the default.  If it
does not refuse, that is its level.  So it is as bright as it was at first, or as the default
for zero, exactly if it never refused to come back, or the default is what it should have. -/
theorem restored_level_exact (readable : Backlight.Readable works) {light : β}
    (working : works light) (shows : Backlight.level light = .ok level) (defaultLevel : UInt32)
    {run : List (Step β)} (undisturbed : ∀ step ∈ run, step.Undisturbed works) :
    let start := new (some light) defaultLevel
    let past := start.hearings run
    let wanted := if level = 0 then defaultLevel else level
    let asked := if past.any Hearing.staysDark then defaultLevel else wanted
    ∀ state, let hearing : Hearing β := ⟨start.after run, state⟩
      hearing.action = .displayOn →
        (¬Darkened past → hearing.Asks none) ∧
        (Darkened past → hearing.Asks (some asked) ∧
          (hearing.staysDark = false → hearing.outcome.level? = some asked)) ∧
        (asked = wanted ↔ past.any Hearing.staysDark = false ∨ wanted = defaultLevel) := by
  intro start past wanted asked state hearing action
  have sequenced : Sequenced past (start.after run) := sequenced_run (some light) defaultLevel run
  obtain ⟨turned, off⟩ := Hearing.turns_on action
  obtain rfl : state = .on := turned
  have target : recovered defaultLevel level past = asked := by
    by_cases zero : level = 0 <;> cases refused : past.any Hearing.staysDark <;>
      simp [recovered, asked, wanted, zero, refused]
  have recoverable : Recoverable works asked (start.after run) := by
    rw [← target]
    exact (recoverable_run readable working shows defaultLevel undisturbed).1
  refine ⟨(sequenced.asks_on off).2, fun darkened => ?_, ?_⟩
  · have dimmed := sequenced.dimmed.mpr ⟨off, darkened⟩
    refine ⟨?_, recoverable.level_of_dimmed readable off dimmed⟩
    rw [← recoverable.restoredLevel_eq dimmed]
    exact (sequenced.asks_on off).1 darkened
  · cases refused : past.any Hearing.staysDark with
    | false => simp [asked, refused]
    | true => simp [asked, refused, eq_comm]

def refusing (refuses : Bool) : Step Panel := .backlight ({ · with writeFails := refuses })

theorem undisturbed_refusing (refuses : Bool) :
    (refusing refuses).Undisturbed fun panel => panel.readFails = false :=
  fun _ reads => ⟨reads, rfl⟩

theorem undisturbed_notice (works : β → Prop) (state : Power) :
    (Step.notice state).Undisturbed works :=
  trivial

/-- A panel that refused to go dark, but went dark at the next turn, comes back as bright as it
was. -/
theorem restored_level_exact_after_refusal :
    let run := [refusing true, .notice .off, .notice .on, refusing false, .notice .off]
    let hearing : Hearing Panel := ⟨(new (some (.new 50)) 5).after run, .on⟩
    hearing.action = .displayOn ∧ hearing.outcome.level? = some 50 := by
  intro run hearing
  have undisturbed : ∀ step ∈ run, step.Undisturbed fun panel => panel.readFails = false := by
    simp [run, undisturbed_refusing, undisturbed_notice]
  have darkens : hearing.policy.dimmed = true := rfl
  have darkened := ((sequenced_run _ _ run).dimmed.mp darkens).2
  have shows : Backlight.level (Panel.new 50) = .ok 50 := rfl
  obtain ⟨-, comesBack, -⟩ :=
    restored_level_exact Panel.readable rfl shows 5 undisturbed .on rfl
  exact ⟨rfl, (comesBack darkened).2 rfl⟩

/-- A panel that refused to come back is asked for the default at the next turn, although the
default was not its level, and takes it. -/
theorem brightness_lost :
    let run := [.notice .off, refusing true, .notice .on, refusing false, .notice .off]
    let hearing : Hearing Panel := ⟨(new (some (.new 50)) 5).after run, .on⟩
    hearing.action = .displayOn ∧ hearing.policy.dimmed = true ∧ hearing.warnings = [] ∧
      hearing.outcome.level? = some 5 := by
  decide

end PowerPolicy

end PresentRelay
