import Mathlib.Data.List.Perm.Basic
import PresentRelay.Pacing

/-!
# A pacer on its own slots

A relay arms its pacer with every commit.  A pacer by itself is not armed for all that waits: a
commit may go without a flush, and a cancellation disarms with a record still pending.  The other
direction is left: whatever is done to a pacer and its slots, it is armed only with something
pending, and never again once it was shut down.  `Cadence.Warranted` says so; every operation
keeps it.
-/

set_option autoImplicit false

namespace PresentRelay

/-! ## Slots -/

namespace Slots

theorem commitAll_fst (slots : Slots) (records : List Record) :
    (slots.commitAll records).1 =
      { slots with pending := records.getLast?.or slots.pending } := by
  induction records generalizing slots with
  | nil => rfl
  | cons record records ih =>
    have later := ih (slots.commit record).1
    rw [commitAll]
    dsimp only
    rw [later, commit]
    cases records with
    | nil => rfl
    | cons next rest =>
      rw [List.getLast?_cons_cons, List.getLast?_cons]
      rfl

/-- What two steps let go of adds up: the first lets go of some records held before, and the
second, to which more records are given, of some of the rest. -/
theorem perm_of_two_steps {before first middle more second after : List Record}
    (one : before.Perm (first ++ middle)) (two : (more ++ middle).Perm (second ++ after)) :
    (more ++ before).Perm (first ++ second ++ after) :=
  calc more ++ before
    _ |>.Perm (more ++ (first ++ middle)) := one.append_left more
    _ |>.Perm (first ++ (more ++ middle)) := List.perm_append_comm_assoc ..
    _ |>.Perm (first ++ (second ++ after)) := two.append_left first
    _ |>.Perm (first ++ second ++ after) := by rw [List.append_assoc]

theorem perm_commit (slots : Slots) (record : Record) :
    (record :: slots.records).Perm
      ((slots.commit record).2.toList ++ (slots.commit record).1.records) :=
  List.perm_middle.symm

/-- Commits lose nothing: what was in the slots or was committed is superseded or in the slots. -/
theorem perm_commitAll (slots : Slots) (records : List Record) :
    (records ++ slots.records).Perm
      ((slots.commitAll records).2 ++ (slots.commitAll records).1.records) := by
  induction records generalizing slots with
  | nil => exact .refl _
  | cons record records ih =>
    have committed := perm_of_two_steps (slots.perm_commit record) (ih (slots.commit record).1)
    exact List.perm_middle.symm.trans committed

theorem perm_retire (slots : Slots) :
    slots.records.Perm
      ((slots.retire.2.bind Retired.displaced).toList ++ slots.retire.1.records) := by
  obtain ⟨_ | pending, active⟩ := slots
  · exact .refl _
  · exact (List.perm_append_singleton pending active.toList).symm

end Slots

/-! ## Operations of a pacer -/

namespace Pacer

theorem arms_iff (pacer : Pacer) (slots : Slots) :
    pacer.arms slots = true ↔
      pacer.armed = none ∧ slots.pending.isSome ∧ pacer.stopped = false := by
  rw [arms, Bool.and_eq_true, Bool.and_eq_true, Bool.not_eq_true', Option.isNone_iff_eq_none]
  tauto

/-- A vertical blank moves on what was pending and is counted.  The last commit made meanwhile is
pending then, and the pacer is armed for it unless it was shut down. -/
theorem tickAmid_eq (pacer : Pacer) (slots : Slots) (meanwhile : List Record) :
    let rearmed := !pacer.stopped && !meanwhile.isEmpty
    pacer.tickAmid slots meanwhile =
      ({ pacer with
          armed := if rearmed then some pacer.interval else none
          sequence := pacer.sequence + 1 },
        ⟨meanwhile.getLast?, slots.pending.or slots.active⟩,
        ⟨slots.pending.map fun record => (record.id, record.count), pacer.sequence + 1,
          rearmed⟩) := by
  intro rearmed
  have flag : (!pacer.stopped && !meanwhile.isEmpty) = rearmed := rfl
  have waits : meanwhile.getLast?.isSome = !meanwhile.isEmpty := by
    cases meanwhile <;> simp
  -- the blank has emptied the pending slot, so that only a commit made meanwhile can be in it
  have moved : (slots.retire.1.commitAll meanwhile).1 =
      ⟨meanwhile.getLast?, slots.pending.or slots.active⟩ := by
    rw [Slots.commitAll_fst, Slots.retire_fst, Option.or_none]
  simp only [tickAmid, moved, Slots.retire_snd, flush, arms, Option.isNone_none, Bool.and_true,
    waits, flag, Option.map_map]
  clear_value rearmed
  cases rearmed <;> rfl

end Pacer

theorem Power.enter_eq (power target : Power) (slots : Slots) (pacer : Pacer) :
    power.enter target slots pacer =
      if target = .off then (power, .empty, { pacer with armed := none })
      else (power, slots, pacer) := by
  cases target <;> rfl

/-! ## Runs -/

structure Cadence where
  pacer : Pacer
  slots : Slots
  power : Power
  deriving DecidableEq, Repr

namespace Cadence

inductive Operation where
  /-- A commit without a flush. -/
  | commit (record : Record)
  | flush
  /-- A vertical blank, with the commits made while it goes on. -/
  | tick (meanwhile : List Record)
  | cancel
  | halt
  | enter (target : Power)
  | rate (hz : UInt32)
  | shutdown
  deriving DecidableEq, Repr

namespace Operation

def committed : Operation → List Record
  | .commit record => [record]
  | .tick meanwhile => meanwhile
  | _ => []

def isTick : Operation → Bool
  | .tick _ => true
  | _ => false

end Operation

def new (hz : UInt32) (power : Power) : Cadence := ⟨.new hz, .empty, power⟩

def operate (cadence : Cadence) : Operation → Cadence
  | .commit record => { cadence with slots := (cadence.slots.commit record).1 }
  | .flush => { cadence with pacer := (cadence.pacer.flush cadence.slots).1 }
  | .tick meanwhile =>
    let (pacer, slots, _) := cadence.pacer.tickAmid cadence.slots meanwhile
    { cadence with pacer, slots }
  | .cancel => { cadence with pacer := cadence.pacer.cancel }
  | .halt =>
    let (pacer, slots, _) := cadence.pacer.halt cadence.slots
    { cadence with pacer, slots }
  | .enter target =>
    let (_, slots, pacer) := cadence.power.enter target cadence.slots cadence.pacer
    ⟨pacer, slots, target⟩
  | .rate hz => { cadence with pacer := cadence.pacer.setRate hz }
  | .shutdown => { cadence with pacer := cadence.pacer.shutdown }

/-- The records that leave the slots with an operation: superseded by a commit, displaced by a
vertical blank, or cleared by a halt. -/
def released (cadence : Cadence) : Operation → List Record
  | .commit record => (cadence.slots.commit record).2.toList
  | .tick meanwhile =>
    (cadence.slots.retire.2.bind Retired.displaced).toList ++
      (cadence.slots.retire.1.commitAll meanwhile).2
  | .halt | .enter .off => (cadence.pacer.halt cadence.slots).2.2
  | _ => []

def run (cadence : Cadence) (operations : List Operation) : Cadence :=
  operations.foldl operate cadence

def allReleased : Cadence → List Operation → List Record
  | _, [] => []
  | cadence, operation :: operations =>
    cadence.released operation ++ (cadence.operate operation).allReleased operations

/-! ## What every operation keeps -/

/-- A pacer is armed only with something pending, and not when it was shut down. -/
def Warranted (cadence : Cadence) : Prop :=
  cadence.pacer.armed.isSome → cadence.slots.pending.isSome ∧ cadence.pacer.stopped = false

theorem warranted_of_idle {cadence : Cadence} (idle : cadence.pacer.armed = none) :
    cadence.Warranted := by
  intro armed
  rw [idle] at armed
  cases armed

theorem Warranted.flush {cadence : Cadence} (warranted : cadence.Warranted) :
    (cadence.operate .flush).Warranted := by
  rw [operate, Pacer.flush]
  by_cases due : cadence.pacer.arms cadence.slots = true
  · obtain ⟨-, waits, runs⟩ := (Pacer.arms_iff _ _).mp due
    rw [if_pos due]
    exact fun _ => ⟨waits, runs⟩
  · rw [if_neg due]
    exact warranted

theorem warranted_tick (cadence : Cadence) (meanwhile : List Record) :
    (cadence.operate (.tick meanwhile)).Warranted := by
  rw [operate, Pacer.tickAmid_eq]
  intro armed
  dsimp only at armed ⊢
  split at armed
  · next rearmed =>
    rw [Bool.and_eq_true, Bool.not_eq_true', Bool.not_eq_true'] at rearmed
    obtain ⟨runs, waits⟩ := rearmed
    refine ⟨?_, runs⟩
    rw [List.getLast?_isSome, ← List.isEmpty_eq_false_iff]
    exact waits
  · cases armed

theorem Warranted.operate {cadence : Cadence} (warranted : cadence.Warranted)
    (operation : Operation) : (cadence.operate operation).Warranted := by
  cases operation with
  | commit record => exact fun armed => ⟨rfl, (warranted armed).2⟩
  | flush => exact warranted.flush
  | tick meanwhile => exact cadence.warranted_tick meanwhile
  | cancel | halt | shutdown => exact warranted_of_idle rfl
  | enter target =>
    cases target with
    | off => exact warranted_of_idle rfl
    | on | noConsumer => exact warranted
  | rate hz => exact warranted

theorem Warranted.run {cadence : Cadence} (warranted : cadence.Warranted)
    (operations : List Operation) : (cadence.run operations).Warranted := by
  induction operations generalizing cadence with
  | nil => exact warranted
  | cons operation operations ih => exact ih (warranted.operate operation)

theorem stopped_operate (cadence : Cadence) (operation : Operation) :
    (cadence.operate operation).pacer.stopped = true ↔
      operation = .shutdown ∨ cadence.pacer.stopped = true := by
  cases operation with
  | flush =>
    rw [operate, Pacer.flush]
    split <;> simp
  | tick meanwhile =>
    rw [operate, Pacer.tickAmid_eq]
    simp
  | enter target => cases target <;> simp [operate, Power.enter, Pacer.halt, Pacer.cancel]
  | _ => simp [operate, Pacer.halt, Pacer.cancel, Pacer.setRate, Pacer.shutdown]

theorem stopped_run (cadence : Cadence) (operations : List Operation) :
    (cadence.run operations).pacer.stopped = true ↔
      .shutdown ∈ operations ∨ cadence.pacer.stopped = true := by
  induction operations generalizing cadence with
  | nil => simp [run]
  | cons operation operations ih =>
    rw [run, List.foldl_cons, ← run, ih, stopped_operate, List.mem_cons, eq_comm]
    tauto

theorem sequence_operate (cadence : Cadence) (operation : Operation) :
    (cadence.operate operation).pacer.sequence.toNat =
      (cadence.pacer.sequence.toNat + operation.isTick.toNat) % UInt64.size := by
  -- all but vertical blanks leave the sequence alone
  have kept : cadence.pacer.sequence.toNat =
      (cadence.pacer.sequence.toNat + false.toNat) % UInt64.size :=
    (Nat.mod_eq_of_lt cadence.pacer.sequence.toNat_lt).symm
  cases operation with
  | flush =>
    rw [operate, Pacer.flush]
    split <;> exact kept
  | tick meanwhile =>
    rw [operate, Pacer.tickAmid_eq]
    exact UInt64.toNat_add cadence.pacer.sequence 1
  | enter target => cases target <;> exact kept
  | _ => exact kept

theorem sequence_run (cadence : Cadence) (operations : List Operation) :
    (cadence.run operations).pacer.sequence.toNat =
      (cadence.pacer.sequence.toNat + operations.countP Operation.isTick) % UInt64.size := by
  induction operations generalizing cadence with
  | nil => exact (Nat.mod_eq_of_lt cadence.pacer.sequence.toNat_lt).symm
  | cons operation operations ih =>
    have counted : (operation :: operations).countP Operation.isTick =
        operation.isTick.toNat + operations.countP Operation.isTick := by
      rw [List.countP_cons, Nat.add_comm]
      cases operation.isTick <;> rfl
    rw [run, List.foldl_cons, ← run, ih, sequence_operate, counted, Nat.mod_add_mod, Nat.add_assoc]

/-- What was in the slots or is committed leaves them with the operation, or is in them still. -/
theorem perm_operate (cadence : Cadence) (operation : Operation) :
    (operation.committed ++ cadence.slots.records).Perm
      (cadence.released operation ++ (cadence.operate operation).slots.records) := by
  cases operation with
  | commit record => exact cadence.slots.perm_commit record
  | tick meanwhile =>
    have moved : (cadence.operate (.tick meanwhile)).slots =
        (cadence.slots.retire.1.commitAll meanwhile).1 := rfl
    rw [moved]
    exact Slots.perm_of_two_steps cadence.slots.perm_retire
      (cadence.slots.retire.1.perm_commitAll meanwhile)
  | halt => exact List.perm_append_comm
  | enter target =>
    cases target with
    | off => exact List.perm_append_comm
    | on | noConsumer => exact .refl _
  | _ => exact .refl _

theorem perm_run (cadence : Cadence) (operations : List Operation) :
    (operations.flatMap Operation.committed ++ cadence.slots.records).Perm
      (cadence.allReleased operations ++ (cadence.run operations).slots.records) := by
  induction operations generalizing cadence with
  | nil => exact .refl _
  | cons operation operations ih =>
    rw [List.flatMap_cons, List.append_assoc]
    have steps := Slots.perm_of_two_steps (cadence.perm_operate operation)
      (ih (cadence.operate operation))
    exact (List.perm_append_comm_assoc ..).trans steps

end Cadence

/-! ## Pacers that are driven -/

namespace Pacing

open Cadence (Operation)

/-- Whether a step reaches past the pacer into its slots. -/
def Step.bypasses : Step → Bool
  | .retire | .takeActive | .clear | .dropSlots => true
  | _ => false

def operation? (pacing : Pacing) : Step → Option Operation
  | .commit id planes =>
    (pacing.framebuffer id planes).2.toOption.map fun framebuffer =>
      .commit (.ofFramebuffer framebuffer)
  | .flush => some .flush
  | .tick => some (.tick [])
  | .cancel => some .cancel
  | .halt => some .halt
  | .shutdown => some .shutdown
  | .rate hz => some (.rate hz)
  | .enter target => some (.enter target)
  | _ => none

def run (pacing : Pacing) (steps : List Step) : Pacing :=
  steps.foldl (fun pacing step => (pacing.step step).1) pacing

def operations : Pacing → List Step → List Operation
  | _, [] => []
  | pacing, step :: steps =>
    (pacing.operation? step).toList ++ (pacing.step step).1.operations steps

def cadence (pacing : Pacing) : Cadence := ⟨pacing.pacer, pacing.slots, pacing.power⟩

theorem cadence_framebuffer (pacing : Pacing) (id : UInt32) (planes : Nat) :
    (pacing.framebuffer id planes).1.cadence = pacing.cadence := rfl

theorem cadence_step (pacing : Pacing) {step : Step} (paced : step.bypasses = false) :
    (pacing.step step).1.cadence =
      (pacing.operation? step).elim pacing.cadence pacing.cadence.operate := by
  cases step with
  | commit id planes =>
    have kept := pacing.cadence_framebuffer id planes
    rw [operation?, step]
    generalize pacing.framebuffer id planes = made at kept ⊢
    obtain ⟨after, error | framebuffer⟩ := made
    · exact kept
    · exact congrArg (Cadence.operate · (.commit (.ofFramebuffer framebuffer))) kept
  | putSpare id planes =>
    have kept := pacing.cadence_framebuffer id planes
    rw [step]
    generalize pacing.framebuffer id planes = made at kept ⊢
    obtain ⟨after, error | framebuffer⟩ := made <;> exact kept
  | tick =>
    rw [operation?, Option.elim_some, Cadence.operate]
    dsimp only [cadence]
    rw [Pacer.tickAmid_nil]
    rfl
  | retire | takeActive | clear | dropSlots => cases paced
  | _ => rfl

/-- A pacer that is driven through its own operations goes through them as `Cadence` says. -/
theorem cadence_run (pacing : Pacing) {steps : List Step}
    (paced : ∀ step ∈ steps, step.bypasses = false) :
    (pacing.run steps).cadence = pacing.cadence.run (pacing.operations steps) := by
  induction steps generalizing pacing with
  | nil => rfl
  | cons step steps ih =>
    have first := pacing.cadence_step (paced step List.mem_cons_self)
    have rest := ih (pacing.step step).1 fun later among =>
      paced later (List.mem_cons_of_mem step among)
    rw [run, List.foldl_cons, ← run, rest, first, operations]
    cases pacing.operation? step <;> rfl

end Pacing

namespace Cadence

/-! ## The whole run -/

/-- Whatever is done to a pacer and its slots, it is armed only with something pending, and never
once it was shut down.  The sequence counts the vertical blanks.  No record that was committed is
lost or let go twice.  A flush arms the pacer exactly if it was idle with something pending, before
the shutdown.  A vertical blank moves the pending record on, reports it, and leaves the pacer idle
unless something was committed meanwhile.  A halt and power off empty the slots and disarm; the
other power states touch neither. -/
theorem armed_only_for_pending (hz : UInt32) (power : Power) (operations : List Operation) :
    let cadence := (new hz power).run operations
    let pacer := cadence.pacer
    let slots := cadence.slots
    let ended := .shutdown ∈ operations
    -- the pacer between operations
    (pacer.armed.isSome → slots.pending.isSome ∧ ¬ ended) ∧
    pacer.sequence.toNat = operations.countP Operation.isTick % UInt64.size ∧
    (operations.flatMap Operation.committed).Perm
      ((new hz power).allReleased operations ++ slots.records) ∧
    -- a flush
    ((pacer.flush slots).2 = true ↔ pacer.armed = none ∧ slots.pending.isSome ∧ ¬ ended) ∧
    (pacer.flush slots).1 =
      (if (pacer.flush slots).2 then { pacer with armed := some pacer.interval } else pacer) ∧
    -- a vertical blank
    pacer.tick slots =
      ({ pacer with armed := none, sequence := pacer.sequence + 1 },
        ⟨none, slots.pending.or slots.active⟩,
        ⟨slots.pending.map fun record => (record.id, record.count), pacer.sequence + 1, false⟩) ∧
    pacer.tickAmid slots [] = pacer.tick slots ∧
    (∀ meanwhile,
      let (after, moved, tick) := pacer.tickAmid slots meanwhile
      after = { pacer with
        armed := if tick.rearmed then some pacer.interval else none
        sequence := pacer.sequence + 1 } ∧
      moved = ⟨meanwhile.getLast?, slots.pending.or slots.active⟩ ∧
      tick.retired = slots.pending.map (fun record => (record.id, record.count)) ∧
      tick.sequence = pacer.sequence + 1 ∧
      (tick.rearmed = true ↔ meanwhile ≠ [] ∧ ¬ ended)) ∧
    -- a halt, and the power states
    pacer.halt slots = ({ pacer with armed := none }, .empty, slots.records) ∧
    ∀ target, cadence.power.enter target slots pacer =
      if target = .off then (cadence.power, .empty, { pacer with armed := none })
      else (cadence.power, slots, pacer) := by
  intro cadence pacer slots ended
  have warranted : cadence.Warranted := (warranted_of_idle rfl).run operations
  have stopped : pacer.stopped = true ↔ ended :=
    (stopped_run (new hz power) operations).trans (or_iff_left nofun)
  have runs : pacer.stopped = false ↔ ¬ ended := by
    rw [← stopped, Bool.not_eq_true]
  refine ⟨?_, ?_, ?_, ?_, ?_, pacer.tick_eq slots, pacer.tickAmid_nil slots, ?_, rfl,
    fun target => cadence.power.enter_eq target slots pacer⟩
  · rw [← runs]
    exact warranted
  · have counted := (new hz power).sequence_run operations
    rw [← Nat.zero_add (operations.countP _)]
    exact counted
  · have kept := (new hz power).perm_run operations
    rw [← List.append_nil (operations.flatMap _)]
    exact kept
  · rw [← runs, ← pacer.arms_iff slots, Pacer.flush]
    cases pacer.arms slots <;> simp
  · rw [Pacer.flush]
    split <;> rfl
  · intro meanwhile
    rw [Pacer.tickAmid_eq]
    refine ⟨rfl, rfl, rfl, rfl, ?_⟩
    rw [← runs, Bool.and_eq_true, Bool.not_eq_true', Bool.not_eq_true', List.isEmpty_eq_false_iff,
      and_comm]

/-- What is pending need not be paced: after a cancellation the record stays, and no vertical blank
is due.  A commit in the midst of a vertical blank is paced without a flush. -/
example :
    let first : Record := ⟨1, []⟩
    let second : Record := ⟨2, []⟩
    let cancelled := (new 60 .on).run [.commit first, .flush, .cancel]
    let again := cancelled.run [.tick [second]]
    cancelled.pacer.armed = none ∧ cancelled.slots = ⟨some first, none⟩ ∧
    again.pacer.armed = some (refreshInterval 60) ∧ again.slots = ⟨some second, some first⟩ := by
  decide

end Cadence

end PresentRelay
