import PresentRelay.Mode
import PresentRelay.Power
import PresentRelay.Slots

/-!
# The pacer

The pacer decides when a vertical blank is due.  It is idle, or armed for one
refresh interval from the moment of arming.  Work in the pending slot arms it; a
vertical blank, a cancellation, a halt and the shutdown leave it idle.  A vertical
blank during which something is committed arms it again.
-/

set_option autoImplicit false

namespace PresentRelay

structure Tick where
  /-- Number and plane count of the record that became active. -/
  retired : Option (UInt32 × Nat)
  sequence : UInt64
  /-- Whether the pacer armed again; it does only for a commit made meanwhile. -/
  rearmed : Bool
  deriving DecidableEq, Repr

structure Pacer where
  /-- The interval that the pacer was armed for; none while idle. -/
  armed : Option Nat
  interval : Nat
  sequence : UInt64
  stopped : Bool
  deriving DecidableEq, Repr

namespace Pacer

def new (hz : UInt32) : Pacer := ⟨none, refreshInterval hz, 0, false⟩

def setRate (pacer : Pacer) (hz : UInt32) : Pacer :=
  { pacer with interval := refreshInterval hz }

def arms (pacer : Pacer) (slots : Slots) : Bool :=
  !pacer.stopped && pacer.armed.isNone && slots.pending.isSome

/-- Arms the pacer if it is idle and there is work; says whether it did. -/
def flush (pacer : Pacer) (slots : Slots) : Pacer × Bool :=
  if pacer.arms slots then ({ pacer with armed := some pacer.interval }, true) else (pacer, false)

/-- One vertical blank.  Nothing can be committed during it, so the pacer does
not arm again. -/
def tick (pacer : Pacer) (slots : Slots) : Pacer × Slots × Tick :=
  let (slots, retired) := slots.retire
  let sequence := pacer.sequence + 1
  ({ pacer with armed := none, sequence }, slots,
    ⟨retired.map fun moved => (moved.id, moved.count), sequence, false⟩)

theorem tick_eq (pacer : Pacer) (slots : Slots) :
    pacer.tick slots =
      ({ pacer with armed := none, sequence := pacer.sequence + 1 },
        ⟨none, slots.pending.or slots.active⟩,
        ⟨slots.pending.map fun record => (record.id, record.count), pacer.sequence + 1,
          false⟩) := by
  simp only [tick, slots.retire_fst, slots.retire_snd, Option.map_map]
  rfl

/-- A vertical blank with commits meanwhile.  They come when the pending record has
moved on, so that the last of them waits for the next vertical blank; before this one
is over, the pacer arms for it. -/
def tickAmid (pacer : Pacer) (slots : Slots) (meanwhile : List Record) :
    Pacer × Slots × Tick :=
  let (slots, retired) := slots.retire
  let (slots, _) := slots.commitAll meanwhile
  let sequence := pacer.sequence + 1
  let (pacer, rearmed) := { pacer with armed := none, sequence }.flush slots
  (pacer, slots, ⟨retired.map fun moved => (moved.id, moved.count), sequence, rearmed⟩)

theorem tickAmid_nil (pacer : Pacer) (slots : Slots) :
    pacer.tickAmid slots [] = pacer.tick slots := by
  simp only [tickAmid, Slots.commitAll, tick, flush, arms, slots.retire_fst,
    Option.isSome_none, Bool.and_false, Bool.false_eq_true, if_false]

def cancel (pacer : Pacer) : Pacer := { pacer with armed := none }

/-- Disarms and empties the slots; answers with the records they held. -/
def halt (pacer : Pacer) (slots : Slots) : Pacer × Slots × List Record :=
  let (slots, released) := slots.clear
  (pacer.cancel, slots, released)

def shutdown (pacer : Pacer) : Pacer := { pacer with armed := none, stopped := true }

/-- What waiting for the deadline comes to: the deadline, the end of the pacer,
or nothing while it is idle. -/
inductive DeadlineWait where
  | reached
  | stopped
  | blocked
  deriving DecidableEq, Repr

def waitDeadline (pacer : Pacer) : DeadlineWait :=
  if pacer.stopped then .stopped else if pacer.armed.isSome then .reached else .blocked

end Pacer

/-- Enters a power state: off halts the pacer, the others touch nothing else.
Answers with the state before. -/
def Power.enter (power target : Power) (slots : Slots) (pacer : Pacer) :
    Power × Slots × Pacer :=
  match target with
  | .off =>
    let (pacer, slots, _) := pacer.halt slots
    (power, slots, pacer)
  | _ => (power, slots, pacer)

end PresentRelay
