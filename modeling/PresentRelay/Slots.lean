import PresentRelay.Framebuffer

/-!
# The pending and the active slot

A commit puts its record into the pending slot and supersedes the one there.  A
vertical blank moves the pending record into the active slot and displaces the
one there.  An export takes the active record.  A record is in one place at a
time.
-/

set_option autoImplicit false

namespace PresentRelay

structure Slots where
  pending : Option Record
  active : Option Record
  deriving DecidableEq, Repr

structure Retired where
  id : UInt32
  count : Nat
  /-- The record that was active before, and was never exported. -/
  displaced : Option Record
  deriving DecidableEq, Repr

namespace Slots

def empty : Slots := ⟨none, none⟩

/-- Puts a record into the pending slot; answers with the record superseded. -/
def commit (slots : Slots) (record : Record) : Slots × Option Record :=
  ({ slots with pending := some record }, slots.pending)

/-- Commits records in order; answers with those superseded. -/
def commitAll (slots : Slots) : List Record → Slots × List Record
  | [] => (slots, [])
  | record :: records =>
    let (slots, superseded) := slots.commit record
    let (slots, others) := slots.commitAll records
    (slots, superseded.toList ++ others)

def retire (slots : Slots) : Slots × Option Retired :=
  match slots.pending with
  | none => (slots, none)
  | some record => (⟨none, some record⟩, some ⟨record.id, record.count, slots.active⟩)

def takeActive (slots : Slots) : Slots × Option Record :=
  ({ slots with active := none }, slots.active)

def records (slots : Slots) : List Record := slots.pending.toList ++ slots.active.toList

def clear (slots : Slots) : Slots × List Record := (empty, slots.records)

def buffers (slots : Slots) : List Buffer := slots.records.flatMap Record.buffers

theorem records_commit (slots : Slots) (record : Record) :
    (slots.commit record).1.records = record :: slots.active.toList := rfl

theorem retire_fst (slots : Slots) :
    slots.retire.1 = ⟨none, slots.pending.or slots.active⟩ := by
  obtain ⟨_ | pending, active⟩ := slots <;> rfl

theorem retire_snd (slots : Slots) :
    slots.retire.2 =
      slots.pending.map fun record => ⟨record.id, record.count, slots.active⟩ := by
  obtain ⟨_ | pending, active⟩ := slots <;> rfl

/-- A vertical blank keeps one record: the pending one, or else the active one. -/
theorem records_retire (slots : Slots) :
    slots.retire.1.records = (slots.pending.or slots.active).toList := by
  rw [retire_fst]
  rfl

end Slots

end PresentRelay
