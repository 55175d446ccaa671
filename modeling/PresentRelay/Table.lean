/-!
# Tables by number

A table is a finite map from 32-bit numbers, the newest entry first.
-/

set_option autoImplicit false

namespace PresentRelay

structure Table (α : Type) where
  entries : List (UInt32 × α)
  deriving Repr

namespace Table

variable {α : Type}

def empty : Table α := ⟨[]⟩

def get? (table : Table α) (number : UInt32) : Option α := table.entries.lookup number

def contains (table : Table α) (number : UInt32) : Bool :=
  table.entries.any fun entry => entry.1 == number

def erase (table : Table α) (number : UInt32) : Table α :=
  ⟨table.entries.filter fun entry => entry.1 != number⟩

def insert (table : Table α) (number : UInt32) (value : α) : Table α :=
  ⟨(number, value) :: (table.erase number).entries⟩

def size (table : Table α) : Nat := table.entries.length

def values (table : Table α) : List α := table.entries.map Prod.snd

/-! ## Look-ups -/

theorem get?_empty (number : UInt32) : (empty : Table α).get? number = none := rfl

theorem get?_erase (table : Table α) (number asked : UInt32) :
    (table.erase number).get? asked = if asked = number then none else table.get? asked := by
  obtain ⟨entries⟩ := table
  simp only [erase, get?]
  induction entries with
  | nil => simp
  | cons entry rest step =>
    obtain ⟨held, value⟩ := entry
    by_cases same : held = number
    · simp only [same, bne_self_eq_false, Bool.false_eq_true, not_false_eq_true,
        List.filter_cons_of_neg, step, List.lookup_cons]
      by_cases hit : asked = number
      · simp [hit]
      · rw [if_neg hit, if_neg hit, beq_false_of_ne hit]
    · rw [List.filter_cons_of_pos (by simpa using same), List.lookup_cons, List.lookup_cons, step]
      by_cases hit : asked = held
      · subst hit; simp [same]
      · rw [beq_false_of_ne hit]

theorem get?_insert (table : Table α) (number asked : UInt32) (value : α) :
    (table.insert number value).get? asked =
      if asked = number then some value else table.get? asked := by
  have erased := table.get?_erase number asked
  unfold get? at erased
  simp only [insert, get?, List.lookup_cons]
  by_cases hit : asked = number
  · simp [hit]
  · rw [beq_false_of_ne hit, erased, if_neg hit, if_neg hit]

theorem contains_eq_isSome (table : Table α) (number : UInt32) :
    table.contains number = (table.get? number).isSome := by
  obtain ⟨entries⟩ := table
  simp only [contains, get?]
  induction entries with
  | nil => rfl
  | cons entry rest step =>
    obtain ⟨held, value⟩ := entry
    rw [List.any_cons, List.lookup_cons, step]
    by_cases hit : number = held
    · simp [hit]
    · rw [beq_false_of_ne hit, beq_false_of_ne (Ne.symm hit), Bool.false_or]

end Table

end PresentRelay
