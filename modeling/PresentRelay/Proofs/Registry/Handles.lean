import Mathlib.Data.List.Nodup
import Mathlib.Data.List.Perm.Subperm
import PresentRelay.Registry

/-!
# New handles are free

The search for a handle looks at one number more than can be taken.  Unless the registry
is full these numbers are different, so that one of them is free, and registering a
buffer leaves every other entry alone.
-/

set_option autoImplicit false

namespace PresentRelay

namespace Table

variable {α : Type}

theorem contains_iff (table : Table α) (number : UInt32) :
    table.contains number = true ↔ number ∈ table.entries.map Prod.fst := by
  simp [contains]

theorem erase_of_not_contains (table : Table α) (number : UInt32)
    (absent : table.contains number = false) : table.erase number = table := by
  obtain ⟨entries⟩ := table
  simp only [erase, mk.injEq, List.filter_eq_self]
  intro entry member
  simp only [contains, List.any_eq_false] at absent
  simpa using absent entry member

theorem mem_of_get? {table : Table α} {number : UInt32} {value : α}
    (held : table.get? number = some value) : (number, value) ∈ table.entries := by
  obtain ⟨before, after, split, -⟩ := List.lookup_eq_some_iff.mp held
  simp [split]

theorem lookup_map {β : Type} (change : α → β) (entries : List (UInt32 × α)) (number : UInt32) :
    (entries.map fun entry => (entry.1, change entry.2)).lookup number =
      (entries.lookup number).map change := by
  induction entries with
  | nil => rfl
  | cons entry entries ih =>
    rw [List.map_cons, List.lookup_cons, List.lookup_cons, ih]
    cases number == entry.1 <;> rfl

theorem mem_of_mem_erase {table : Table α} {number : UInt32} {entry : UInt32 × α}
    (member : entry ∈ (table.erase number).entries) : entry ∈ table.entries :=
  List.mem_of_mem_filter member

end Table

namespace Registry

/-- The numbers that the search passes over: zero and the handles in use. -/
def taken (registry : Registry) : List UInt32 := 0 :: registry.table.entries.map Prod.fst

theorem length_taken (registry : Registry) : registry.taken.length = registry.size + 1 := by
  simp [taken, size, Table.size]

theorem isFree_iff (registry : Registry) (handle : UInt32) :
    registry.isFree handle = true ↔ handle ∉ registry.taken := by
  have used := registry.table.contains_iff handle
  cases held : registry.table.contains handle <;> simp_all [isFree, taken]

/-- A search finds a free number if there is one among those it looks at. -/
theorem isFree_probe (registry : Registry) (tries : Nat) (start : UInt32)
    (hit : ∃ offset ≤ tries, registry.isFree (start + UInt32.ofNat offset) = true) :
    registry.isFree (registry.probe tries start) = true := by
  induction tries generalizing start with
  | zero =>
    obtain ⟨offset, bound, free⟩ := hit
    obtain rfl : offset = 0 := by omega
    simpa [probe] using free
  | succ tries ih =>
    rw [probe]
    by_cases free : registry.isFree start = true
    · rwa [if_pos free]
    · rw [if_neg free]
      apply ih
      obtain ⟨offset, bound, later⟩ := hit
      cases offset with
      | zero => exact absurd (by simpa using later) free
      | succ offset =>
        refine ⟨offset, by omega, ?_⟩
        have moved : start + 1 + UInt32.ofNat offset = start + UInt32.ofNat (offset + 1) := by
          rw [UInt32.ofNat_add, UInt32.add_assoc, UInt32.add_comm 1]
          rfl
        rwa [moved]

theorem nodup_numbers (start : UInt32) (count : Nat) (bound : count ≤ UInt32.size) :
    ((List.range count).map fun offset => start + UInt32.ofNat offset).Nodup := by
  refine (List.nodup_map_iff_inj_on List.nodup_range).mpr ?_
  intro first firstMember second secondMember same
  have firstBound := List.mem_range.mp firstMember
  have secondBound := List.mem_range.mp secondMember
  have equal := congrArg UInt32.toNat ((UInt32.add_right_inj start).mp same)
  rwa [UInt32.toNat_ofNat_of_lt' (by omega), UInt32.toNat_ofNat_of_lt' (by omega)] at equal

theorem isFree_nextHandle (registry : Registry) (room : registry.isFull = false) :
    registry.isFree registry.nextHandle = true := by
  have count : registry.size + 2 ≤ UInt32.size := by
    simp only [isFull, decide_eq_false_iff_not] at room
    omega
  refine isFree_probe registry _ _ (Classical.byContradiction ?_)
  intro none
  -- otherwise all these numbers are taken, and there are too many of them
  have subset : ((List.range (registry.size + 2)).map fun offset =>
      registry.next + UInt32.ofNat offset) ⊆ registry.taken := by
    intro number member
    obtain ⟨offset, bound, rfl⟩ := List.mem_map.mp member
    refine Classical.byContradiction fun free => none ⟨offset, ?_, ?_⟩
    · have := List.mem_range.mp bound
      simp only [size] at this
      omega
    · exact (registry.isFree_iff _).mpr free
  have fits := (List.subperm_of_subset (nodup_numbers registry.next _ count) subset).length_le
  rw [length_taken, List.length_map, List.length_range] at fits
  omega

theorem entries_register (registry : Registry) (buffer : Buffer) (room : registry.isFull = false) :
    (registry.register buffer).1.table.entries =
      (registry.nextHandle, buffer) :: registry.table.entries := by
  have free := registry.isFree_nextHandle room
  have absent : registry.table.contains registry.nextHandle = false := by
    simp only [isFree, Bool.and_eq_true, Bool.not_eq_true'] at free
    exact free.2
  simp only [register, Table.insert, registry.table.erase_of_not_contains _ absent]

end Registry

end PresentRelay
