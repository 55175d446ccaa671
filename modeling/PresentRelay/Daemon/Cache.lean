/-!
# The import cache

The cache is direct-mapped: the slot of an id is its remainder by the number of
slots.  A slot remembers the whole id, so that a lookup never answers with the
buffer of another frame.
-/

set_option autoImplicit false

namespace PresentRelay

structure BufferCache (β : Type) where
  slots : List (Option (UInt32 × β))
  nonempty : 0 < slots.length

namespace BufferCache

variable {β : Type}

def defaultSlots : Nat := 16

/-- An empty cache; no slots count as one. -/
def new (slots : Nat) : BufferCache β :=
  ⟨List.replicate (max slots 1) none, by rw [List.length_replicate]; omega⟩

def capacity (cache : BufferCache β) : Nat := cache.slots.length

def slot (cache : BufferCache β) (id : UInt32) : Nat := id.toNat % cache.slots.length

def occupant (cache : BufferCache β) (id : UInt32) : Option (UInt32 × β) :=
  (cache.slots[cache.slot id]?).join

def lookup (cache : BufferCache β) (id : UInt32) : Option β :=
  match cache.occupant id with
  | some (held, buffer) => if held = id then some buffer else none
  | none => none

/-- Puts a buffer into the slot of an id; answers with the buffer it evicts. -/
def insert (cache : BufferCache β) (id : UInt32) (buffer : β) : BufferCache β × Option β :=
  (⟨cache.slots.set (cache.slot id) (some (id, buffer)),
    by rw [List.length_set]; exact cache.nonempty⟩,
    (cache.occupant id).map Prod.snd)

def buffers (cache : BufferCache β) : List β := (cache.slots.filterMap id).map Prod.snd

def clear (cache : BufferCache β) : BufferCache β × List β :=
  (⟨List.replicate cache.slots.length none, by rw [List.length_replicate]; exact cache.nonempty⟩,
    cache.buffers)

def size (cache : BufferCache β) : Nat := (cache.slots.filterMap id).length

/-! ## Slots after each operation -/

theorem slot_lt (cache : BufferCache β) (id : UInt32) : cache.slot id < cache.slots.length :=
  Nat.mod_lt _ cache.nonempty

theorem capacity_new (slots : Nat) : (new slots : BufferCache β).capacity = max slots 1 :=
  List.length_replicate

theorem capacity_insert (cache : BufferCache β) (id : UInt32) (buffer : β) :
    (cache.insert id buffer).1.capacity = cache.capacity :=
  List.length_set

theorem capacity_clear (cache : BufferCache β) : cache.clear.1.capacity = cache.capacity :=
  List.length_replicate

theorem occupant_insert (cache : BufferCache β) (id asked : UInt32) (buffer : β) :
    (cache.insert id buffer).1.occupant asked =
      if cache.slot asked = cache.slot id then some (id, buffer) else cache.occupant asked := by
  have bound := cache.slot_lt id
  have slots : (cache.insert id buffer).1.slot asked = cache.slot asked := by
    simp only [insert, slot, List.length_set]
  unfold occupant
  rw [slots]
  simp only [insert, List.getElem?_set]
  by_cases same : cache.slot asked = cache.slot id
  · rw [if_pos same.symm, if_pos bound, if_pos same]; rfl
  · rw [if_neg (Ne.symm same), if_neg same]

theorem lookup_insert_self (cache : BufferCache β) (id : UInt32) (buffer : β) :
    (cache.insert id buffer).1.lookup id = some buffer := by
  simp [lookup, occupant_insert]

end BufferCache

end PresentRelay
