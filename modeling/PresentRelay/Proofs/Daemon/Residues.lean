import Mathlib.Data.List.Induction
import PresentRelay.Proofs.Daemon.Supply

/-!
# A cache as a map with evictions

All ids with one remainder share a slot.  `latest?` reads off the operations on a cache what the
slot of a remainder must have: what was inserted last with that remainder since the cache was
cleared.  `slots_run` says that the slots have just that, after every run; what a lookup finds, what
an insertion evicts and what a clearing hands back follow from it.
-/

set_option autoImplicit false

namespace PresentRelay

namespace BufferCache

variable {β : Type}

inductive Operation (β : Type) where
  | insert (id : UInt32) (buffer : β)
  | lookup (id : UInt32)
  | clear

inductive Answer (β : Type) where
  | evicted (buffer : Option β)
  | found (buffer : Option β)
  | cleared (buffers : List β)

def operate (cache : BufferCache β) : Operation β → BufferCache β × Answer β
  | .insert id buffer => ((cache.insert id buffer).1, .evicted (cache.insert id buffer).2)
  | .lookup id => (cache, .found (cache.lookup id))
  | .clear => (cache.clear.1, .cleared cache.clear.2)

def run (cache : BufferCache β) (operations : List (Operation β)) : BufferCache β :=
  operations.foldl (fun cache operation => (cache.operate operation).1) cache

def answers : BufferCache β → List (Operation β) → List (Answer β)
  | _, [] => []
  | cache, operation :: operations =>
    (cache.operate operation).2 :: answers (cache.operate operation).1 operations

theorem run_cons (cache : BufferCache β) (operation : Operation β)
    (operations : List (Operation β)) :
    cache.run (operation :: operations) = (cache.operate operation).1.run operations := rfl

theorem run_concat (cache : BufferCache β) (operations : List (Operation β))
    (operation : Operation β) :
    cache.run (operations ++ [operation]) = ((cache.run operations).operate operation).1 := by
  simp [run]

/-! ## What the operations say -/

namespace Operation

def isClear : Operation β → Bool
  | .clear => true
  | _ => false

/-- What is inserted, if it is inserted with a remainder. -/
def insertion? (slots residue : Nat) : Operation β → Option (UInt32 × β)
  | .insert id buffer => if id.toNat % slots = residue then some (id, buffer) else none
  | _ => none

def inserted? : Operation β → Option β
  | .insert _ buffer => some buffer
  | _ => none

end Operation

def Answer.handedBack : Answer β → List β
  | .evicted buffer => buffer.toList
  | .found _ => []
  | .cleared buffers => buffers

/-- The most recent insertion with a remainder since the last clearing. -/
def latest? (slots : Nat) (operations : List (Operation β)) (residue : Nat) :
    Option (UInt32 × β) :=
  (operations.reverse.takeWhile fun operation => !operation.isClear).findSome?
    (Operation.insertion? slots residue)

variable (slots : Nat) (operations : List (Operation β)) (residue : Nat)

theorem latest?_concat_insert (id : UInt32) (buffer : β) :
    latest? slots (operations ++ [.insert id buffer]) residue =
      if id.toNat % slots = residue then some (id, buffer)
      else latest? slots operations residue := by
  rw [latest?, List.reverse_concat, List.takeWhile_cons_of_pos (by rfl), List.findSome?_cons]
  by_cases same : id.toNat % slots = residue
  · simp only [Operation.insertion?, if_pos same]
  · simp only [Operation.insertion?, if_neg same, latest?]

theorem latest?_concat_lookup (id : UInt32) :
    latest? slots (operations ++ [.lookup id]) residue = latest? slots operations residue := by
  rw [latest?, List.reverse_concat, List.takeWhile_cons_of_pos (by rfl), List.findSome?_cons]
  simp only [Operation.insertion?, latest?]

theorem latest?_concat_clear :
    latest? slots (operations ++ [.clear]) residue = none := by
  rw [latest?, List.reverse_concat, List.takeWhile_cons_of_neg (by simp [Operation.isClear])]
  rfl

variable {slots operations residue}

theorem residue_of_latest? {id : UInt32} {buffer : β}
    (latest : latest? slots operations residue = some (id, buffer)) :
    id.toNat % slots = residue := by
  obtain ⟨operation, -, inserted⟩ := List.exists_of_findSome?_eq_some latest
  cases operation with
  | insert other held =>
    simp only [Operation.insertion?] at inserted
    split at inserted
    · next same =>
      cases inserted
      exact same
    · cases inserted
  | lookup other => cases inserted
  | clear => cases inserted

/-! ## What the slots have -/

theorem slots_run (requested : Nat) (operations : List (Operation β)) :
    ((new requested).run operations).slots =
      (List.range (max requested 1)).map (latest? (max requested 1) operations) := by
  induction operations using List.reverseRecOn with
  | nil =>
    apply List.ext_getElem
    · simp [run, new]
    · intro slot _ _
      simp [run, new, latest?]
  | append_singleton operations operation ih =>
    rw [run_concat]
    generalize (new requested).run operations = cache at ih
    have count : cache.slots.length = max requested 1 := by
      rw [ih, List.length_map, List.length_range]
    cases operation with
    | insert id buffer =>
      apply List.ext_getElem
      · simp [operate, insert, count]
      · intro slot _ _
        simp only [operate, insert, List.getElem_set, BufferCache.slot, List.getElem_map,
          List.getElem_range, latest?_concat_insert, count]
        split
        · rfl
        · simp [ih]
    | lookup id =>
      have same := funext (latest?_concat_lookup (max requested 1) operations · id)
      rw [same]
      exact ih
    | clear =>
      apply List.ext_getElem
      · simp [operate, clear, count]
      · intro slot _ _
        simp [operate, clear, latest?_concat_clear]

section

variable {requested : Nat} {operations : List (Operation β)}

theorem length_slots_run :
    ((new requested).run operations).slots.length = max requested 1 := by
  rw [slots_run, List.length_map, List.length_range]

theorem occupant_run (id : UInt32) :
    ((new requested).run operations).occupant id =
      latest? (max requested 1) operations (id.toNat % max requested 1) := by
  have bound : id.toNat % max requested 1 < max requested 1 := Nat.mod_lt _ (by omega)
  rw [occupant, BufferCache.slot, length_slots_run, slots_run, List.getElem?_map,
    List.getElem?_range bound, Option.map_some, Option.join_some]

theorem lookup_run (id : UInt32) (buffer : β) :
    ((new requested).run operations).lookup id = some buffer ↔
      latest? (max requested 1) operations (id.toNat % max requested 1) = some (id, buffer) := by
  rw [lookup, occupant_run]
  cases latest? (max requested 1) operations (id.toNat % max requested 1) with
  | none => simp
  | some entry =>
    obtain ⟨held, other⟩ := entry
    dsimp only
    split
    · next same =>
      subst same
      simp
    · next differs => simp [differs]

theorem buffers_run :
    ((new requested).run operations).buffers =
      (List.range (max requested 1)).filterMap fun residue =>
        (latest? (max requested 1) operations residue).map Prod.snd := by
  rw [buffers, slots_run, List.filterMap_map, List.map_filterMap]
  rfl

theorem nodup_ids_run :
    ((((new requested).run operations).slots.filterMap id).map Prod.fst).Nodup := by
  rw [slots_run, List.filterMap_map, List.map_filterMap]
  apply List.Nodup.filterMap _ List.nodup_range
  intro residue other id held alsoHeld
  obtain ⟨⟨_, first⟩, latest, rfl⟩ := Option.map_eq_some_iff.mp held
  obtain ⟨⟨_, second⟩, alsoLatest, rfl⟩ := Option.map_eq_some_iff.mp alsoHeld
  rw [← residue_of_latest? latest, ← residue_of_latest? alsoLatest]

theorem size_run :
    ((new requested).run operations).size =
      (List.range (max requested 1)).countP fun residue =>
        (latest? (max requested 1) operations residue).isSome := by
  rw [size, slots_run, List.length_filterMap_eq_countP, List.countP_map]
  rfl

end

/-! ## Where buffers go -/

theorem answers_concat (cache : BufferCache β) (operations : List (Operation β))
    (operation : Operation β) :
    cache.answers (operations ++ [operation]) =
      cache.answers operations ++ [((cache.run operations).operate operation).2] := by
  induction operations generalizing cache with
  | nil => rfl
  | cons first operations ih => simp [answers, ih, run_cons]

theorem inserted_perm (requested : Nat) (operations : List (Operation β)) :
    (operations.filterMap Operation.inserted?).Perm
      (((new requested).answers operations).flatMap Answer.handedBack ++
        ((new requested).run operations).buffers) := by
  induction operations using List.reverseRecOn with
  | nil => simp [answers, run, new, buffers]
  | append_singleton operations operation ih =>
    rw [run_concat, answers_concat, List.filterMap_append, List.flatMap_append]
    generalize (new requested).run operations = cache at ih
    generalize ((new requested).answers operations).flatMap Answer.handedBack = earlier at ih
    cases operation with
    | insert id buffer =>
      obtain ⟨others, before, after⟩ := cache.buffers_insert id buffer
      have last : [Operation.insert id buffer].filterMap Operation.inserted? = [buffer] := rfl
      simp only [operate, List.flatMap_singleton, Answer.handedBack, last]
      calc
        List.Perm (operations.filterMap Operation.inserted? ++ [buffer])
            (earlier ++ cache.buffers ++ [buffer]) := ih.append_right [buffer]
        List.Perm _ (earlier ++ ((cache.insert id buffer).2.toList ++ others) ++ [buffer]) :=
          (before.append_left earlier).append_right [buffer]
        List.Perm _ (earlier ++ (cache.insert id buffer).2.toList ++ (buffer :: others)) := by
          rw [← List.append_assoc, List.append_assoc _ others]
          exact (List.perm_append_singleton buffer others).append_left _
        List.Perm _ _ := after.symm.append_left _
    | lookup id =>
      have last : [(Operation.lookup id : Operation β)].filterMap Operation.inserted? = [] := rfl
      simpa [operate, Answer.handedBack, last] using ih
    | clear =>
      have last : [(Operation.clear : Operation β)].filterMap Operation.inserted? = [] := rfl
      have handed : cache.clear.2 = cache.buffers := rfl
      simpa [operate, Answer.handedBack, last, buffers_clear, handed] using ih

/-- Whatever is inserted, looked up and cleared on a new cache: a lookup finds a buffer exactly if
the most recent insertion with the remainder of its id since the last clearing was of that buffer
under that id; an insertion evicts what was inserted so before it, and a clearing hands back what
every remainder has.  Each inserted buffer is handed back once or is still held, no id is held
twice, and the size is the number of remainders that have something. -/
theorem slots_have_latest_insertions (requested : Nat) (operations : List (Operation β)) :
    let slots := max requested 1
    let cache := (new requested).run operations
    let latest := latest? slots operations
    cache.capacity = slots ∧
    (∀ id buffer, cache.lookup id = some buffer ↔
      latest (id.toNat % slots) = some (id, buffer)) ∧
    (∀ id buffer, (cache.insert id buffer).2 = (latest (id.toNat % slots)).map Prod.snd) ∧
    cache.clear.2 =
      (List.range slots).filterMap (fun residue => (latest residue).map Prod.snd) ∧
    (operations.filterMap Operation.inserted?).Perm
      (((new requested).answers operations).flatMap Answer.handedBack ++ cache.buffers) ∧
    ((cache.slots.filterMap id).map Prod.fst).Nodup ∧
    cache.size = (List.range slots).countP (fun residue => (latest residue).isSome) := by
  intro slots cache latest
  refine ⟨length_slots_run, lookup_run, ?_, buffers_run, inserted_perm requested operations,
    nodup_ids_run, size_run⟩
  intro id buffer
  rw [insert, occupant_run]

end BufferCache

end PresentRelay
