import Mathlib.Data.Set.Card
import PresentRelay.Proofs.Registry.Handles

/-!
# Which handle stands for what

A registry is a partial map from handles to buffers, and the history of registrations and releases
says which: a handle stands for the buffer that it was last given out for, until it is released.
`Follows` says that a registry is that map; every operation keeps it, also when the numbers have
gone round and handles are given out again.  The search for a handle is stated without a bound:
by `Finds` it goes on for as long as no number is free.
-/

set_option autoImplicit false

namespace PresentRelay

namespace Registry

/-! ## The search for a handle -/

/-- A search that starts at a number ends at another: the first from there on that is free. -/
inductive Finds (registry : Registry) : UInt32 → UInt32 → Prop
  | here {start : UInt32} (free : registry.isFree start = true) : Finds registry start start
  | further {start found : UInt32} (taken : registry.isFree start = false)
      (finds : Finds registry (start + 1) found) : Finds registry start found

theorem Finds.unique {registry : Registry} {start found other : UInt32}
    (finds : registry.Finds start found) (also : registry.Finds start other) : other = found := by
  induction finds with
  | here free =>
    cases also with
    | here => rfl
    | further taken => cases free.symm.trans taken
  | further taken _ ih =>
    cases also with
    | here free => cases free.symm.trans taken
    | further _ finds => exact ih finds

theorem finds_probe {registry : Registry} {tries : Nat} {start : UInt32}
    (free : registry.isFree (registry.probe tries start) = true) :
    registry.Finds start (registry.probe tries start) := by
  induction tries generalizing start with
  | zero => exact .here free
  | succ tries ih =>
    rw [probe] at free ⊢
    by_cases here : registry.isFree start = true
    · rw [if_pos here]
      exact .here here
    · rw [if_neg here] at free ⊢
      exact .further (Bool.eq_false_iff.mpr here) (ih free)

theorem isFull_eq_false {registry : Registry} :
    registry.isFull = false ↔ registry.size < UInt32.size - 1 := by
  rw [isFull, decide_eq_false_iff_not]
  omega

/-- Unless the registry is full, the search ends, and with the next handle. -/
theorem finds_next_iff {registry : Registry} (room : registry.size < UInt32.size - 1)
    (found : UInt32) : registry.Finds registry.next found ↔ found = registry.nextHandle := by
  have finds : registry.Finds registry.next registry.nextHandle :=
    finds_probe (registry.isFree_nextHandle (isFull_eq_false.mpr room))
  constructor
  · exact finds.unique
  · rintro rfl
    exact finds

theorem nextHandle_of_isFree {registry : Registry} (free : registry.isFree registry.next = true) :
    registry.nextHandle = registry.next := by
  rw [nextHandle, probe, if_pos free]

theorem isFree_iff_get? {registry : Registry} {handle : UInt32} :
    registry.isFree handle = true ↔ handle ≠ 0 ∧ registry.table.get? handle = none := by
  rw [isFree, Table.contains_eq_isSome]
  simp

/-! ## Operations and their history -/

inductive Operation where
  | register (buffer : Buffer)
  | release (handle : UInt32)

inductive Event where
  | registered (handle : UInt32) (buffer : Buffer)
  | released (handle : UInt32)
  /-- There was nothing to release. -/
  | refused (handle : UInt32)

def operate (registry : Registry) : Operation → Registry × Event
  | .register buffer =>
    ((registry.register buffer).1, .registered (registry.register buffer).2 buffer)
  | .release handle =>
    match registry.release handle with
    | .ok left => (left, .released handle)
    | .error _ => (registry, .refused handle)

def run (registry : Registry) (operations : List Operation) : Registry :=
  operations.foldl (fun registry operation => (registry.operate operation).1) registry

def history : Registry → List Operation → List Event
  | _, [] => []
  | registry, operation :: operations =>
    (registry.operate operation).2 :: history (registry.operate operation).1 operations

/-- Whenever a run registers a buffer, fewer handles are in use than there are numbers but
zero. -/
def Roomy : Registry → List Operation → Prop
  | _, [] => True
  | registry, .register buffer :: operations =>
    registry.size < UInt32.size - 1 ∧ Roomy (registry.operate (.register buffer)).1 operations
  | registry, .release handle :: operations =>
    Roomy (registry.operate (.release handle)).1 operations

theorem run_append (registry : Registry) (operations later : List Operation) :
    registry.run (operations ++ later) = (registry.run operations).run later :=
  List.foldl_append

theorem roomy_append (registry : Registry) (operations later : List Operation) :
    Roomy registry (operations ++ later) ↔
      Roomy registry operations ∧ Roomy (registry.run operations) later := by
  induction operations generalizing registry with
  | nil => simp [Roomy, run]
  | cons operation operations ih =>
    cases operation with
    | register buffer =>
      rw [List.cons_append, Roomy, Roomy, ih, and_assoc]
      rfl
    | release handle =>
      rw [List.cons_append, Roomy, Roomy, ih]
      rfl

/-! ## What a history says -/

namespace Event

def Concerns (handle : UInt32) : Event → Prop
  | registered given _ => given = handle
  | released taken => taken = handle
  | refused _ => False

def handle? : Event → Option UInt32
  | registered handle _ => some handle
  | _ => none

end Event

/-- A handle stands for a buffer: it was given out for it, and neither given out again nor
released since. -/
def Stands (history : List Event) (handle : UInt32) (buffer : Buffer) : Prop :=
  ∃ before after, history = before ++ .registered handle buffer :: after ∧
    ∀ event ∈ after, ¬ event.Concerns handle

def handedOut (history : List Event) : List UInt32 := history.filterMap Event.handle?

theorem handedOut_concat (history : List Event) (event : Event) :
    handedOut (history ++ [event]) = handedOut history ++ event.handle?.toList := by
  rw [handedOut, List.filterMap_append]
  cases event <;> rfl

theorem stands_concat {history : List Event} {event : Event} {handle : UInt32}
    {buffer : Buffer} :
    Stands (history ++ [event]) handle buffer ↔
      event = .registered handle buffer ∨
        ¬ event.Concerns handle ∧ Stands history handle buffer := by
  constructor
  · rintro ⟨before, after, split, untouched⟩
    obtain rfl | ⟨later, last, rfl⟩ := List.eq_nil_or_concat' after
    · obtain ⟨-, same⟩ := List.append_inj' split rfl
      exact .inl (List.singleton_inj.mp same)
    · rw [← List.cons_append, ← List.append_assoc] at split
      obtain ⟨same, lastSame⟩ := List.append_inj' split rfl
      obtain rfl := List.singleton_inj.mp lastSame
      right
      refine ⟨untouched event (by simp), before, later, same, ?_⟩
      intro other member
      exact untouched other (List.mem_append_left _ member)
  · rintro (rfl | ⟨unconcerned, before, after, rfl, untouched⟩)
    · exact ⟨history, [], rfl, by simp⟩
    · refine ⟨before, after ++ [event], by simp, ?_⟩
      intro other member
      rcases List.mem_append.mp member with old | new
      · exact untouched other old
      · rw [List.mem_singleton.mp new]
        exact unconcerned

theorem mem_handedOut_of_stands {history : List Event} {handle : UInt32} {buffer : Buffer}
    (stands : Stands history handle buffer) : handle ∈ handedOut history := by
  obtain ⟨before, after, rfl, -⟩ := stands
  simp [handedOut, Event.handle?]

/-! ## A registry follows its history -/

/-- The first handles, as many as were given out: they go up from one. -/
def firstHandles (count : Nat) : List UInt32 :=
  (List.range count).map fun offset => 1 + UInt32.ofNat offset

/-- A registry maps each handle to the buffer that it stands for, and no handle twice.  The first
handles that were given out go up from one, and so does the next until all numbers are used up. -/
structure Follows (registry : Registry) (history : List Event) : Prop where
  nodup : (registry.table.entries.map Prod.fst).Nodup
  get? : ∀ handle buffer,
    registry.table.get? handle = some buffer ↔ Stands history handle buffer
  first : (handedOut history).take (UInt32.size - 1) =
    firstHandles (min (handedOut history).length (UInt32.size - 1))
  next : (handedOut history).length < UInt32.size - 1 →
    registry.next = 1 + UInt32.ofNat (handedOut history).length

theorem follows_empty : Follows empty [] where
  nodup := List.nodup_nil
  get? handle buffer := by simp [Stands, empty, Table.get?_empty]
  first := rfl
  next _ := rfl

variable {registry : Registry} {history : List Event}

theorem toNat_first {offset : Nat} (early : offset < UInt32.size - 1) :
    (1 + UInt32.ofNat offset).toNat = offset + 1 := by
  have size : UInt32.size = 2 ^ 32 := rfl
  rw [UInt32.toNat_add, UInt32.toNat_ofNat_of_lt' (by omega), UInt32.toNat_one,
    Nat.mod_eq_of_lt (by omega), Nat.add_comm]

theorem firstHandles_succ (count : Nat) :
    firstHandles (count + 1) = firstHandles count ++ [1 + UInt32.ofNat count] := by
  rw [firstHandles, List.range_succ, List.map_append]
  rfl

theorem table_register (registry : Registry) (buffer : Buffer) :
    (registry.register buffer).1.table = registry.table.insert registry.nextHandle buffer := rfl

theorem Follows.handedOut_eq (follows : registry.Follows history)
    (early : (handedOut history).length < UInt32.size - 1) :
    handedOut history = firstHandles (handedOut history).length := by
  have first := follows.first
  rwa [Nat.min_eq_left (Nat.le_of_lt early), List.take_of_length_le (Nat.le_of_lt early)] at first

theorem Follows.isFree_next (follows : registry.Follows history)
    (early : (handedOut history).length < UInt32.size - 1) :
    registry.isFree registry.next = true := by
  have next := follows.next early
  have first := follows.handedOut_eq early
  generalize (handedOut history).length = count at early next first
  rw [isFree_iff_get?, next]
  constructor
  · intro zero
    have number := toNat_first early
    rw [zero] at number
    cases number
  · apply Option.eq_none_iff_forall_ne_some.mpr
    intro buffer held
    have given := mem_handedOut_of_stands ((follows.get? _ _).mp held)
    rw [first, firstHandles, List.mem_map] at given
    obtain ⟨offset, earlier, same⟩ := given
    rw [List.mem_range] at earlier
    have numbers := congrArg UInt32.toNat same
    rw [toNat_first early, toNat_first (by omega)] at numbers
    omega

theorem Follows.nextHandle_eq (follows : registry.Follows history)
    (early : (handedOut history).length < UInt32.size - 1) :
    registry.nextHandle = 1 + UInt32.ofNat (handedOut history).length :=
  (nextHandle_of_isFree (follows.isFree_next early)).trans (follows.next early)

theorem Follows.register (follows : registry.Follows history)
    (room : registry.size < UInt32.size - 1) (buffer : Buffer) :
    Follows (registry.register buffer).1
      (history ++ [.registered (registry.register buffer).2 buffer]) := by
  have free := isFree_iff_get?.mp (registry.isFree_nextHandle (isFull_eq_false.mpr room))
  have entries := registry.entries_register buffer (isFull_eq_false.mpr room)
  have handed : handedOut (history ++ [.registered registry.nextHandle buffer]) =
      handedOut history ++ [registry.nextHandle] := handedOut_concat ..
  have gives : (registry.register buffer).2 = registry.nextHandle := rfl
  rw [gives]
  refine ⟨?_, ?_, ?_, ?_⟩
  · rw [entries, List.map_cons, List.nodup_cons]
    refine ⟨?_, follows.nodup⟩
    rw [← registry.table.contains_iff, Table.contains_eq_isSome, free.2]
    simp
  · intro handle other
    rw [stands_concat, ← follows.get? handle other, table_register, Table.get?_insert]
    by_cases same : handle = registry.nextHandle
    · subst same
      simp [Event.Concerns]
    · simp [Event.Concerns, same, Ne.symm same]
  · rw [handed, List.length_append, List.length_singleton]
    by_cases early : (handedOut history).length < UInt32.size - 1
    · rw [Nat.min_eq_left early, firstHandles_succ, ← follows.handedOut_eq early,
        follows.nextHandle_eq early, List.take_of_length_le]
      rw [List.length_append, List.length_singleton]
      exact early
    · have late : UInt32.size - 1 ≤ (handedOut history).length := Nat.not_lt.mp early
      rw [List.take_append_of_le_length late, follows.first, Nat.min_eq_right late,
        Nat.min_eq_right (by omega)]
  · rw [handed, List.length_append, List.length_singleton]
    intro early
    have earlier : (handedOut history).length < UInt32.size - 1 := by omega
    have after : (registry.register buffer).1.next = registry.nextHandle + 1 := rfl
    rw [after, follows.nextHandle_eq earlier, UInt32.ofNat_add, ← UInt32.add_assoc]
    rfl

theorem Follows.release (follows : registry.Follows history) (handle : UInt32) :
    Follows (registry.operate (.release handle)).1
      (history ++ [(registry.operate (.release handle)).2]) := by
  rw [operate]
  split
  · next left released =>
    obtain ⟨-, rfl⟩ := release_eq_ok.mp released
    have handed : handedOut (history ++ [.released handle]) = handedOut history := by
      rw [handedOut_concat]
      exact List.append_nil _
    refine ⟨?_, ?_, handed ▸ follows.first, handed ▸ follows.next⟩
    · exact follows.nodup.sublist (List.filter_sublist.map Prod.fst)
    · intro asked buffer
      rw [stands_concat, ← follows.get? asked buffer, Table.get?_erase]
      by_cases same : asked = handle
      · subst same
        simp [Event.Concerns]
      · simp [Event.Concerns, same, Ne.symm same]
  · have handed : handedOut (history ++ [.refused handle]) = handedOut history := by
      rw [handedOut_concat]
      exact List.append_nil _
    refine ⟨follows.nodup, ?_, handed ▸ follows.first, handed ▸ follows.next⟩
    intro asked buffer
    rw [stands_concat, ← follows.get? asked buffer]
    simp [Event.Concerns]

theorem Follows.run (follows : registry.Follows history) {operations : List Operation}
    (roomy : Roomy registry operations) :
    Follows (registry.run operations) (history ++ registry.history operations) := by
  induction operations generalizing registry history with
  | nil =>
    rw [Registry.history, List.append_nil]
    exact follows
  | cons operation operations ih =>
    have step : Follows (registry.operate operation).1
          (history ++ [(registry.operate operation).2]) ∧
        Roomy (registry.operate operation).1 operations := by
      cases operation with
      | register buffer => exact ⟨follows.register roomy.1 buffer, roomy.2⟩
      | release handle => exact ⟨follows.release handle, roomy⟩
    have later := ih step.1 step.2
    rw [List.append_assoc] at later
    exact later

/-! ## The registry as a map -/

theorem Follows.resolve_eq_ok (follows : registry.Follows history) (handle : UInt32)
    (buffer : Buffer) :
    registry.resolve handle = .ok buffer ↔ Stands history handle buffer := by
  rw [← follows.get? handle buffer, resolve]
  cases registry.table.get? handle <;> simp

theorem Follows.contains_iff (follows : registry.Follows history) (handle : UInt32) :
    registry.table.contains handle = true ↔ ∃ buffer, Stands history handle buffer := by
  rw [Table.contains_eq_isSome, Option.isSome_iff_exists]
  simp only [follows.get?]

theorem Follows.size_eq (follows : registry.Follows history) :
    registry.size = {handle | ∃ buffer, Stands history handle buffer}.ncard := by
  have handles : {handle | ∃ buffer, Stands history handle buffer} =
      ((registry.table.entries.map Prod.fst).toFinset : Set UInt32) := by
    ext handle
    rw [Set.mem_ofPred_eq, ← follows.contains_iff, Table.contains_iff, Finset.mem_coe,
      List.mem_toFinset]
  rw [handles, Set.ncard_coe_finset, List.toFinset_card_of_nodup follows.nodup, List.length_map]
  rfl

theorem resolve_register (registry : Registry) (buffer : Buffer) (handle : UInt32) :
    (registry.register buffer).1.resolve handle =
      if handle = (registry.register buffer).2 then .ok buffer else registry.resolve handle := by
  have given : (registry.register buffer).2 = registry.nextHandle := rfl
  rw [resolve, resolve, table_register, Table.get?_insert, given]
  by_cases same : handle = registry.nextHandle
  · rw [if_pos same, if_pos same]
  · rw [if_neg same, if_neg same]

theorem resolve_release {left : Registry} {handle : UInt32}
    (released : registry.release handle = .ok left) (asked : UInt32) :
    left.resolve asked =
      if asked = handle then .error .notFound else registry.resolve asked := by
  obtain ⟨-, rfl⟩ := release_eq_ok.mp released
  rw [resolve, resolve, Table.get?_erase]
  by_cases same : asked = handle
  · rw [if_pos same, if_pos same]
  · rw [if_neg same, if_neg same]

/-- Whatever is registered and released, as long as there is room whenever a buffer is registered:
the search for a handle ends, with one that is not zero and stands for nothing, and registering
changes nothing else.  A handle resolves exactly if it stands for a buffer, and to that buffer; it
is released exactly then, and with it nothing else goes.  The size is the number of handles that
stand for a buffer.  Until all numbers are used up, none is given out twice. -/
theorem handles_are_partial_map (operations : List Operation) (roomy : Roomy empty operations) :
    let registry := empty.run operations
    let history := empty.history operations
    (registry.size < UInt32.size - 1 → ∀ buffer,
      let handle := (registry.register buffer).2
      (∀ found, registry.Finds registry.next found ↔ found = handle) ∧ handle ≠ 0 ∧
      (∀ held, ¬ Stands history handle held) ∧
      ∀ other, (registry.register buffer).1.resolve other =
        if other = handle then .ok buffer else registry.resolve other) ∧
    (∀ handle,
      (∀ buffer, registry.resolve handle = .ok buffer ↔ Stands history handle buffer) ∧
      (registry.resolve handle = .error .notFound ↔ ∀ buffer, ¬ Stands history handle buffer)) ∧
    (∀ handle,
      ((∃ left, registry.release handle = .ok left) ↔ ∃ buffer, Stands history handle buffer) ∧
      ∀ left, registry.release handle = .ok left → ∀ other, left.resolve other =
        if other = handle then .error .notFound else registry.resolve other) ∧
    registry.size = {handle | ∃ buffer, Stands history handle buffer}.ncard ∧
    ((handedOut history).take (UInt32.size - 1)).Nodup := by
  intro registry history
  have follows : registry.Follows history := follows_empty.run roomy
  refine ⟨?_, ?_, ?_, follows.size_eq, ?_⟩
  · intro room buffer
    have free := isFree_iff_get?.mp (registry.isFree_nextHandle (isFull_eq_false.mpr room))
    refine ⟨finds_next_iff room, free.1, ?_, resolve_register registry buffer⟩
    intro held stands
    have taken := (follows.get? _ held).mpr stands
    cases free.2.symm.trans taken
  · intro handle
    refine ⟨follows.resolve_eq_ok handle, ?_⟩
    simp only [← follows.get? handle, resolve]
    cases registry.table.get? handle <;> simp
  · intro handle
    refine ⟨?_, fun left released => resolve_release released⟩
    rw [← follows.contains_iff]
    simp [release_eq_ok]
  · rw [follows.first]
    exact nodup_numbers 1 _ (by omega)

/-! ## Once around -/

/-- Registers a buffer and releases it again, over and over, with the handles from two on. -/
def turnover (buffer : Buffer) (times : Nat) : List Operation :=
  (List.range times).flatMap fun n => [.register buffer, .release (1 + UInt32.ofNat (n + 1))]

/-- A registry in which one stands for a buffer, after some turnover. -/
def turned (kept : Buffer) (times : Nat) : Registry :=
  ⟨⟨[(1, kept)]⟩, 1 + UInt32.ofNat (times + 1)⟩

theorem turned_once (kept buffer : Buffer) {times : Nat} (bound : times + 1 < UInt32.size - 1) :
    (turned kept times).run [.register buffer, .release (1 + UInt32.ofNat (times + 1))] =
      turned kept (times + 1) := by
  have number := toNat_first bound
  have next : 1 + UInt32.ofNat (times + 1) + 1 = 1 + UInt32.ofNat (times + 1 + 1) := by
    rw [UInt32.ofNat_add (times + 1), ← UInt32.add_assoc]
    rfl
  have given : (turned kept times).next = 1 + UInt32.ofNat (times + 1) := rfl
  generalize 1 + UInt32.ofNat (times + 1) = handle at number next given
  have zero : handle ≠ 0 := by
    rintro rfl
    cases number
  have one : handle ≠ 1 := by
    rintro rfl
    rw [UInt32.toNat_one] at number
    omega
  have free : (turned kept times).isFree (turned kept times).next = true := by
    rw [given]
    simp [isFree, turned, Table.contains, zero, Ne.symm one]
  have registered : ((turned kept times).register buffer).1 =
      ⟨⟨[(handle, buffer), (1, kept)]⟩, handle + 1⟩ := by
    rw [register, nextHandle_of_isFree free, given]
    simp [turned, Table.insert, Table.erase, Ne.symm one]
  have released : release ⟨⟨[(handle, buffer), (1, kept)]⟩, handle + 1⟩ handle =
      .ok (turned kept (times + 1)) := by
    rw [release_eq_ok, next]
    simp [turned, Table.contains, Table.erase, Ne.symm one]
  simp only [run, List.foldl_cons, List.foldl_nil, operate, registered, released]

theorem run_turnover (kept buffer : Buffer) {times : Nat} (bound : times < UInt32.size - 1) :
    Roomy (turned kept 0) (turnover buffer times) ∧
      (turned kept 0).run (turnover buffer times) = turned kept times := by
  induction times with
  | zero => exact ⟨trivial, rfl⟩
  | succ times ih =>
    obtain ⟨roomy, run⟩ := ih (by omega)
    have more : turnover buffer (times + 1) = turnover buffer times ++
        [.register buffer, .release (1 + UInt32.ofNat (times + 1))] := by
      rw [turnover, List.range_succ, List.flatMap_append]
      rfl
    rw [more, roomy_append, run_append, run]
    refine ⟨⟨roomy, ?_, trivial⟩, turned_once kept buffer bound⟩
    show 1 < UInt32.size - 1
    decide

theorem run_register_turnover (kept buffer : Buffer) {times : Nat}
    (bound : times < UInt32.size - 1) :
    Roomy empty (.register kept :: turnover buffer times) ∧
      empty.run (.register kept :: turnover buffer times) = turned kept times := by
  obtain ⟨roomy, run⟩ := run_turnover kept buffer bound
  have first : (empty.operate (.register kept)).1 = turned kept 0 := rfl
  rw [Roomy, first]
  refine ⟨⟨?_, roomy⟩, ?_⟩
  · show 0 < UInt32.size - 1
    decide
  · rw [← run, ← first]
    rfl

/-- When the numbers have gone round, the search passes over zero and the handle in use, and two
is given out again. -/
theorem handles_are_partial_map_once_around :
    let buffer : Nat → Buffer := fun n => ⟨n, ⟨n, []⟩, true⟩
    let operations := .register (buffer 0) :: turnover (buffer 1) (UInt32.size - 2)
    let registry := empty.run operations
    Roomy empty operations ∧ registry.size < UInt32.size - 1 ∧ registry.next = 0 ∧
      registry.Finds registry.next 2 ∧ registry.resolve 1 = .ok (buffer 0) ∧
      Stands (empty.history operations) 1 (buffer 0) ∧
      (registry.register (buffer 2)).1.resolve 2 = .ok (buffer 2) := by
  intro buffer operations registry
  obtain ⟨roomy, around⟩ : Roomy empty operations ∧ registry = ⟨⟨[(1, buffer 0)]⟩, 0⟩ :=
    run_register_turnover (buffer 0) (buffer 1) (by decide)
  have room : registry.size < UInt32.size - 1 := by
    rw [around]
    decide
  have given : (registry.register (buffer 2)).2 = 2 := by
    rw [around]
    decide
  obtain ⟨registers, resolves, -⟩ := handles_are_partial_map operations roomy
  obtain ⟨searched, -, -, resolved⟩ := registers room (buffer 2)
  have kept : registry.resolve 1 = .ok (buffer 0) := by
    rw [around]
    rfl
  refine ⟨roomy, room, congrArg next around, ?_, kept, ((resolves 1).1 (buffer 0)).mp kept, ?_⟩
  · exact (searched 2).mpr given.symm
  · rw [resolved 2, given, if_pos rfl]

end Registry

end PresentRelay
