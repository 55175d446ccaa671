import Mathlib.Algebra.BigOperators.Group.Finset.Basic
import Mathlib.Algebra.BigOperators.Group.Finset.Piecewise
import Mathlib.Algebra.GroupWithZero.Nat
import PresentRelay.Scene

/-!
# Holdings, by the account of the users

Users of a relay can tell which buffers they hold from what they asked for and what they
were answered.  `Holdings.note` keeps such an account without a look at the relay:
buffers are named by the order in which they were made, handles and framebuffers by the
numbers that the relay answered with.
-/

set_option autoImplicit false

namespace PresentRelay

/-- Something that a client has under a number. -/
abbrev Owned (α : Type) := (Nat × UInt32) × α

/-- The planes of a framebuffer: the number of the made buffer in each; none for an object
over a descriptor. -/
abbrev Planes := List (Option Nat)

/-- What the users of a relay hold. -/
structure Holdings where
  /-- The registrations, by client and handle, whose handle was not released. -/
  registrations : List (Owned (Option Nat))
  /-- The framebuffers of clients, by client and number, that were not removed. -/
  added : List (Owned Planes)
  /-- Those among them that went because their client was given their number again. -/
  replaced : List (Owned Planes)
  /-- The framebuffers of callers in the order of creation; none for one that was dropped. -/
  kept : List (Option Planes)
  numbered : Nat
  deriving DecidableEq, Repr

namespace Holdings

def empty : Holdings := ⟨[], [], [], [], 0⟩

def planes (holdings : Holdings) (client : Nat) (handles : List UInt32) : Planes :=
  handles.map fun handle => (holdings.registrations.lookup (client, handle)).join

def note (holdings : Holdings) : Scene.Step → Scene.Answer → Holdings
  | .register client buffer, .handle handle =>
    { holdings with
      registrations := ((client, handle), some buffer) :: holdings.registrations }
  | .registerCopy client _, .handle handle =>
    { holdings with registrations := ((client, handle), none) :: holdings.registrations }
  | .release client handle, .done =>
    { holdings with
      registrations := holdings.registrations.filter fun entry => entry.1 != (client, handle) }
  | .closeClient client, _ =>
    { holdings with
      registrations := holdings.registrations.filter fun entry => entry.1.1 != client
      added := holdings.added.filter fun entry => entry.1.1 != client }
  | .createFramebuffer client handles, answer =>
    { holdings with
      numbered := holdings.numbered + 1
      kept := match answer with
        | .framebuffer _ _ => holdings.kept ++ [some (holdings.planes client handles)]
        | _ => holdings.kept }
  | .dropFramebuffer number, _ => { holdings with kept := holdings.kept.set number none }
  | .addFramebuffer client handles, .handle id =>
    { holdings with
      numbered := holdings.numbered + 1
      added := ((client, id), holdings.planes client handles) ::
        holdings.added.filter fun entry => entry.1 != (client, id)
      replaced := holdings.replaced ++
        holdings.added.filter fun entry => entry.1 == (client, id) }
  | .addFramebuffer _ _, _ => { holdings with numbered := holdings.numbered + 1 }
  | .removeFramebuffer client id, .done =>
    { holdings with added := holdings.added.filter fun entry => entry.1 != (client, id) }
  | _, _ => holdings

def ofRun (steps : List Scene.Step) (answers : List Scene.Answer) : Holdings :=
  (steps.zip answers).foldl (fun holdings (step, answer) => holdings.note step answer) empty

end Holdings

/-! ## What one client has -/

namespace Owned

variable {α : Type}

def ofClient (client : Nat) (entries : List (Owned α)) : List (UInt32 × α) :=
  entries.filterMap fun entry => if entry.1.1 = client then some (entry.1.2, entry.2) else none

@[simp] theorem ofClient_nil (client : Nat) : ofClient client ([] : List (Owned α)) = [] := rfl

theorem ofClient_cons (client owner : Nat) (number : UInt32) (value : α)
    (entries : List (Owned α)) :
    ofClient client (((owner, number), value) :: entries) =
      if client = owner then (number, value) :: ofClient client entries
      else ofClient client entries := by
  by_cases same : client = owner
  · subst same
    simp [ofClient]
  · simp [ofClient, same, Ne.symm same]

theorem ofClient_filter_ne (client owner : Nat) (number : UInt32) (entries : List (Owned α)) :
    ofClient client (entries.filter fun entry => entry.1 != (owner, number)) =
      if client = owner then (ofClient client entries).filter fun entry => entry.1 != number
      else ofClient client entries := by
  induction entries with
  | nil => simp
  | cons entry entries ih =>
    obtain ⟨⟨holder, held⟩, value⟩ := entry
    rw [List.filter_cons, ofClient_cons]
    by_cases same : client = owner
    · subst same
      rw [if_pos rfl] at ih ⊢
      by_cases mine : client = holder
      · subst mine
        by_cases hit : held = number
        · simp [hit, ih]
        · simp [hit, ih, ofClient_cons]
      · simp [mine, Ne.symm mine, ih, ofClient_cons]
    · rw [if_neg same] at ih ⊢
      by_cases mine : client = holder
      · subst mine
        simp [same, ih, ofClient_cons]
      · by_cases gone : holder = owner ∧ held = number <;> simp_all [ofClient_cons]

theorem ofClient_filter_client (client owner : Nat) (entries : List (Owned α)) :
    ofClient client (entries.filter fun entry => entry.1.1 != owner) =
      if client = owner then [] else ofClient client entries := by
  induction entries with
  | nil => simp
  | cons entry entries ih =>
    obtain ⟨⟨holder, held⟩, value⟩ := entry
    rw [List.filter_cons, ofClient_cons]
    by_cases same : client = owner
    · subst same
      by_cases mine : client = holder
      · simp_all
      · simp_all [Ne.symm mine, ofClient_cons]
    · by_cases mine : client = holder
      · subst mine
        simp_all [ofClient_cons]
      · by_cases gone : holder = owner <;> simp_all [ofClient_cons]

theorem lookup_ofClient (client : Nat) (number : UInt32) (entries : List (Owned α)) :
    entries.lookup (client, number) = (ofClient client entries).lookup number := by
  induction entries with
  | nil => rfl
  | cons entry entries ih =>
    obtain ⟨⟨holder, held⟩, value⟩ := entry
    rw [ofClient_cons, List.lookup_cons, ih]
    by_cases mine : client = holder
    · subst mine
      rw [if_pos rfl, List.lookup_cons]
      by_cases hit : number = held
      · simp [hit]
      · have differ : ((client, number) == (client, held)) = false := by simp [hit]
        rw [differ, beq_false_of_ne hit]
    · have differ : ((client, number) == (holder, held)) = false := by simp [mine]
      rw [if_neg mine, differ]

/-- Weights add up over the clients, if no entry is of a client past the last. -/
theorem sum_ofClient (weight : α → Nat) (count : Nat) (entries : List (Owned α))
    (bound : ∀ entry ∈ entries, entry.1.1 < count) :
    ∑ client ∈ Finset.range count,
        ((ofClient client entries).map fun entry => weight entry.2).sum =
      (entries.map fun entry => weight entry.2).sum := by
  induction entries with
  | nil => simp
  | cons entry entries ih =>
    obtain ⟨⟨holder, held⟩, value⟩ := entry
    have within : holder < count := bound _ (List.mem_cons_self ..)
    have rest := ih fun entry member => bound entry (List.mem_cons_of_mem _ member)
    have split : ∀ client, ((ofClient client (((holder, held), value) :: entries)).map
          fun entry => weight entry.2).sum =
        (if client = holder then weight value else 0) +
          ((ofClient client entries).map fun entry => weight entry.2).sum := by
      intro client
      rw [ofClient_cons]
      split <;> simp
    simp only [split, Finset.sum_add_distrib, rest, List.map_cons, List.sum_cons]
    rw [Finset.sum_ite_eq' (Finset.range count) holder fun _ => weight value,
      if_pos (Finset.mem_range.mpr within)]

theorem mem_ofClient {client : Nat} {number : UInt32} {value : α} {entries : List (Owned α)} :
    (number, value) ∈ ofClient client entries ↔ ((client, number), value) ∈ entries := by
  simp only [ofClient, List.mem_filterMap]
  constructor
  · rintro ⟨⟨⟨holder, held⟩, kept⟩, member, shown⟩
    split at shown
    · next mine =>
      obtain rfl : holder = client := mine
      cases shown
      exact member
    · cases shown
  · intro member
    exact ⟨_, member, if_pos rfl⟩

end Owned

end PresentRelay
