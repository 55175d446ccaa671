import Mathlib.Data.List.Forall2
import PresentRelay.Framebuffer

/-!
# What a new framebuffer is made of

A framebuffer comes into being only if every handle stands for a buffer, and then it has
these buffers in the order of the handles.
-/

set_option autoImplicit false

namespace PresentRelay

theorem forall₂_of_mapM {ε α β : Type} {f : α → Except ε β} {inputs : List α} {outputs : List β}
    (success : inputs.mapM f = .ok outputs) :
    List.Forall₂ (fun input output => f input = .ok output) inputs outputs := by
  induction inputs generalizing outputs with
  | nil =>
    obtain rfl : [] = outputs := Except.ok.inj success
    exact .nil
  | cons input inputs ih =>
    rw [List.mapM_cons] at success
    cases first : f input with
    | error fault =>
      rw [first] at success
      cases success
    | ok output =>
      cases rest : inputs.mapM f with
      | error fault =>
        rw [first, rest] at success
        cases success
      | ok others =>
        rw [first, rest] at success
        obtain rfl : output :: others = outputs := Except.ok.inj success
        exact .cons first (ih rest)

namespace Framebuffer

/-- Every plane has its handle and the buffer that the handle stands for. -/
def Resolves (registry : Registry) (handles : List UInt32) (framebuffer : Framebuffer) : Prop :=
  List.Forall₂ (fun handle plane => plane.1 = handle ∧ registry.table.get? handle = some plane.2)
    handles framebuffer.planes

theorem resolves_of_create {id : UInt32} {registry : Registry} {handles : List UInt32}
    {framebuffer : Framebuffer} (created : create id registry handles = .ok framebuffer) :
    framebuffer.id = id ∧ handles ≠ [] ∧ handles.length ≤ maxPlanes ∧
      framebuffer.Resolves registry handles := by
  unfold create at created
  split at created
  · cases created
  · next some =>
    split at created
    · cases created
    · next few =>
      dsimp only at created
      split at created
      · next planes resolved =>
        obtain rfl : (⟨id, planes⟩ : Framebuffer) = framebuffer := Except.ok.inj created
        refine ⟨rfl, by simpa using some, by omega, ?_⟩
        refine (forall₂_of_mapM resolved).imp ?_
        intro handle plane found
        unfold Registry.resolve at found
        split at found
        · next buffer held =>
          obtain rfl : (handle, buffer) = plane := Except.ok.inj found
          exact ⟨rfl, held⟩
        · cases found
      · cases created

theorem Resolves.mem_entries {registry : Registry} {handles : List UInt32}
    {framebuffer : Framebuffer} (resolves : framebuffer.Resolves registry handles) {buffer : Buffer}
    (member : buffer ∈ framebuffer.buffers) :
    ∃ handle, registry.table.get? handle = some buffer := by
  obtain ⟨id, planes⟩ := framebuffer
  simp only [Resolves, buffers] at resolves member
  induction resolves with
  | nil => simp at member
  | cons found _ ih =>
    rcases List.mem_cons.mp member with rfl | later
    · exact ⟨_, found.2⟩
    · exact ih later

theorem Resolves.length_buffers {registry : Registry} {handles : List UInt32}
    {framebuffer : Framebuffer} (resolves : framebuffer.Resolves registry handles) :
    framebuffer.buffers.length = handles.length := by
  simp [buffers, List.Forall₂.length_eq resolves]

theorem Resolves.map_file {registry : Registry} {handles : List UInt32} {framebuffer : Framebuffer}
    (resolves : framebuffer.Resolves registry handles) :
    framebuffer.buffers.map Buffer.file =
      handles.filterMap fun handle => (registry.table.get? handle).map Buffer.file := by
  obtain ⟨id, planes⟩ := framebuffer
  simp only [Resolves, buffers] at resolves ⊢
  induction resolves with
  | nil => rfl
  | cons found _ ih =>
    rw [List.map_cons, List.map_cons, ih, List.filterMap_cons, found.2]
    rfl

end Framebuffer

end PresentRelay
