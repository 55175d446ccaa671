import PresentRelay.Proofs.Relay.Effects
import PresentRelay.Proofs.Scene.Steps

/-!
# The moves of a run

Whatever happens to a relay, its two slots see one of four moves, or none.  `slots_step`
says which move a step makes; by `slots_run` the slots after a run are those that its
moves lead to.
-/

set_option autoImplicit false

namespace PresentRelay

inductive Move where
  | commit (record : Record)
  | blank
  | take
  /-- Power off, or the end of the registration. -/
  | clear
  deriving DecidableEq, Repr

namespace Move

def record? : Move → Option Record
  | .commit record => some record
  | _ => none

/-- Whether nothing waits after a move, whatever came before it. -/
def settles : Move → Bool
  | .blank | .clear => true
  | _ => false

end Move

def Slots.move (slots : Slots) : Move → Slots
  | .commit record => (slots.commit record).1
  | .blank => slots.retire.1
  | .take => slots.takeActive.1
  | .clear => slots.clear.1

namespace Scene

def commitOf (framebuffer : Option Framebuffer) : Option Move :=
  framebuffer.map fun framebuffer => .commit (.ofFramebuffer framebuffer)

def move? (scene : Scene) : Step → Option Move
  | .commit number | .setCrtc (some number) => commitOf (scene.framebuffer? number)
  | .pageFlip client id | .setCrtcById client (some id) =>
    commitOf ((scene.relay.client client).framebuffers.get? id)
  | .setCrtc none | .setCrtcById _ none | .power .off => some .clear
  | .teardown link => if scene.relay.registered = some link then some .clear else none
  | .tick => some .blank
  | .exportActive _ => some .take
  | _ => none

def moves : Scene → List Step → List Move
  | _, [] => []
  | scene, step :: steps => (scene.move? step).toList ++ moves (scene.step step).1 steps

theorem moves_concat (scene : Scene) (steps : List Step) (step : Step) :
    scene.moves (steps ++ [step]) = scene.moves steps ++ ((scene.run steps).move? step).toList := by
  induction steps generalizing scene with
  | nil => simp [moves]
  | cons first steps ih => simp [moves, ih, run_cons]

/-! ## Slots and moves -/

theorem slots_registerWith (scene : Scene) (client : Nat) (buffer : Buffer) :
    (scene.registerWith client buffer).1.relay.slots = scene.relay.slots := by
  unfold registerWith
  split
  · rfl
  · split <;> rfl

theorem slots_pageFlip (relay : Relay) (client : Nat) (id : UInt32) :
    (relay.pageFlip client id).1.slots =
      (commitOf ((relay.client client).framebuffers.get? id)).elim relay.slots
        relay.slots.move := by
  unfold Relay.pageFlip Client.framebuffer
  cases (relay.client client).framebuffers.get? id <;> rfl

theorem slots_setCrtc (relay : Relay) (framebuffer : Framebuffer) :
    (relay.setCrtc (some framebuffer)).slots =
      relay.slots.move (.commit (.ofFramebuffer framebuffer)) := by
  simp [Relay.setCrtc, Relay.slots_setPower, Slots.move]

theorem slots_setCrtcById (relay : Relay) (client : Nat) (id : UInt32) :
    (relay.setCrtcById client (some id)).1.slots =
      (commitOf ((relay.client client).framebuffers.get? id)).elim relay.slots
        relay.slots.move := by
  simp only [Relay.setCrtcById, Client.framebuffer]
  cases (relay.client client).framebuffers.get? id with
  | none => rfl
  | some framebuffer => exact slots_setCrtc relay framebuffer

theorem slots_off (relay : Relay) : (relay.setPower .off).slots = relay.slots.move .clear := by
  rw [Relay.slots_setPower, if_pos rfl]
  rfl

/-- A step does its move to the slots, and nothing else. -/
theorem slots_step (scene : Scene) (step : Step) :
    (scene.step step).1.relay.slots =
      (scene.move? step).elim scene.relay.slots scene.relay.slots.move := by
  cases step with
  | commit number =>
    simp only [step, move?]
    cases scene.framebuffer? number <;> rfl
  | setCrtc number =>
    cases number with
    | none => exact slots_off scene.relay
    | some number =>
      simp only [step, move?]
      cases scene.framebuffer? number with
      | none => rfl
      | some framebuffer => exact slots_setCrtc scene.relay framebuffer
  | pageFlip client id =>
    rw [step_pageFlip]
    exact slots_pageFlip scene.relay client id
  | setCrtcById client id =>
    rw [step_setCrtcById]
    cases id with
    | none => exact slots_off scene.relay
    | some id => exact slots_setCrtcById scene.relay client id
  | power target =>
    cases target with
    | off => exact slots_off scene.relay
    | on | noConsumer => exact Relay.slots_setPower _ _
  | teardown link =>
    simp only [step, move?]
    rw [Relay.slots_teardown]
    split <;> rfl
  | tick => exact Relay.slots_tick scene.relay
  -- no other step touches the slots
  | register client number | registerCopy client number =>
    simp only [step, move?, Option.elim_none]
    cases scene.made[number]? with
    | none => rfl
    | some buffer => exact slots_registerWith _ _ _
  | closeClient client => exact Relay.slots_closeClient scene.relay client
  | release client handle =>
    rw [step_release]
    exact Relay.slots_release scene.relay client handle
  | createFramebuffer client handles =>
    simp only [step, createFramebuffer, Relay.createFramebuffer]
    cases Framebuffer.create scene.relay.nextFramebuffer (scene.relay.client client).registry
      handles <;> rfl
  | addFramebuffer client handles =>
    rw [step_addFramebuffer]
    exact Relay.slots_addFramebuffer scene.relay client handles
  | removeFramebuffer client id =>
    rw [step_removeFramebuffer]
    exact Relay.slots_removeFramebuffer scene.relay client id
  | attach =>
    rw [step_attach]
    exact Relay.slots_attach scene.relay
  | poll link => rw [step_poll]; rfl
  | wait link => rw [step_wait]; rfl
  | resolve client handle => rw [step_resolve]; rfl
  | configure mode => exact Relay.slots_configure scene.relay mode
  | _ => rfl

theorem slots_run (scene : Scene) (steps : List Step) :
    (scene.run steps).relay.slots = (scene.moves steps).foldl Slots.move scene.relay.slots := by
  induction steps generalizing scene with
  | nil => rfl
  | cons step steps ih =>
    rw [run, List.foldl_cons, ← run, ih, slots_step, moves, List.foldl_append]
    cases scene.move? step <;> rfl

end Scene

end PresentRelay
