import PresentRelay.Scene

/-!
# Steps and runs of a scene

What a step leaves behind, apart from what it answers, and how a run goes on from its
last step.
-/

set_option autoImplicit false

namespace PresentRelay

namespace Scene

/-! ## The scene after a step -/

theorem scene_outcome (scene : Scene) (result : Relay × Except RelayError Unit) :
    (scene.outcome result).1 = { scene with relay := result.1 } := by
  obtain ⟨relay, outcome⟩ := result
  cases outcome <;> rfl

theorem step_release (scene : Scene) (client : Nat) (handle : UInt32) :
    (scene.step (.release client handle)).1 =
      { scene with relay := (scene.relay.release client handle).1 } :=
  scene_outcome scene _

theorem step_removeFramebuffer (scene : Scene) (client : Nat) (id : UInt32) :
    (scene.step (.removeFramebuffer client id)).1 =
      { scene with relay := (scene.relay.removeFramebuffer client id).1 } :=
  scene_outcome scene _

theorem step_pageFlip (scene : Scene) (client : Nat) (id : UInt32) :
    (scene.step (.pageFlip client id)).1 =
      { scene with relay := (scene.relay.pageFlip client id).1 } :=
  scene_outcome scene _

theorem step_setCrtcById (scene : Scene) (client : Nat) (id : Option UInt32) :
    (scene.step (.setCrtcById client id)).1 =
      { scene with relay := (scene.relay.setCrtcById client id).1 } :=
  scene_outcome scene _

theorem step_addFramebuffer (scene : Scene) (client : Nat) (handles : List UInt32) :
    (scene.step (.addFramebuffer client handles)).1 =
      { scene with relay := (scene.relay.addFramebuffer client handles).1 } := by
  simp only [step]
  split <;> simp_all

theorem step_attach (scene : Scene) :
    (scene.step .attach).1 = { scene with relay := scene.relay.attach.1 } := by
  simp only [step]
  split <;> simp_all

theorem step_poll (scene : Scene) (link : Nat) :
    (scene.step (.poll link)).1 = { scene with relay := (scene.relay.poll link).1 } := by
  simp only [step]
  split <;> simp_all

theorem step_wait (scene : Scene) (link : Nat) :
    (scene.step (.wait link)).1 = { scene with relay := (scene.relay.wait link).1 } := by
  simp only [step]
  split <;> simp_all

theorem step_resolve (scene : Scene) (client : Nat) (handle : UInt32) :
    (scene.step (.resolve client handle)).1 = scene := by
  simp only [step]
  split
  · rfl
  · split <;> rfl

/-! ## Runs, seen from their last step -/

@[simp] theorem run_nil (scene : Scene) : scene.run [] = scene := rfl

@[simp] theorem run_concat (scene : Scene) (steps : List Step) (step : Step) :
    scene.run (steps ++ [step]) = ((scene.run steps).step step).1 := by
  simp [run]

theorem run_cons (scene : Scene) (step : Step) (steps : List Step) :
    scene.run (step :: steps) = (scene.step step).1.run steps := rfl

theorem run_append (scene : Scene) (before after : List Step) :
    scene.run (before ++ after) = (scene.run before).run after :=
  List.foldl_append

theorem answers_concat (scene : Scene) (steps : List Step) (step : Step) :
    scene.answers (steps ++ [step]) = scene.answers steps ++ [((scene.run steps).step step).2] := by
  induction steps generalizing scene with
  | nil => rfl
  | cons first steps ih => simp [answers, ih, run_cons]

end Scene

end PresentRelay
