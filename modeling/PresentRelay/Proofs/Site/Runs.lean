import PresentRelay.Proofs.Relay.Deeds

/-!
# Users in the process and sessions at once

A relay serves users in its own process and, over connections, others.  A site is a relay with
both: the scene of the users and the hub of the connections share it.  A run of a site mixes
the steps of the one with the moves of the other in any order.  Users cannot get at what a session
has, so a step with the client or the link of a session does not happen.
-/

set_option autoImplicit false

namespace PresentRelay

namespace Scene.Step

def client? : Scene.Step → Option Nat
  | .closeClient client | .register client _ | .registerCopy client _ | .release client _
  | .handleCount client | .resolve client _ | .createFramebuffer client _
  | .addFramebuffer client _ | .removeFramebuffer client _ | .pageFlip client _
  | .setCrtcById client _ => some client
  | _ => none

def link? : Scene.Step → Option Nat
  | .teardown link | .poll link | .wait link | .exportActive link => some link
  | _ => none

end Scene.Step

/-- Whether a step is about the client or the link of a session. -/
def Session.owns (session : Session) (step : Scene.Step) : Bool :=
  (session.client.isSome && session.client == step.client?) ||
    (session.link.isSome && session.link == step.link?)

/-- A relay with the users in its process, the connections to it by number, the count of
descriptors that peers sent, and the warnings raised so far. -/
structure Site where
  scene : Scene
  connections : List Connection
  sent : Nat
  log : List Warning
  deriving Repr

namespace Site

def new (mode : Mode) : Site := ⟨.new mode, [], 0, refreshWarnings mode.refresh⟩

def hub (site : Site) : Hub := ⟨site.scene.relay, site.connections, site.sent, site.log⟩

def withHub (site : Site) (hub : Hub) : Site :=
  ⟨{ site.scene with relay := hub.relay }, hub.connections, hub.sent, hub.log⟩

/-- Whether a step leaves alone what sessions have. -/
def allows (site : Site) (step : Scene.Step) : Bool :=
  site.connections.all fun connection => connection.session.all fun session => !session.owns step

/-- One thing that happens at a site. -/
inductive Act where
  | inside (step : Scene.Step)
  | outside (move : Hub.Move)

def act (site : Site) : Act → Site
  | .inside step =>
    if site.allows step then
      { site with scene := (site.scene.step step).1, log := site.log ++ site.scene.warnings step }
    else site
  | .outside move => site.withHub (site.hub.move move)

def run (site : Site) (acts : List Act) : Site := acts.foldl act site

@[simp] theorem run_nil (site : Site) : site.run [] = site := rfl

@[simp] theorem run_concat (site : Site) (acts : List Act) (act : Act) :
    site.run (acts ++ [act]) = (site.run acts).act act := by
  simp [run]

theorem deeds_act (site : Site) (act : Act) :
    Relay.Deeds (fun framebuffer => some framebuffer ∈ site.scene.framebuffers) site.scene.relay
      (site.act act).scene.relay := by
  cases act with
  | inside step =>
    rw [Site.act]
    split
    · exact site.scene.deeds_step step
    · exact .refl
  | outside move => exact site.hub.deeds_move move

/-- What holds of a new relay and is kept by every deed holds of the relay at every moment. -/
theorem holds_run {holds : Relay → Prop} (mode : Mode) (start : holds (.new mode))
    (keeps : ∀ {kept before after}, Relay.Deed kept before after → holds before → holds after)
    (acts : List Act) : holds ((new mode).run acts).scene.relay :=
  List.foldlRecOn acts act start fun site held act _ => (site.deeds_act act).keep keeps held

end Site

end PresentRelay
