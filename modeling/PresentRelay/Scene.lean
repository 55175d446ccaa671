import PresentRelay.Relay

/-!
# Runs of a relay

A scene is a relay together with what its users hold: the buffers they made, of
which each maker keeps a reference, and the framebuffers that callers own.  A
run is a list of steps on a scene; `references` follows every made buffer
through it.
-/

set_option autoImplicit false

namespace PresentRelay

/-- A relay and what its users hold.  Buffers and framebuffers are numbered in
the order in which they were made; a framebuffer that was dropped is gone. -/
structure Scene where
  relay : Relay
  made : List Buffer
  /-- How many buffer objects exist, those over received descriptors included. -/
  objects : Nat
  framebuffers : List (Option Framebuffer)
  deriving Repr

namespace Scene

def new (mode : Mode) : Scene := ⟨.new mode, [], 0, []⟩

/-- One step of a run.  Clients, buffers, framebuffers, links and observers are
named by number. -/
inductive Step where
  | makeBuffer (contents : Bytes) (mintable : Bool)
  | openClient
  | closeClient (client : Nat)
  | register (client buffer : Nat)
  /-- Registers a descriptor of a buffer's file; that makes an object of its own. -/
  | registerCopy (client buffer : Nat)
  | release (client : Nat) (handle : UInt32)
  | handleCount (client : Nat)
  | resolve (client : Nat) (handle : UInt32)
  | createFramebuffer (client : Nat) (handles : List UInt32)
  | dropFramebuffer (framebuffer : Nat)
  | addFramebuffer (client : Nat) (handles : List UInt32)
  | removeFramebuffer (client : Nat) (id : UInt32)
  | commit (framebuffer : Nat)
  | pageFlip (client : Nat) (id : UInt32)
  | setCrtc (framebuffer : Option Nat)
  | setCrtcById (client : Nat) (id : Option UInt32)
  | power (target : Power)
  | tellPower
  | tick
  | attach
  | teardown (link : Nat)
  | poll (link : Nat)
  | wait (link : Nat)
  /-- Exports through a link; any link may. -/
  | exportActive (link : Nat)
  | configure (mode : Mode)
  | subscribe
  | unsubscribe (observer : Nat)
  | changes (observer : Nat)
  | vblanks
  deriving DecidableEq, Repr

inductive Answer where
  | done
  | absent
  | failed (error : RelayError)
  | number (n : Nat)
  | handle (handle : UInt32)
  | buffer (number : Option Nat)
  | framebuffer (number : Nat) (framebuffer : Framebuffer)
  | changed (changed : Bool)
  | power (power : Power)
  | ticked (tick : Tick)
  | event (event : Option RelayEvent)
  | blocked
  | exported (exported : Export)
  | modes (modes : Option (List Mode))
  | sequence (sequence : UInt64)
  deriving Repr

def makeBuffer (scene : Scene) (contents : Bytes) (mintable : Bool) : Scene × Nat :=
  ({ scene with
      made := scene.made ++ [⟨scene.objects, ⟨scene.objects, contents⟩, mintable⟩]
      objects := scene.objects + 1 }, scene.made.length)

def bufferOf (scene : Scene) (file : File) : Option Nat :=
  scene.made.findIdx? fun buffer => buffer.file.number = file.number

def framebuffer? (scene : Scene) (framebuffer : Nat) : Option Framebuffer :=
  scene.framebuffers[framebuffer]?.join

def outcome (scene : Scene) : Relay × Except RelayError Unit → Scene × Answer
  | (relay, .ok ()) => ({ scene with relay }, .done)
  | (relay, .error error) => ({ scene with relay }, .failed error)

/-- Registers a buffer with a client that is open.  The search for a handle never ends
while all are in use. -/
def registerWith (scene : Scene) (client : Nat) (buffer : Buffer) : Scene × Answer :=
  if !scene.relay.isOpen client then (scene, .absent)
  else if (scene.relay.client client).registry.isFull then (scene, .blocked)
  else
    let (relay, handle) := scene.relay.register client buffer
    ({ scene with relay }, .handle handle)

def createFramebuffer (scene : Scene) (client : Nat) (handles : List UInt32) : Scene × Answer :=
  match scene.relay.createFramebuffer client handles with
  | (relay, .ok framebuffer) =>
    ({ scene with relay, framebuffers := scene.framebuffers ++ [some framebuffer] },
      .framebuffer scene.framebuffers.length framebuffer)
  | (relay, .error error) => ({ scene with relay }, .failed error)

def step (scene : Scene) : Step → Scene × Answer
  | .makeBuffer contents mintable =>
    let (scene, number) := scene.makeBuffer contents mintable
    (scene, .number number)
  | .openClient =>
    let (relay, client) := scene.relay.openClient
    ({ scene with relay }, .number client)
  | .closeClient client => ({ scene with relay := scene.relay.closeClient client }, .done)
  | .register client number =>
    match scene.made[number]? with
    | none => (scene, .absent)
    | some buffer => scene.registerWith client buffer
  | .registerCopy client number =>
    match scene.made[number]? with
    | none => (scene, .absent)
    | some buffer =>
      { scene with objects := scene.objects + 1 }.registerWith client
        (.ofDescriptor scene.objects buffer.file)
  | .release client handle => scene.outcome (scene.relay.release client handle)
  | .handleCount client => (scene, .number (scene.relay.client client).registry.size)
  | .resolve client handle =>
    match (scene.relay.client client).registry.resolve handle with
    | .error error => (scene, .failed error)
    | .ok buffer =>
      match buffer.mint with
      | .ok file => (scene, .buffer (scene.bufferOf file))
      | .error fault => (scene, .failed (.io fault))
  | .createFramebuffer client handles => scene.createFramebuffer client handles
  | .dropFramebuffer framebuffer =>
    ({ scene with framebuffers := scene.framebuffers.set framebuffer none }, .done)
  | .addFramebuffer client handles =>
    match scene.relay.addFramebuffer client handles with
    | (relay, .ok id) => ({ scene with relay }, .handle id)
    | (relay, .error error) => ({ scene with relay }, .failed error)
  | .removeFramebuffer client id => scene.outcome (scene.relay.removeFramebuffer client id)
  | .commit number =>
    match scene.framebuffer? number with
    | some framebuffer => ({ scene with relay := scene.relay.commit framebuffer }, .done)
    | none => (scene, .absent)
  | .pageFlip client id => scene.outcome (scene.relay.pageFlip client id)
  | .setCrtc none => ({ scene with relay := scene.relay.setCrtc none }, .done)
  | .setCrtc (some number) =>
    match scene.framebuffer? number with
    | some framebuffer =>
      ({ scene with relay := scene.relay.setCrtc (some framebuffer) }, .done)
    | none => (scene, .absent)
  | .setCrtcById client id => scene.outcome (scene.relay.setCrtcById client id)
  | .power target => ({ scene with relay := scene.relay.setPower target }, .done)
  | .tellPower => (scene, .power scene.relay.power)
  | .tick =>
    let (relay, tick) := scene.relay.tick
    ({ scene with relay }, .ticked tick)
  | .attach =>
    match scene.relay.attach with
    | (relay, .ok link) => ({ scene with relay }, .number link)
    | (relay, .error error) => ({ scene with relay }, .failed error)
  | .teardown link => ({ scene with relay := scene.relay.teardown link }, .done)
  | .poll link =>
    match scene.relay.poll link with
    | (relay, .ok event) => ({ scene with relay }, .event event)
    | (relay, .error error) => ({ scene with relay }, .failed error)
  | .wait link =>
    match scene.relay.wait link with
    | (relay, .ready (.ok event)) => ({ scene with relay }, .event (some event))
    | (relay, .ready (.error error)) => ({ scene with relay }, .failed error)
    | (relay, .blocked) => ({ scene with relay }, .blocked)
  | .exportActive _ =>
    let (relay, exported) := scene.relay.exportActive
    ({ scene with relay }, .exported exported)
  | .configure mode =>
    let (relay, changed) := scene.relay.configure mode
    ({ scene with relay }, .changed changed)
  | .subscribe =>
    let (observers, observer) := scene.relay.observers.subscribe
    ({ scene with relay := { scene.relay with observers } }, .number observer)
  | .unsubscribe observer =>
    ({ scene with relay :=
        { scene.relay with observers := scene.relay.observers.unsubscribe observer } }, .done)
  | .changes observer =>
    let (observers, modes) := scene.relay.observers.take observer
    ({ scene with relay := { scene.relay with observers } }, .modes modes)
  | .vblanks => (scene, .sequence scene.relay.pacer.sequence)

def run (scene : Scene) (steps : List Step) : Scene :=
  steps.foldl (fun scene step => (scene.step step).1) scene

def answers : Scene → List Step → List Answer
  | _, [] => []
  | scene, step :: steps => (scene.step step).2 :: answers (scene.step step).1 steps

def warnings (scene : Scene) : Step → List Warning
  | .exportActive _ => scene.relay.exportWarnings
  | .configure mode => scene.relay.configureWarnings mode
  | _ => []

def withoutLinks (scene : Scene) : Scene :=
  { scene with relay :=
      (List.range scene.relay.links.length).foldl Relay.teardown scene.relay }

def withoutClients (scene : Scene) : Scene :=
  { scene with relay :=
      (List.range scene.relay.clients.length).foldl Relay.closeClient scene.relay }

def withoutFramebuffers (scene : Scene) : Scene :=
  { scene with framebuffers := scene.framebuffers.map fun _ => none }

/-- All references that are held to buffers, makers' own apart. -/
def held (scene : Scene) : List Buffer :=
  scene.relay.buffers ++
    (scene.framebuffers.filterMap fun held => held).flatMap Framebuffer.buffers

/-- How many references a made buffer has, its maker's included. -/
def references (scene : Scene) (buffer : Buffer) : Nat :=
  1 + scene.held.countP fun other => other.object = buffer.object

/-! ## Framebuffers from scratch -/

inductive Plane where
  | fresh (contents : Bytes) (mintable : Bool)
  /-- A descriptor of a file that no buffer was made over. -/
  | file (contents : Bytes)
  | made (buffer : Nat)
  deriving DecidableEq, Repr

def registerPlane (scene : Scene) (client : Nat) (plane : Plane) : Scene × Option UInt32 :=
  let registered (scene : Scene) (buffer : Buffer) : Scene × Option UInt32 :=
    match scene.registerWith client buffer with
    | (scene, .handle handle) => (scene, some handle)
    | (scene, _) => (scene, none)
  let numbered (scene : Scene) (number : Nat) : Scene × Option UInt32 :=
    match scene.made[number]? with
    | some buffer => registered scene buffer
    | none => (scene, none)
  match plane with
  | .fresh contents mintable =>
    let (scene, number) := scene.makeBuffer contents mintable
    numbered scene number
  | .file contents =>
    registered { scene with objects := scene.objects + 1 }
      (.ofDescriptor scene.objects ⟨scene.objects, contents⟩)
  | .made number => numbered scene number

def registerPlanes (client : Nat) : Scene → List Plane → Scene × List UInt32
  | scene, [] => (scene, [])
  | scene, plane :: planes =>
    let (scene, handle) := scene.registerPlane client plane
    let (scene, handles) := registerPlanes client scene planes
    (scene, handle.toList ++ handles)

def buildFramebuffer (scene : Scene) (client : Nat) (planes : List Plane) : Scene × Answer :=
  let (scene, handles) := registerPlanes client scene planes
  scene.createFramebuffer client handles

/-! ## Frames on a timer -/

inductive Awaited where
  | event
  | vblank
  deriving DecidableEq, Repr

inductive Woken where
  | event (outcome : EventChannel.Wait)
  | vblank (sequence : UInt64)

/-- Waits on the first link of a relay with a timer.  An event that is due already is
taken at once; otherwise the timer ticks first.  A vertical blank always is the next one. -/
def awaitTimed (relay : Relay) (awaited : Awaited) : Relay × Woken :=
  let (ticked, tick) := relay.tick
  match awaited with
  | .vblank => (ticked, .vblank tick.sequence)
  | .event =>
    match relay.wait 0 with
    | (relay, .ready outcome) => (relay, .event (.ready outcome))
    | (_, .blocked) =>
      let (relay, waited) := ticked.wait 0
      (relay, .event waited)

/-- Commits a frame of fresh buffers through the first client, waits, and exports
through the first link. -/
def timedFrame (scene : Scene) (planes : Nat) (awaited : Awaited) : Scene × Woken × Export :=
  let (scene, handles) := registerPlanes 0 scene (List.replicate planes (.fresh [] true))
  let shown :=
    match scene.relay.addFramebuffer 0 handles with
    | (relay, .ok id) => (relay.pageFlip 0 id).1
    | (relay, .error _) => relay
  let (relay, woken) := awaitTimed shown awaited
  let (relay, exported) := relay.exportActive
  ({ scene with relay }, woken, exported)

end Scene

end PresentRelay
