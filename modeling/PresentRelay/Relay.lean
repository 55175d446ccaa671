import PresentRelay.Event
import PresentRelay.Framebuffer
import PresentRelay.Mode
import PresentRelay.Pacer

/-!
# The relay

A relay joins two roles.  Producers open clients: each has handles and
framebuffers of its own, and any may commit.  One consumer at a time holds a
registration, that is a link with an event channel; links and clients are
numbered in the order in which they were made.

A commit waits in the pending slot and arms the pacer; a vertical blank makes it
active and tells the consumer; an export takes it.  Besides that, only two things
empty the slots: power off, and the end of the registration.
-/

set_option autoImplicit false

namespace PresentRelay

structure Client where
  registry : Registry
  framebuffers : Table Framebuffer
  isOpen : Bool
  deriving Repr

namespace Client

def new : Client := ⟨.empty, .empty, true⟩

def closed : Client := ⟨.empty, .empty, false⟩

def framebuffer (client : Client) (id : UInt32) : Except RelayError Framebuffer :=
  match client.framebuffers.get? id with
  | some framebuffer => .ok framebuffer
  | none => .error .notFound

/-- The buffers that the client holds references to: one per handle and one per plane. -/
def buffers (client : Client) : List Buffer :=
  client.registry.table.values ++ client.framebuffers.values.flatMap Framebuffer.buffers

end Client

structure Relay where
  slots : Slots
  pacer : Pacer
  power : Power
  mode : Mode
  observers : Observers
  /-- The channel of every link that was ever made. -/
  links : List EventChannel
  registered : Option Nat
  clients : List Client
  /-- The number of the next framebuffer of any client. -/
  nextFramebuffer : UInt32
  deriving Repr

namespace Relay

def new (mode : Mode) : Relay where
  slots := .empty
  pacer := .new mode.refresh
  power := .on
  mode := mode
  observers := .empty
  links := []
  registered := none
  clients := []
  nextFramebuffer := 1

/-! ## Power and events -/

def tellConsumer (relay : Relay) (change : EventChannel → EventChannel) : Relay :=
  match relay.registered with
  | none => relay
  | some link => { relay with links := relay.links.modify link change }

def setPower (relay : Relay) (target : Power) : Relay :=
  let (_, slots, pacer) := relay.power.enter target relay.slots relay.pacer
  { relay with power := target, slots, pacer }.tellConsumer fun channel =>
    channel.notifyPower target

/-! ## Producers -/

/-- The client of a number; one that is not there counts as closed. -/
def client (relay : Relay) (client : Nat) : Client := relay.clients[client]?.getD .closed

def isOpen (relay : Relay) (client : Nat) : Bool := (relay.client client).isOpen

def openClient (relay : Relay) : Relay × Nat :=
  ({ relay with clients := relay.clients ++ [.new] }, relay.clients.length)

/-- Closes a client with all it registered.  When the last one closes, the power
state says that no consumer need look for frames. -/
def closeClient (relay : Relay) (client : Nat) : Relay :=
  if relay.isOpen client then
    let left := { relay with clients := relay.clients.set client .closed }
    if left.clients.any Client.isOpen then left else left.setPower .noConsumer
  else relay

def onClient (relay : Relay) (client : Nat) (change : Client → Client) : Relay :=
  { relay with clients := relay.clients.modify client change }

def register (relay : Relay) (client : Nat) (buffer : Buffer) : Relay × UInt32 :=
  let (registry, handle) := (relay.client client).registry.register buffer
  (relay.onClient client fun held => { held with registry }, handle)

def release (relay : Relay) (client : Nat) (handle : UInt32) : Relay × Except RelayError Unit :=
  match (relay.client client).registry.release handle with
  | .ok registry => (relay.onClient client fun held => { held with registry }, .ok ())
  | .error error => (relay, .error error)

/-- Builds a framebuffer that the caller owns.  A failed creation uses up its number. -/
def createFramebuffer (relay : Relay) (client : Nat) (handles : List UInt32) :
    Relay × Except RelayError Framebuffer :=
  ({ relay with nextFramebuffer := relay.nextFramebuffer + 1 },
    Framebuffer.create relay.nextFramebuffer (relay.client client).registry handles)

def addFramebuffer (relay : Relay) (client : Nat) (handles : List UInt32) :
    Relay × Except RelayError UInt32 :=
  match relay.createFramebuffer client handles with
  | (relay, .ok framebuffer) =>
    (relay.onClient client fun held =>
      { held with framebuffers := held.framebuffers.insert framebuffer.id framebuffer },
      .ok framebuffer.id)
  | (relay, .error error) => (relay, .error error)

def removeFramebuffer (relay : Relay) (client : Nat) (id : UInt32) :
    Relay × Except RelayError Unit :=
  match (relay.client client).framebuffer id with
  | .ok _ =>
    (relay.onClient client fun held => { held with framebuffers := held.framebuffers.erase id },
      .ok ())
  | .error error => (relay, .error error)

def commit (relay : Relay) (framebuffer : Framebuffer) : Relay :=
  let (slots, _) := relay.slots.commit (.ofFramebuffer framebuffer)
  let (pacer, _) := relay.pacer.flush slots
  { relay with slots, pacer }

def pageFlip (relay : Relay) (client : Nat) (id : UInt32) : Relay × Except RelayError Unit :=
  match (relay.client client).framebuffer id with
  | .ok framebuffer => (relay.commit framebuffer, .ok ())
  | .error error => (relay, .error error)

def setCrtc (relay : Relay) : Option Framebuffer → Relay
  | some framebuffer => (relay.setPower .on).commit framebuffer
  | none => relay.setPower .off

def setCrtcById (relay : Relay) (client : Nat) : Option UInt32 → Relay × Except RelayError Unit
  | none => (relay.setCrtc none, .ok ())
  | some id =>
    match (relay.client client).framebuffer id with
    | .ok framebuffer => (relay.setCrtc (some framebuffer), .ok ())
    | .error error => (relay, .error error)

/-! ## Vertical blanks -/

def tick (relay : Relay) : Relay × Tick :=
  let (pacer, slots, tick) := relay.pacer.tick relay.slots
  let after := { relay with pacer, slots }
  (if tick.retired.isSome then after.tellConsumer EventChannel.notifyPresent else after, tick)

/-! ## The consumer -/

/-- The channel of a link; one that was never made counts as torn down. -/
def link (relay : Relay) (link : Nat) : EventChannel :=
  relay.links[link]?.getD (EventChannel.new relay.power).teardown

/-- Registers a consumer and tells the number of its link.  The registered link is never one that
was torn down (`Consumers.Sound.exclusive`), so there is no look at its channel. -/
def attach (relay : Relay) : Relay × Except RelayError Nat :=
  match relay.registered with
  | some _ => (relay, .error .busy)
  | none =>
    let number := relay.links.length
    ({ relay with links := relay.links ++ [.new relay.power], registered := some number },
      .ok number)

/-- Ends a link.  If it holds the registration, that ends too, with both slots
emptied and the pacer idle. -/
def teardown (relay : Relay) (link : Nat) : Relay :=
  let freed :=
    if relay.registered = some link then
      let (pacer, slots, _) := relay.pacer.halt relay.slots
      { relay with pacer, slots, registered := none }
    else relay
  { freed with links := freed.links.modify link EventChannel.teardown }

def poll (relay : Relay) (link : Nat) : Relay × Except RelayError (Option RelayEvent) :=
  let (channel, polled) := (relay.link link).poll
  ({ relay with links := relay.links.set link channel }, polled)

def wait (relay : Relay) (link : Nat) : Relay × EventChannel.Wait :=
  let (channel, waited) := (relay.link link).wait
  ({ relay with links := relay.links.set link channel }, waited)

def exportActive (relay : Relay) : Relay × Export :=
  let (slots, record) := relay.slots.takeActive
  ({ relay with slots }, .ofRecord? record)

def exportWarnings (relay : Relay) : List Warning :=
  relay.slots.active.toList.flatMap Record.mintWarnings

/-- Changes the mode; says whether it is another one.  Only then do the interval
and the observers learn of it. -/
def configure (relay : Relay) (mode : Mode) : Relay × Bool :=
  if relay.mode = mode then (relay, false)
  else
    ({ relay with
        mode
        pacer := relay.pacer.setRate mode.refresh
        observers := relay.observers.broadcast mode }, true)

def configureWarnings (relay : Relay) (mode : Mode) : List Warning :=
  if relay.mode = mode then [] else refreshWarnings mode.refresh

/-! ## References -/

/-- The buffers that the relay holds references to, once per reference. -/
def buffers (relay : Relay) : List Buffer :=
  relay.clients.flatMap Client.buffers ++ relay.slots.buffers

end Relay

end PresentRelay
