import PresentRelay.Relay
import PresentRelay.Wire.Response

/-!
# Sessions

A session serves one connection.  It opens a client on its first producer request
and registers as the consumer on its first consumer request; both end with it.
A request is answered at once, or leaves the session waiting for an event or a
vertical blank.
-/

set_option autoImplicit false

namespace PresentRelay

inductive Awaited where
  | event
  | vblank (after : UInt64)
  deriving DecidableEq, Repr

/-- What a session holds of the relay: its client, its link, and what it waits for. -/
structure Session where
  client : Option Nat
  link : Option Nat
  awaited : Option Awaited
  deriving DecidableEq, Repr

inductive Handled where
  | reply (response : Response) (files : List File)
  | failed (error : RelayError)
  | waits (awaited : Awaited)

namespace Session

def new : Session := ⟨none, none, none⟩

/-- The session with its client, opened if it was not, and the client's number. -/
def withClient (session : Session) (relay : Relay) : Session × Relay × Nat :=
  match session.client with
  | some client => (session, relay, client)
  | none =>
    let (relay, client) := relay.openClient
    ({ session with client := some client }, relay, client)

/-- The session with its link, registered if it was not; another consumer may be
in the way. -/
def withLink (session : Session) (relay : Relay) :
    Session × Relay × Except RelayError Nat :=
  match session.link with
  | some link => (session, relay, .ok link)
  | none =>
    match relay.attach with
    | (relay, .ok link) => ({ session with link := some link }, relay, .ok link)
    | (relay, .error error) => (session, relay, .error error)

def acknowledged : Except RelayError Unit → Handled
  | .ok () => .reply (.ack none) []
  | .error error => .failed error

def answerAwaited (session : Session) (relay : Relay) : Awaited → Relay × Option Handled
  | .event =>
    match session.link with
    | none => (relay, some (.failed .disconnected))
    | some link =>
      match relay.poll link with
      | (relay, .error error) => (relay, some (.failed error))
      | (relay, .ok (some event)) => (relay, some (.reply (.ofEvent event) []))
      | (relay, .ok none) => (relay, none)
  | .vblank after =>
    let reached := relay.pacer.sequence
    (relay, if after < reached then some (.reply (.vblank reached) []) else none)

/-- Answers what the session now waits for, if that is there already. -/
def await (session : Session) (relay : Relay) (awaited : Awaited) :
    Session × Relay × Handled :=
  match session.answerAwaited relay awaited with
  | (relay, some handled) => (session, relay, handled)
  | (relay, none) => ({ session with awaited := some awaited }, relay, .waits awaited)

def exportReply (exported : Export) : Handled :=
  .reply (.exported exported.id (UInt64.ofNat exported.count) exported.valid) exported.files

/-- Whether handling a request has no end: it registers a buffer, and the search for a handle
never ends while all are in use.  A session that has no client yet uses none. -/
def endless (session : Session) (relay : Relay) (request : Request) (files : List File) : Bool :=
  match request, files with
  | .registerBuffer, [_] =>
    session.client.any fun client => (relay.client client).registry.isFull
  | _, _ => false

def handle (session : Session) (relay : Relay) (request : Request) (files : List File) :
    Session × Relay × Handled :=
  match request with
  | .configure width height refresh =>
    match Mode.ofRequest width height refresh with
    | .error error => (session, relay, .failed error)
    | .ok mode =>
      match session.withLink relay with
      | (session, relay, .error error) => (session, relay, .failed error)
      | (session, relay, .ok _) =>
        let (relay, changed) := relay.configure mode
        (session, relay, .reply (.ack (some changed)) [])
  | .wait =>
    match session.withLink relay with
    | (session, relay, .error error) => (session, relay, .failed error)
    | (session, relay, .ok _) => session.await relay .event
  | .exportFrame =>
    match session.withLink relay with
    | (session, relay, .error error) => (session, relay, .failed error)
    | (session, relay, .ok _) =>
      let (relay, exported) := relay.exportActive
      (session, relay, exportReply exported)
  | .registerBuffer =>
    match files with
    | [file] =>
      let (session, relay, client) := session.withClient relay
      let (relay, handle) := relay.register client (.ofDescriptor file.number file)
      (session, relay, .reply (.handle handle) [])
    | _ => (session, relay, .failed (.invalidArgument .oneDescriptor))
  | .releaseHandle handle =>
    let (session, relay, client) := session.withClient relay
    let (relay, released) := relay.release client handle
    (session, relay, acknowledged released)
  | .addFramebuffer handles =>
    let (session, relay, client) := session.withClient relay
    match relay.addFramebuffer client handles with
    | (relay, .ok id) => (session, relay, .reply (.framebuffer id) [])
    | (relay, .error error) => (session, relay, .failed error)
  | .removeFramebuffer id =>
    let (session, relay, client) := session.withClient relay
    let (relay, removed) := relay.removeFramebuffer client id
    (session, relay, acknowledged removed)
  | .pageFlip id =>
    let (session, relay, client) := session.withClient relay
    let (relay, flipped) := relay.pageFlip client id
    (session, relay, acknowledged flipped)
  | .setCrtc id =>
    let (session, relay, client) := session.withClient relay
    let (relay, shown) := relay.setCrtcById client id
    (session, relay, acknowledged shown)
  | .waitVblank after =>
    session.await relay (.vblank (after.getD relay.pacer.sequence))

def warnings (session : Session) (relay : Relay) : Request → List Warning
  | .configure width height refresh =>
    match Mode.ofRequest width height refresh, session.withLink relay with
    | .ok mode, (_, _, .ok _) => relay.configureWarnings mode
    | _, _ => []
  | .exportFrame =>
    match session.withLink relay with
    | (_, _, .ok _) => relay.exportWarnings
    | _ => []
  | _ => []

/-- Ends a session: its client closes first, then its registration ends. -/
def close (session : Session) (relay : Relay) : Relay :=
  let relay := session.client.elim relay relay.closeClient
  session.link.elim relay relay.teardown

end Session

end PresentRelay
