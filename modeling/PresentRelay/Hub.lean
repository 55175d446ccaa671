import PresentRelay.Session
import PresentRelay.Wire.Frame

/-!
# Connections to a relay

A hub is a relay with any number of connections, each with its session.  What a
peer sends lies on a stream until the session takes it; what the session answers
lies on another until the peer takes it.  After every change the sessions go on
as far as they can: `settle`.
-/

set_option autoImplicit false

namespace PresentRelay

structure Connection where
  /-- From the peer to the session. -/
  requests : Stream
  /-- From the session to the peer. -/
  replies : Stream
  /-- The start of a request that the session took and has not completed. -/
  opening : Option Frame.Opening
  session : Option Session
  /-- Whether the peer closed its end altogether, so that no reply can be sent. -/
  gone : Bool
  isOpen : Bool
  deriving Repr

/-- A relay, the connections to it by number, the count of descriptors that peers
sent, and the warnings raised so far. -/
structure Hub where
  relay : Relay
  connections : List Connection
  sent : Nat
  log : List Warning
  deriving Repr

namespace Hub

def new (mode : Mode) : Hub := ⟨.new mode, [], 0, refreshWarnings mode.refresh⟩

def put (hub : Hub) (number : Nat) (connection : Connection) : Hub :=
  { hub with connections := hub.connections.set number connection }

/-- Ends the session of a connection.  The peer sees the end after the replies
that are still on their way. -/
def endSession (hub : Hub) (number : Nat) (connection : Connection) (session : Session) : Hub :=
  let ended := { connection with session := none, replies := connection.replies.close .closed }
  { hub with relay := session.close hub.relay }.put number ended

def failSession (hub : Hub) (number : Nat) (connection : Connection) (session : Session)
    (error : RelayError) : Hub :=
  let hub := hub.endSession number connection session
  { hub with log := hub.log ++ [.sessionEnded error] }

/-- Sends a response.  One that cannot be sent ends the session. -/
def respond (hub : Hub) (number : Nat) (connection : Connection) (session : Session)
    (response : Response) (files : List File) : Hub :=
  match Frame.send response.encode files with
  | .error error => hub.failSession number connection session error
  | .ok chunk =>
    if connection.gone then hub.failSession number connection session (.io .brokenPipe)
    else hub.put number
      { connection with session := some session, replies := connection.replies.send chunk }

/-- Goes on after a request was handled.  A failure is reported to the peer,
unless the registration ended because the peer is no longer there. -/
def conclude (hub : Hub) (number : Nat) (connection : Connection) (session : Session) :
    Handled → Hub
  | .reply response files => hub.respond number connection session response files
  | .waits _ => hub.put number { connection with session := some session }
  | .failed error =>
    if error = .disconnected ∧ connection.requests.isFinished then
      hub.endSession number connection session
    else hub.respond number connection session (.ofError error) []

/-- One step of a waiting session: it answers, or ends once the peer hung up, or
goes on waiting. -/
def advanceWaiting (hub : Hub) (number : Nat) (connection : Connection) (session : Session)
    (awaited : Awaited) : Option Hub :=
  match session.answerAwaited hub.relay awaited with
  | (relay, some handled) =>
    some ({ hub with relay }.conclude number connection { session with awaited := none } handled)
  | (_, none) =>
    if connection.requests.isFinished then some (hub.endSession number connection session)
    else none

/-- Goes on after the session received a request, if it did.  A request that it never has done
with keeps it where it is for good. -/
def serve (hub : Hub) (number : Nat) (connection : Connection) (session : Session) :
    Frame.Reception Request → Option Hub
  | .waiting => none
  | .finished => some (hub.endSession number connection session)
  | .failed error => some (hub.failSession number connection session error)
  | .message request files =>
    if session.endless hub.relay request files then none
    else
      let raised := session.warnings hub.relay request
      let (session, relay, handled) := session.handle hub.relay request files
      some ({ hub with relay, log := hub.log ++ raised }.conclude number connection session handled)

/-- One step of a session that takes requests.  It takes the start of a request as
soon as there is any of it, and the rest once that is all there. -/
def advanceServing (hub : Hub) (number : Nat) (connection : Connection) (session : Session) :
    Option Hub :=
  match connection.opening with
  | some opening =>
    let (requests, reception) := Frame.complete Request.decode opening connection.requests
    hub.serve number { connection with requests, opening := none } session reception
  | none =>
    match Frame.takeOpening connection.requests with
    | (requests, some (.ok opening)) =>
      some (hub.put number { connection with requests, opening := some opening })
    | (requests, some (.error error)) =>
      hub.serve number { connection with requests } session (.failed error)
    | (_, none) =>
      hub.serve number connection session
        (if connection.requests.ending = .flowing then .waiting else .finished)

def advance (hub : Hub) (number : Nat) : Option Hub := do
  let connection ← hub.connections[number]?
  let session ← connection.session
  match session.awaited with
  | some awaited => hub.advanceWaiting number connection session awaited
  | none => hub.advanceServing number connection session

def settleWithin : (rounds : Nat) → Hub → Hub
  | 0, hub => hub
  | rounds + 1, hub =>
    match (List.range hub.connections.length).findSome? hub.advance with
    | none => hub
    | some next => settleWithin rounds next

/-- More steps than the sessions can take: each takes at least a byte of a request, or
completes a request that was started so, or ends a wait for one that was, or ends a
session. -/
def rounds (hub : Hub) : Nat :=
  hub.connections.foldr
    (fun connection others => 3 * connection.requests.bytes.length + 4 + others) 0

def settle (hub : Hub) : Hub := settleWithin hub.rounds hub

/-! ## Peers -/

def connect (hub : Hub) : Hub × Nat :=
  ({ hub with connections := hub.connections ++ [⟨.empty, .empty, none, some .new, false, true⟩] },
    hub.connections.length)

def onRequests (hub : Hub) (number : Nat) (change : Stream → Stream) : Hub :=
  { hub with connections := hub.connections.modify number fun connection =>
      if connection.isOpen then { connection with requests := change connection.requests }
      else connection }.settle

def sendBytes (hub : Hub) (number : Nat) (bytes : Bytes) : Hub :=
  hub.onRequests number fun requests => requests.send ⟨bytes, []⟩

def sendFrame (hub : Hub) (number : Nat) (payload : Bytes) (descriptors : Nat) : Hub :=
  let files := (List.range descriptors).map fun n => (⟨hub.sent + n, []⟩ : File)
  { hub with sent := hub.sent + descriptors }.onRequests number fun requests =>
    requests.send ⟨Frame.encode payload, files⟩

/-- Ends what a peer sends; it can still take replies. -/
def finish (hub : Hub) (number : Nat) : Hub :=
  hub.onRequests number fun requests => requests.close .closed

/-- Closes a connection altogether.  Replies that were not taken are lost, and
the session learns that they are. -/
def close (hub : Hub) (number : Nat) : Hub :=
  { hub with connections := hub.connections.modify number fun connection =>
      if connection.isOpen then
        { connection with
          requests := connection.requests.close
            (if connection.replies.chunks.isEmpty then .closed else .reset)
          gone := true
          isOpen := false }
      else connection }.settle

def closeAll (hub : Hub) : Hub := (List.range hub.connections.length).foldl close hub

inductive Taken where
  | reply (payload : Bytes) (files : List File)
  | ended
  | closed
  | nothing

def take (hub : Hub) (number : Nat) : Hub × Taken :=
  match hub.connections[number]? with
  | none => (hub, .closed)
  | some connection =>
    if connection.isOpen then
      match Frame.receive (fun payload => .ok payload) connection.replies with
      | (replies, .message payload files) =>
        (hub.put number { connection with replies }, .reply payload files)
      | (_, .waiting) => (hub, .nothing)
      | (replies, _) => (hub.put number { connection with replies, isOpen := false }, .ended)
    else (hub, .closed)

def tick (hub : Hub) : Hub × Tick :=
  let (relay, tick) := hub.relay.tick
  ({ hub with relay }.settle, tick)

def setPower (hub : Hub) (target : Power) : Hub :=
  { hub with relay := hub.relay.setPower target }.settle

def drain (hub : Hub) : Hub × List Warning := ({ hub with log := [] }, hub.log)

end Hub

end PresentRelay
