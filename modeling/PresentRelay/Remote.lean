import PresentRelay.Hub
import PresentRelay.Wire.Call

/-!
# Calls through a hub

A peer that makes calls sends the request of each, lets the sessions go on, and
takes the reply.
-/

set_option autoImplicit false

namespace PresentRelay.Hub

/-- Makes a call over a connection; no result while no reply has come. -/
def call (hub : Hub) (number : Nat) (call : Call) : Hub × Option (Except RelayError CallResult) :=
  match hub.connections[number]? with
  | none => (hub, some (.error .disconnected))
  | some connection =>
    match call.send connection.session.isNone with
    | .error error => (hub, some (.error error))
    | .ok chunk =>
      let hub := hub.onRequests number fun requests => requests.send chunk
      match hub.connections[number]? with
      | none => (hub, some (.error .disconnected))
      | some connection =>
        let (replies, outcome) := call.receive connection.replies
        (hub.put number { connection with replies }, outcome)

end PresentRelay.Hub

namespace PresentRelay

structure Server where
  path : String
  deriving DecidableEq, Repr

structure Sockets where
  paths : List String
  deriving DecidableEq, Repr

namespace Sockets

/-- Listens at a path; a file that an earlier server left there is replaced. -/
def bind (sockets : Sockets) (path : String) : Sockets × Server :=
  (⟨path :: sockets.paths.filter (· ≠ path)⟩, ⟨path⟩)

def drop (sockets : Sockets) (server : Server) : Sockets :=
  ⟨sockets.paths.filter (· ≠ server.path)⟩

def find (sockets : Sockets) (path : String) : Except RelayError Unit :=
  if path ∈ sockets.paths then .ok () else .error (.io .noSuchFile)

end Sockets

/-- Asks for a mode over a connection made for it, and closes that again; tells
the answer, and the relay while the connection was there. -/
def Hub.configureOnce (hub : Hub) (mode : Mode) :
    Hub × Option (Except RelayError CallResult) × Relay :=
  let (hub, number) := hub.connect
  let (hub, outcome) := hub.call number (.configure mode)
  (hub.close number, outcome, hub.relay)

end PresentRelay
