import PresentRelay.Remote
import PresentRelay.Scene

/-!
# What a daemon hears of its relay

A daemon asks its relay three things: to take on a mode, to wait for an event, and
to export the active frame.  It does so over a link of its own, or over a connection
to a session of the relay.
-/

set_option autoImplicit false

namespace PresentRelay

inductive Question where
  | configure
  | wait
  | exportFrame
  deriving DecidableEq, Repr

inductive Way where
  /-- Over a link, which can be told to refuse. -/
  | link (number : Nat) (refused : List (Question × RelayError))
  | wire (number : Nat) (connections : List Connection)
  deriving Repr

/-- A relay with its producers, and the way of a daemon to it. -/
structure Feed where
  scene : Scene
  way : Way
  deriving Repr

/-- What a question came to: the feed after it, the warnings raised, and the answer. -/
structure Told (α : Type) where
  feed : Feed
  warnings : List Warning
  answer : Except RelayError α

namespace Feed

def attach (scene : Scene) : Except RelayError Feed :=
  match scene.relay.attach with
  | (relay, .ok number) => .ok ⟨{ scene with relay }, .link number []⟩
  | (_, .error error) => .error error

def hubOf (scene : Scene) (connections : List Connection) : Hub := ⟨scene.relay, connections, 0, []⟩

def ofHub (scene : Scene) (number : Nat) (hub : Hub) : Feed :=
  ⟨{ scene with relay := hub.relay }, .wire number hub.connections⟩

def connect (scene : Scene) : Feed :=
  let (hub, number) := (hubOf scene []).connect
  ofHub scene number hub

/-- Changes the scene; sessions go on where they can. -/
def onScene (feed : Feed) (change : Scene → Scene) : Feed :=
  let scene := change feed.scene
  match feed.way with
  | .link _ _ => { feed with scene }
  | .wire number connections => ofHub scene number (hubOf scene connections).settle

def setRefused (feed : Feed) (question : Question) (error : RelayError) (refused : Bool) : Feed :=
  match feed.way with
  | .wire _ _ => feed
  | .link number known =>
    let others := known.filter (· ≠ (question, error))
    { feed with way := .link number (if refused then (question, error) :: others else others) }

def askLink {α : Type} (feed : Feed) (refused : List (Question × RelayError)) (question : Question)
    (told : Told α) : Told α :=
  match refused.lookup question with
  | some error => ⟨feed, [], .error error⟩
  | none => told

/-- The answer to a call, of one kind; that none has come is an error too. -/
def answerOf {α : Type} (kind : CallResult → Option α) :
    Option (Except RelayError CallResult) → Except RelayError α
  | some (.error error) => .error error
  | some (.ok result) => (kind result).elim (.error (.protocol .wouldBlock)) .ok
  | none => .error (.protocol .wouldBlock)

def askWire {α : Type} (feed : Feed) (number : Nat) (connections : List Connection) (call : Call)
    (kind : CallResult → Option α) : Told α :=
  let (hub, outcome) := (hubOf feed.scene connections).call number call
  ⟨ofHub feed.scene number hub, hub.log, answerOf kind outcome⟩

def configure (feed : Feed) (mode : Mode) : Told Bool :=
  match feed.way with
  | .link _ refused =>
    let (relay, changed) := feed.scene.relay.configure mode
    feed.askLink refused .configure
      ⟨{ feed with scene.relay := relay }, feed.scene.relay.configureWarnings mode, .ok changed⟩
  | .wire number connections =>
    feed.askWire number connections (.configure mode) CallResult.changed?

/-- Takes what the daemon is due.  That nothing is there yet is an error here,
where nobody else can make progress. -/
def wait (feed : Feed) : Told RelayEvent :=
  match feed.way with
  | .link number refused =>
    let (relay, waited) := feed.scene.relay.wait number
    feed.askLink refused .wait
      ⟨{ feed with scene.relay := relay }, [],
        match waited with
        | .ready outcome => outcome
        | .blocked => .error (.protocol .wouldBlock)⟩
  | .wire number connections => feed.askWire number connections .wait CallResult.event?

def exportFrame (feed : Feed) : Told Export :=
  match feed.way with
  | .link _ refused =>
    let (relay, exported) := feed.scene.relay.exportActive
    feed.askLink refused .exportFrame
      ⟨{ feed with scene.relay := relay }, feed.scene.relay.exportWarnings, .ok exported⟩
  | .wire number connections => feed.askWire number connections .exportFrame CallResult.exported?

def teardown (feed : Feed) : Feed :=
  match feed.way with
  | .link number _ => { feed with scene.relay := feed.scene.relay.teardown number }
  | .wire _ _ => feed

/-- The scene after the daemon let go of its way to the relay. -/
def close (feed : Feed) : Scene :=
  match feed.way with
  | .link number _ => { feed.scene with relay := feed.scene.relay.teardown number }
  | .wire number connections =>
    { feed.scene with relay := ((hubOf feed.scene connections).close number).relay }

end Feed

end PresentRelay
