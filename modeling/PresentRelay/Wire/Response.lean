import PresentRelay.Event
import PresentRelay.Wire.Request

/-!
# Responses

What the relay answers to a request.  A response is written as an object that
starts with the tag `reply`; `Response.decode` reads it back.
-/

set_option autoImplicit false

namespace PresentRelay

inductive Response where
  /-- Done; for a mode also whether it changed. -/
  | ack (changed : Option Bool)
  | event (flags : UInt32) (power : Power)
  /-- Comes with one descriptor for every true position, in order. -/
  | exported (id : UInt32) (count : UInt64) (valid : List Bool)
  | handle (handle : UInt32)
  | framebuffer (id : UInt32)
  | vblank (sequence : UInt64)
  | error (kind message : String)
  deriving DecidableEq, Repr

namespace Response

inductive Kind where
  | ack
  | event
  | exported
  | handle
  | framebuffer
  | vblank
  | error
  deriving DecidableEq, Repr

def family : Json.Family Kind where
  title := "Response"
  tag := "reply"
  kinds :=
    [("ack", .ack), ("event", .event), ("exported", .exported), ("handle", .handle),
      ("framebuffer", .framebuffer), ("vblank", .vblank), ("error", .error)]

def powerOfName (name : String) : Except Json.Fault Power :=
  match Power.ofName? name with
  | some power => .ok power
  | none => .error (.unknownVariant name (Power.all.map Power.name))

/-- A power state as a value: its name, or an object whose only member has that
name and holds nothing. -/
def toPower : Json → Except Json.Fault Power
  | .string name => powerOfName name
  | .object [(name, value)] => do
    let power ← powerOfName name
    match value with
    | .null | .object [] => return power
    | other => other.unexpected "unit"
  | .object _ => .error (.invalidValue .map "map with a single key")
  | other => other.unexpected "string or map"

def ofBody (kind : Kind) (body : Json.Body) : Except Json.Fault Response :=
  match kind with
  | .ack => body.single "struct variant Response::Ack" ack (.defaulted "changed" Json.toBool)
  | .event =>
    body.pair "struct variant Response::Event" event (.required "flags" Json.toUInt32)
      (.required "power" toPower)
  | .exported =>
    body.triple "struct variant Response::Exported" exported (.required "id" Json.toUInt32)
      (.required "count" (Json.toUInt64 "usize")) (.required "valid" (Json.toList Json.toBool))
  | .handle =>
    body.single "struct variant Response::Handle" handle (.required "handle" Json.toUInt32)
  | .framebuffer =>
    body.single "struct variant Response::Framebuffer" framebuffer (.required "id" Json.toUInt32)
  | .vblank =>
    body.single "struct variant Response::Vblank" vblank
      (.required "sequence" (Json.toUInt64 "u64"))
  | .error =>
    body.pair "struct variant Response::Error" error (.required "kind" Json.toText)
      (.required "message" Json.toText)

def decode (bytes : Bytes) : Except Json.Fault Response := family.decode ofBody bytes

def toJson : Response → Json
  | .ack none => .object [("reply", .string "ack")]
  | .ack (some changed) => .object [("reply", .string "ack"), ("changed", .bool changed)]
  | .event flags power =>
    .object [("reply", .string "event"), ("flags", .integer flags.toNat),
      ("power", .string power.name)]
  | .exported id count valid =>
    .object [("reply", .string "exported"), ("id", .integer id.toNat),
      ("count", .integer count.toNat), ("valid", .array (valid.map Json.bool))]
  | .handle number => .object [("reply", .string "handle"), ("handle", .integer number.toNat)]
  | .framebuffer id => .object [("reply", .string "framebuffer"), ("id", .integer id.toNat)]
  | .vblank sequence =>
    .object [("reply", .string "vblank"), ("sequence", .integer sequence.toNat)]
  | .error kind message =>
    .object [("reply", .string "error"), ("kind", .string kind), ("message", .string message)]

def encode (response : Response) : Bytes := response.toJson.render

def showBool (value : Bool) : String := if value then "true" else "false"

def showPower : Power → String
  | .off => "Off"
  | .on => "On"
  | .noConsumer => "NoConsumer"

def showFields (variant : String) (fields : List (String × String)) : String :=
  variant ++ " \x7b " ++ ", ".intercalate (fields.map fun (name, shown) => name ++ ": " ++ shown) ++
    " \x7d"

def describe : Response → String
  | .ack changed =>
    showFields "Ack"
      [("changed", match changed with
        | none => "None"
        | some value => "Some(" ++ showBool value ++ ")")]
  | .event flags power => showFields "Event" [("flags", toString flags), ("power", showPower power)]
  | .exported id count valid =>
    showFields "Exported"
      [("id", toString id), ("count", toString count),
        ("valid", "[" ++ ", ".intercalate (valid.map showBool) ++ "]")]
  | .handle number => showFields "Handle" [("handle", toString number)]
  | .framebuffer id => showFields "Framebuffer" [("id", toString id)]
  | .vblank sequence => showFields "Vblank" [("sequence", toString sequence)]
  | .error kind message =>
    showFields "Error" [("kind", Text.quote kind), ("message", Text.quote message)]

def unexpected {α : Type} (response : Response) : Except RelayError α :=
  .error (.protocol (.unexpectedReply response.describe))

def ofError (failure : RelayError) : Response := .error failure.kind failure.message

def ofEvent (delivered : RelayEvent) : Response := .event delivered.flags.bits delivered.power

def toResult : Response → Except RelayError Response
  | .error kind message => .error (RelayError.ofWire kind message)
  | other => .ok other

def toEvent (response : Response) : Except RelayError RelayEvent :=
  match response.toResult with
  | .error failure => .error failure
  | .ok (.event flags power) => .ok ⟨.ofBits flags, power⟩
  | .ok other => other.unexpected

end Response

end PresentRelay
