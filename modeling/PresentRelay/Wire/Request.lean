import PresentRelay.Json.Tagged
import PresentRelay.Json.Value

/-!
# Requests

What a peer can ask of the relay.  A request is written as an object that starts
with the tag `cmd`; `Request.decode` reads it back, in any order of members.
-/

set_option autoImplicit false

namespace PresentRelay

/-- One request.  The first three come from the consumer, the others from producers. -/
inductive Request where
  | configure (width height refresh : Int32)
  | wait
  | exportFrame
  /-- Comes with exactly one descriptor. -/
  | registerBuffer
  | releaseHandle (handle : UInt32)
  | addFramebuffer (handles : List UInt32)
  | removeFramebuffer (id : UInt32)
  | pageFlip (id : UInt32)
  | setCrtc (id : Option UInt32)
  /-- Waits for the vertical blank after a count, or after the present one. -/
  | waitVblank (after : Option UInt64)
  deriving DecidableEq, Repr

namespace Request

inductive Kind where
  | configure
  | wait
  | exportFrame
  | registerBuffer
  | releaseHandle
  | addFramebuffer
  | removeFramebuffer
  | pageFlip
  | setCrtc
  | waitVblank
  deriving DecidableEq, Repr

def family : Json.Family Kind where
  title := "Request"
  tag := "cmd"
  kinds :=
    [("configure", .configure), ("wait", .wait), ("export", .exportFrame),
      ("register_external_buffer", .registerBuffer), ("release_handle", .releaseHandle),
      ("add_framebuffer", .addFramebuffer), ("remove_framebuffer", .removeFramebuffer),
      ("page_flip", .pageFlip), ("set_crtc", .setCrtc), ("wait_vblank", .waitVblank)]

def number (name : String) : Json.Field UInt32 := .required name Json.toUInt32

def ofBody (kind : Kind) (body : Json.Body) : Except Json.Fault Request :=
  match kind with
  | .configure =>
    body.triple "struct variant Request::Configure" configure (.required "width" Json.toInt32)
      (.required "height" Json.toInt32) (.required "refresh" Json.toInt32)
  | .wait => body.empty wait
  | .exportFrame => body.empty exportFrame
  | .registerBuffer => body.empty registerBuffer
  | .releaseHandle =>
    body.single "struct variant Request::ReleaseHandle" releaseHandle (number "handle")
  | .addFramebuffer =>
    body.single "struct variant Request::AddFramebuffer" addFramebuffer
      (.required "handles" (Json.toList Json.toUInt32))
  | .removeFramebuffer =>
    body.single "struct variant Request::RemoveFramebuffer" removeFramebuffer (number "id")
  | .pageFlip => body.single "struct variant Request::PageFlip" pageFlip (number "id")
  | .setCrtc =>
    body.single "struct variant Request::SetCrtc" setCrtc (.optional "id" Json.toUInt32)
  | .waitVblank =>
    body.single "struct variant Request::WaitVblank" waitVblank
      (.optional "sequence" (Json.toUInt64 "u64"))

def decode (bytes : Bytes) : Except Json.Fault Request := family.decode ofBody bytes

def value32 (n : UInt32) : Json := .integer n.toNat

def toJson : Request → Json
  | .configure width height refresh =>
    .object [("cmd", .string "configure"), ("width", .integer width.toInt),
      ("height", .integer height.toInt), ("refresh", .integer refresh.toInt)]
  | .wait => .object [("cmd", .string "wait")]
  | .exportFrame => .object [("cmd", .string "export")]
  | .registerBuffer => .object [("cmd", .string "register_external_buffer")]
  | .releaseHandle handle =>
    .object [("cmd", .string "release_handle"), ("handle", value32 handle)]
  | .addFramebuffer handles =>
    .object [("cmd", .string "add_framebuffer"), ("handles", .array (handles.map value32))]
  | .removeFramebuffer id => .object [("cmd", .string "remove_framebuffer"), ("id", value32 id)]
  | .pageFlip id => .object [("cmd", .string "page_flip"), ("id", value32 id)]
  | .setCrtc id =>
    .object [("cmd", .string "set_crtc"), ("id", (id.map value32).getD .null)]
  | .waitVblank after =>
    .object [("cmd", .string "wait_vblank"),
      ("sequence", (after.map fun n => Json.integer n.toNat).getD .null)]

def encode (request : Request) : Bytes := request.toJson.render

end Request

end PresentRelay
