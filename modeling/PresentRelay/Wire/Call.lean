import PresentRelay.Framebuffer
import PresentRelay.Mode
import PresentRelay.Wire.Frame
import PresentRelay.Wire.Response

/-!
# Calls on a remote relay

A call sends one request and takes one reply.  What the reply means depends on
the call alone; a reply of another kind is a departure from the protocol, and a
reported error is that error.
-/

set_option autoImplicit false

namespace PresentRelay

inductive Call where
  | configure (mode : Mode)
  | wait
  | exportFrame
  | registerBuffer (file : File)
  | releaseHandle (handle : UInt32)
  | addFramebuffer (handles : List UInt32)
  | removeFramebuffer (id : UInt32)
  | pageFlip (id : UInt32)
  | setCrtc (id : Option UInt32)
  | waitVblank (after : Option UInt64)
  deriving DecidableEq, Repr

inductive CallResult where
  | done
  | changed (changed : Bool)
  | event (event : RelayEvent)
  | exported (exported : Export)
  | handle (handle : UInt32)
  | framebuffer (id : UInt32)
  | vblank (sequence : UInt64)
  deriving DecidableEq, Repr

namespace CallResult

def changed? : CallResult → Option Bool
  | .changed other => some other
  | _ => none

def event? : CallResult → Option RelayEvent
  | .event due => some due
  | _ => none

def exported? : CallResult → Option Export
  | .exported frame => some frame
  | _ => none

end CallResult

/-- Gives descriptors, in order, to the positions that have one. -/
def assignFiles : List Bool → List File → List (Option File)
  | [], _ => []
  | false :: valid, files => none :: assignFiles valid files
  | true :: valid, files => files.head? :: assignFiles valid files.tail

namespace Call

/-- The request of a call.  The numbers of a mode travel as signed numbers. -/
def request : Call → Request
  | .configure mode =>
    .configure mode.width.toInt32 mode.height.toInt32 mode.refresh.toInt32
  | .wait => .wait
  | .exportFrame => .exportFrame
  | .registerBuffer _ => .registerBuffer
  | .releaseHandle handle => .releaseHandle handle
  | .addFramebuffer handles => .addFramebuffer handles
  | .removeFramebuffer id => .removeFramebuffer id
  | .pageFlip id => .pageFlip id
  | .setCrtc id => .setCrtc id
  | .waitVblank after => .waitVblank after

def files : Call → List File
  | .registerBuffer file => [file]
  | _ => []

/-- The export of a reply.  It must name as many positions as it counts, and as
many valid ones as descriptors came. -/
def readExport (id : UInt32) (count : UInt64) (valid : List Bool) (files : List File) :
    Except RelayError CallResult :=
  if valid.length ≠ count.toNat ∨ valid.countP (fun v => v) ≠ files.length then
    .error (.protocol (.exportMismatch count.toNat files.length))
  else .ok (.exported ⟨id, assignFiles valid files⟩)

/-- What a reply that reports no error means to a call. -/
def read (call : Call) (files : List File) (response : Response) : Except RelayError CallResult :=
  match call, response with
  | .configure _, .ack changed => .ok (.changed (changed.getD false))
  | .wait, .event flags power => .ok (.event ⟨.ofBits flags, power⟩)
  | .exportFrame, .exported id count valid => readExport id count valid files
  | .registerBuffer _, .handle handle => .ok (.handle handle)
  | .releaseHandle _, .ack _ => .ok .done
  | .addFramebuffer _, .framebuffer id => .ok (.framebuffer id)
  | .removeFramebuffer _, .ack _ => .ok .done
  | .pageFlip _, .ack _ => .ok .done
  | .setCrtc _, .ack _ => .ok .done
  | .waitVblank _, .vblank sequence => .ok (.vblank sequence)
  | _, other => other.unexpected

def interpret (call : Call) (files : List File) (response : Response) :
    Except RelayError CallResult :=
  match response.toResult with
  | .ok reply => call.read files reply
  | .error error => .error error

def send (call : Call) (gone : Bool) : Except RelayError Chunk :=
  match Frame.send call.request.encode call.files with
  | .error error => .error error
  | .ok chunk => if gone then .error (.io .brokenPipe) else .ok chunk

/-- What taking the reply comes to; nothing while it has not arrived. -/
def receive (call : Call) (replies : Stream) : Stream × Option (Except RelayError CallResult) :=
  match Frame.receive Response.decode replies with
  | (replies, .message response files) => (replies, some (call.interpret files response))
  | (replies, .finished) => (replies, some (.error .disconnected))
  | (replies, .failed error) => (replies, some (.error error))
  | (replies, .waiting) => (replies, none)

end Call

end PresentRelay
