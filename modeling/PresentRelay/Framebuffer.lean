import PresentRelay.Failure
import PresentRelay.Registry

/-!
# Framebuffers, records and exports

A framebuffer groups up to four planes.  It holds a reference to the buffer of
each from its creation on, whatever becomes of the handles.  A record is one
commit of a framebuffer, with references of its own.

An export hands the buffers of one record to the consumer: a new handle per
position, in plane order.  Where a handle cannot be minted the position stays
empty; the others are not affected.
-/

set_option autoImplicit false

namespace PresentRelay

/-- The most planes of a framebuffer, metadata included. -/
def maxPlanes : Nat := 4

/-- A group of planes; each has the handle it was named by and the buffer the
handle stood for then. -/
structure Framebuffer where
  id : UInt32
  planes : List (UInt32 × Buffer)
  deriving DecidableEq, Repr

namespace Framebuffer

/-- Resolves handles to planes.  One unknown handle fails the whole creation. -/
def create (id : UInt32) (registry : Registry) (handles : List UInt32) :
    Except RelayError Framebuffer :=
  if handles.isEmpty then .error (.invalidArgument .somePlane)
  else if maxPlanes < handles.length then .error (.invalidArgument .planeLimit)
  else
    let plane (handle : UInt32) : Except RelayError (UInt32 × Buffer) :=
      (registry.resolve handle).map fun buffer => (handle, buffer)
    match handles.mapM plane with
    | .ok planes => .ok ⟨id, planes⟩
    | .error error => .error error

def handles (framebuffer : Framebuffer) : List UInt32 := framebuffer.planes.map Prod.fst

def buffers (framebuffer : Framebuffer) : List Buffer := framebuffer.planes.map Prod.snd

end Framebuffer

structure Record where
  id : UInt32
  buffers : List Buffer
  deriving DecidableEq, Repr

namespace Record

def ofFramebuffer (framebuffer : Framebuffer) : Record := ⟨framebuffer.id, framebuffer.buffers⟩

def count (record : Record) : Nat := record.buffers.length

end Record

/-- The handles of one record; none at a position that could not be minted. -/
structure Export where
  id : UInt32
  handles : List (Option File)
  deriving DecidableEq, Repr

namespace Export

def empty : Export := ⟨0, []⟩

def ofRecord (record : Record) : Export :=
  ⟨record.id, record.buffers.map fun buffer => buffer.mint.toOption⟩

def ofRecord? : Option Record → Export
  | none => empty
  | some record => ofRecord record

def count (exported : Export) : Nat := exported.handles.length

def isEmpty (exported : Export) : Bool := exported.handles.isEmpty

def isComplete (exported : Export) : Bool := exported.handles.all Option.isSome

def valid (exported : Export) : List Bool := exported.handles.map Option.isSome

def files (exported : Export) : List File := exported.handles.filterMap fun handle => handle

theorem count_ofRecord (record : Record) : (ofRecord record).count = record.count :=
  List.length_map ..

end Export

def Record.mintWarnings (record : Record) : List Warning :=
  record.buffers.zipIdx.filterMap fun (buffer, position) =>
    match buffer.mint with
    | .ok _ => none
    | .error fault => some (.mintFailed fault record.id position)

end PresentRelay
