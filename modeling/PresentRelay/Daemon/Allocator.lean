import PresentRelay.Bytes
import PresentRelay.Daemon.Display
import PresentRelay.Failure

/-!
# Allocators

An allocator makes buffers that a display can scan out: empty ones, and imports of
buffers that were made elsewhere.  Each has a serial number of its own, and goes
back to the allocator when it is released.  The allocator keeps a record of all
this, and can be told to refuse.
-/

set_option autoImplicit false

namespace PresentRelay

abbrev Serial := Nat

structure Import where
  serial : Serial
  planes : List File
  metadata : Bytes
  desc : BufferDesc
  deriving DecidableEq, Repr

/-- What an allocator gave out and took back. -/
structure Allocator where
  next : Serial
  /-- In pixels; what the allocator tells of every buffer. -/
  stride : UInt32
  /-- How many buffers were allocated empty. -/
  allocations : Nat
  imports : List Import
  releases : List Serial
  refusesAllocations : Bool
  refusesImports : Bool
  deriving DecidableEq, Repr

namespace Allocator

def new (stride : UInt32) : Allocator := ⟨1, stride, 0, [], [], false, false⟩

def allocate (allocator : Allocator) (_ : BufferDesc) :
    Except Failure (Allocator × Serial × UInt32) :=
  if allocator.refusesAllocations then .error (.bare "allocate refused")
  else
    .ok ({ allocator with
        next := allocator.next + 1
        allocations := allocator.allocations + 1 }, allocator.next, allocator.stride)

def importBuffer (allocator : Allocator) (planes : List File) (metadata : Bytes)
    (desc : BufferDesc) : Except Failure (Allocator × Serial) :=
  if allocator.refusesImports then .error (.bare "import refused")
  else
    .ok ({ allocator with
        next := allocator.next + 1
        imports := allocator.imports ++ [⟨allocator.next, planes, metadata, desc⟩] },
      allocator.next)

def release (allocator : Allocator) (serial : Serial) : Allocator :=
  { allocator with releases := allocator.releases ++ [serial] }

def live (allocator : Allocator) : Nat :=
  allocator.allocations + allocator.imports.length - allocator.releases.length

end Allocator

end PresentRelay
