import PresentRelay.Bytes
import PresentRelay.Error
import PresentRelay.Table

/-!
# Buffers and their handles

A buffer is an object that the relay hands out handles to.  Every holder of a
reference keeps the object; a handle that is minted from it is a new descriptor of
the file behind it.

A registry hands out numbers for buffers.  Numbers go up from one and, once they
wrap, skip zero and those still in use; a number names its buffer until it is
released.
-/

set_option autoImplicit false

namespace PresentRelay

structure Buffer where
  /-- The number of the object that references count for. -/
  object : Nat
  file : File
  /-- Whether handles can be minted from it.  That is settled for good: a table of descriptors
  that runs full between one mint and another is left out. -/
  mintable : Bool
  deriving DecidableEq, Repr

namespace Buffer

/-- Mints a handle.  That never uses up the reference it is minted from. -/
def mint (buffer : Buffer) : Except IoFault File :=
  if buffer.mintable then .ok buffer.file else .error .tooManyOpenFiles

/-- A buffer that came as a descriptor: a new object over the descriptor's file.  As long as there
is room for descriptors, one more of that file can be had. -/
def ofDescriptor (object : Nat) (file : File) : Buffer := ⟨object, file, true⟩

end Buffer

/-- The buffers of one producer by handle, and where the search for the next
handle starts. -/
structure Registry where
  table : Table Buffer
  next : UInt32
  deriving Repr

namespace Registry

def empty : Registry := ⟨.empty, 1⟩

def isFree (registry : Registry) (handle : UInt32) : Bool :=
  handle != 0 && !registry.table.contains handle

/-- The first free number from `start` on, among `tries + 1` numbers. -/
def probe (registry : Registry) : (tries : Nat) → (start : UInt32) → UInt32
  | 0, start => start
  | tries + 1, start =>
    if registry.isFree start then start else registry.probe tries (start + 1)

/-- The next handle.  Among one more than the handles in use and zero, one is free. -/
def nextHandle (registry : Registry) : UInt32 :=
  registry.probe (registry.table.size + 1) registry.next

def register (registry : Registry) (buffer : Buffer) : Registry × UInt32 :=
  let handle := registry.nextHandle
  (⟨registry.table.insert handle buffer, handle + 1⟩, handle)

def resolve (registry : Registry) (handle : UInt32) : Except RelayError Buffer :=
  match registry.table.get? handle with
  | some buffer => .ok buffer
  | none => .error .notFound

def release (registry : Registry) (handle : UInt32) : Except RelayError Registry :=
  if registry.table.contains handle then
    .ok { registry with table := registry.table.erase handle }
  else .error .notFound

def size (registry : Registry) : Nat := registry.table.size

/-- Whether every number but zero is in use, so that the search for a free one has no end. -/
def isFull (registry : Registry) : Bool := UInt32.size ≤ registry.size + 1

theorem release_eq_ok {registry left : Registry} {handle : UInt32} :
    registry.release handle = .ok left ↔
      registry.table.contains handle ∧
        left = { registry with table := registry.table.erase handle } := by
  unfold release
  split
  · next held => simp only [held, true_and, Except.ok.injEq, eq_comm]
  · next free => simp [free]

end Registry

end PresentRelay
