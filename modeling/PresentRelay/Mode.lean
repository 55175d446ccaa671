import PresentRelay.Error

/-!
# Modes, the frame clock and observers

A display mode is a size and a refresh rate.  A rate of zero stands for the
default rate wherever an interval is wanted.

The clock holds the refresh interval, counts the emulated vertical blanks and
remembers the time of the last one.  Times are nanoseconds.

Every observer has a queue of the mode changes since it subscribed.  Observers
are numbered in the order in which they subscribed; one that left is forgotten
with its queue.
-/

set_option autoImplicit false

namespace PresentRelay

structure Mode where
  width : UInt32
  height : UInt32
  refresh : UInt32
  deriving DecidableEq, Repr

def defaultRefresh : UInt32 := 60

namespace Mode

def default : Mode := ⟨1920, 1080, defaultRefresh⟩

/-- The mode that a consumer asks for.  The size must be positive; a rate that
is not is replaced by the default rate. -/
def ofRequest (width height refresh : Int32) : Except RelayError Mode :=
  if width ≤ 0 ∨ height ≤ 0 then .error (.invalidArgument .positiveSize)
  else
    .ok ⟨width.toUInt32, height.toUInt32,
      if 0 < refresh then refresh.toUInt32 else defaultRefresh⟩

end Mode

def secondNs : Nat := 1000000000

/-- The nanoseconds from one vertical blank to the next, at least one. -/
def refreshInterval (hz : UInt32) : Nat :=
  max 1 (secondNs / (if hz = 0 then defaultRefresh else hz).toNat)

/-! ## The frame clock -/

structure Vblank where
  sequence : UInt64
  time : Nat
  deriving DecidableEq, Repr

structure FrameClock where
  interval : Nat
  sequence : UInt64
  last : Option Nat
  deriving DecidableEq, Repr

namespace FrameClock

def new (hz : UInt32) : FrameClock := ⟨refreshInterval hz, 0, none⟩

def setRate (clock : FrameClock) (hz : UInt32) : FrameClock :=
  { clock with interval := refreshInterval hz }

def vblank (clock : FrameClock) (time : Nat) : FrameClock × Vblank :=
  ({ clock with sequence := clock.sequence + 1, last := some time }, ⟨clock.sequence + 1, time⟩)

def intervalAfter (clock : FrameClock) (time : Nat) : Nat := time + clock.interval

end FrameClock

/-! ## Observers of mode changes -/

/-- The queues of the observers by number; none for an observer that left. -/
structure Observers where
  queues : List (Option (List Mode))
  deriving DecidableEq, Repr

namespace Observers

def empty : Observers := ⟨[]⟩

def subscribe (observers : Observers) : Observers × Nat :=
  (⟨observers.queues ++ [some []]⟩, observers.queues.length)

def unsubscribe (observers : Observers) (observer : Nat) : Observers :=
  ⟨observers.queues.set observer none⟩

def broadcast (observers : Observers) (mode : Mode) : Observers :=
  ⟨observers.queues.map fun queue => queue.map (· ++ [mode])⟩

def queue? (observers : Observers) (observer : Nat) : Option (List Mode) :=
  (observers.queues[observer]?).join

def take (observers : Observers) (observer : Nat) : Observers × Option (List Mode) :=
  match observers.queue? observer with
  | none => (observers, none)
  | some queue => (⟨observers.queues.set observer (some [])⟩, some queue)

end Observers

end PresentRelay
