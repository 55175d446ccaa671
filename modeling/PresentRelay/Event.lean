import PresentRelay.Error
import PresentRelay.Power

/-!
# Events for the consumer

The channel to a consumer is one slot, not a queue: what is raised between two
waits is delivered once, with the latest power state.
-/

set_option autoImplicit false

namespace PresentRelay

structure EventFlags where
  /-- A record moved into the active slot. -/
  presentReady : Bool
  /-- A power state was entered. -/
  powerChanged : Bool
  deriving DecidableEq, Repr

namespace EventFlags

def none : EventFlags := ⟨false, false⟩

def present : EventFlags := ⟨true, false⟩

def power : EventFlags := ⟨false, true⟩

def union (first second : EventFlags) : EventFlags :=
  ⟨first.presentReady || second.presentReady, first.powerChanged || second.powerChanged⟩

def bits (flags : EventFlags) : UInt32 :=
  (if flags.presentReady then 1 else 0) + if flags.powerChanged then 2 else 0

/-- The flags that bits stand for; other bits stand for nothing. -/
def ofBits (bits : UInt32) : EventFlags := ⟨bits &&& 1 ≠ 0, bits &&& 2 ≠ 0⟩

theorem ofBits_bits (flags : EventFlags) : ofBits flags.bits = flags := by
  obtain ⟨present, power⟩ := flags
  cases present <;> cases power <;> decide

end EventFlags

/-- One delivery: everything raised since the last one, and the power state now. -/
structure RelayEvent where
  flags : EventFlags
  power : Power
  deriving DecidableEq, Repr

structure EventChannel where
  raised : EventFlags
  power : Power
  tornDown : Bool
  deriving DecidableEq, Repr

namespace EventChannel

def new (power : Power) : EventChannel := ⟨.none, power, false⟩

/-- Raises flags, with a power state if there is a new one.  Nothing reaches a
channel that was torn down. -/
def notify (channel : EventChannel) (flags : EventFlags) (power : Option Power) : EventChannel :=
  if channel.tornDown then channel
  else
    { channel with
      raised := channel.raised.union flags
      power := power.getD channel.power }

def notifyPresent (channel : EventChannel) : EventChannel := channel.notify .present none

def notifyPower (channel : EventChannel) (power : Power) : EventChannel :=
  channel.notify .power (some power)

def teardown (channel : EventChannel) : EventChannel :=
  { channel with raised := .none, tornDown := true }

def poll (channel : EventChannel) : EventChannel × Except RelayError (Option RelayEvent) :=
  if channel.tornDown then (channel, .error .disconnected)
  else if channel.raised = .none then (channel, .ok none)
  else ({ channel with raised := .none }, .ok (some ⟨channel.raised, channel.power⟩))

inductive Wait where
  | ready (outcome : Except RelayError RelayEvent)
  | blocked

def wait (channel : EventChannel) : EventChannel × Wait :=
  match channel.poll with
  | (channel, .error error) => (channel, .ready (.error error))
  | (channel, .ok (some event)) => (channel, .ready (.ok event))
  | (channel, .ok none) => (channel, .blocked)

/-- Lets a number of waiters wait, one after the other; tells what those get that
need not go on waiting. -/
def waitEach : Nat → EventChannel → EventChannel × List (Except RelayError RelayEvent)
  | 0, channel => (channel, [])
  | count + 1, channel =>
    let (channel, first) := channel.wait
    let (channel, others) := waitEach count channel
    match first with
    | .ready outcome => (channel, outcome :: others)
    | .blocked => (channel, others)

end EventChannel

end PresentRelay
