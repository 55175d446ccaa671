import PresentRelay.Failure
import PresentRelay.Pacer

/-!
# Runs of a pacer

A pacer, the two slots it serves, the power state and one spare slot, driven
step by step.  Every commit makes its own buffers, so that their references can
be followed through the run.
-/

set_option autoImplicit false

namespace PresentRelay

structure Pacing where
  pacer : Pacer
  slots : Slots
  power : Power
  spare : Option Record
  /-- How many buffers were made so far; they are numbered from zero. -/
  made : Nat
  /-- Whether a flush came after the one that armed the pacer. -/
  flushedSince : Bool
  deriving Repr

namespace Pacing

inductive Step where
  | commit (id : UInt32) (planes : Nat)
  | flush
  | tick
  | cancel
  | halt
  | shutdown
  | rate (hz : UInt32)
  | lead
  | waitDeadline
  | waitVblank (after : UInt64)
  | retire
  | takeActive
  | clear
  | enter (power : Power)
  | putSpare (id : UInt32) (planes : Nat)
  | takeSpare
  | showSpare
  | dropSlots
  deriving DecidableEq, Repr

inductive Answer where
  | done
  | failed (error : RelayError)
  | superseded (id : Option UInt32)
  | flushed (armed : Bool)
  | ticked (tick : Tick)
  | records (records : List Record)
  | record (record : Option Record)
  | retired (retired : Option Retired)
  | milliseconds (lead : Option Nat)
  | deadline (wait : Pacer.DeadlineWait)
  | sequence (sequence : UInt64)
  | power (power : Power)
  | shown (text : String)
  deriving DecidableEq, Repr

def new (hz : UInt32) (power : Power) : Pacing :=
  ⟨.new hz, .empty, power, none, 0, false⟩

/-- A framebuffer over buffers made for it.  The buffers are made even if the
framebuffer is not. -/
def framebuffer (pacing : Pacing) (id : UInt32) (planes : Nat) :
    Pacing × Except RelayError Framebuffer :=
  let fresh := (List.range planes).map fun n =>
    (⟨pacing.made + n, ⟨pacing.made + n, []⟩, true⟩ : Buffer)
  let (registry, handles) := fresh.foldl
    (fun (registry, handles) buffer =>
      let (registry, handle) := registry.register buffer
      (registry, handles ++ [handle]))
    (Registry.empty, [])
  ({ pacing with made := pacing.made + planes }, Framebuffer.create id registry handles)

/-- The part of a refresh interval, in milliseconds and rounded down to a tenth
of a second, between the moment before the last flush and the deadline.  A flush
after the arming one comes later, if only by a nanosecond. -/
def lead (pacing : Pacing) : Option Nat :=
  pacing.pacer.armed.map fun interval =>
    (if pacing.flushedSince then interval - 1 else interval) / 100000000 * 100

def showSlot (slot : Option Record) : String :=
  "PresentSlot \x7b occupied: " ++ (if slot.isSome then "true" else "false") ++ " \x7d"

def step (pacing : Pacing) : Step → Pacing × Answer
  | .commit id planes =>
    match pacing.framebuffer id planes with
    | (pacing, .error error) => (pacing, .failed error)
    | (pacing, .ok framebuffer) =>
      let (slots, superseded) := pacing.slots.commit (.ofFramebuffer framebuffer)
      ({ pacing with slots }, .superseded (superseded.map Record.id))
  | .flush =>
    let (pacer, armed) := pacing.pacer.flush pacing.slots
    ({ pacing with pacer, flushedSince := !armed }, .flushed armed)
  | .tick =>
    let (pacer, slots, tick) := pacing.pacer.tick pacing.slots
    ({ pacing with pacer, slots }, .ticked tick)
  | .cancel => ({ pacing with pacer := pacing.pacer.cancel }, .done)
  | .halt =>
    let (pacer, slots, released) := pacing.pacer.halt pacing.slots
    ({ pacing with pacer, slots }, .records released)
  | .shutdown => ({ pacing with pacer := pacing.pacer.shutdown }, .done)
  | .rate hz => ({ pacing with pacer := pacing.pacer.setRate hz }, .done)
  | .lead => (pacing, .milliseconds pacing.lead)
  | .waitDeadline => (pacing, .deadline pacing.pacer.waitDeadline)
  | .waitVblank _ => (pacing, .sequence pacing.pacer.sequence)
  | .retire =>
    let (slots, retired) := pacing.slots.retire
    ({ pacing with slots }, .retired retired)
  | .takeActive =>
    let (slots, record) := pacing.slots.takeActive
    ({ pacing with slots }, .record record)
  | .clear =>
    let (slots, released) := pacing.slots.clear
    ({ pacing with slots }, .records released)
  | .enter target =>
    let (previous, slots, pacer) := pacing.power.enter target pacing.slots pacing.pacer
    ({ pacing with power := target, slots, pacer }, .power previous)
  | .putSpare id planes =>
    match pacing.framebuffer id planes with
    | (pacing, .error error) => (pacing, .failed error)
    | (pacing, .ok framebuffer) =>
      ({ pacing with spare := some (.ofFramebuffer framebuffer) }, .record pacing.spare)
  | .takeSpare => ({ pacing with spare := none }, .record pacing.spare)
  | .showSpare => (pacing, .shown (showSlot pacing.spare))
  | .dropSlots => ({ pacing with slots := .empty, spare := none }, .done)

def warnings : Step → List Warning
  | .rate hz => refreshWarnings hz
  | _ => []

/-- How many references a made buffer has: its maker's, and those of the records. -/
def references (pacing : Pacing) (object : Nat) : Nat :=
  1 + (pacing.slots.buffers ++ pacing.spare.toList.flatMap Record.buffers).countP
    fun buffer => buffer.object = object

end Pacing

end PresentRelay
