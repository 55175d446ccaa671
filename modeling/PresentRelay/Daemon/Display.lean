import PresentRelay.Mode

/-!
# Displays and import descriptors

What a compositor says of its display, and how a relayed buffer is described to
the allocator that imports it.
-/

set_option autoImplicit false

namespace PresentRelay

structure Display where
  width : UInt32
  height : UInt32
  /-- Nanoseconds from one vertical blank to the next. -/
  vsyncNs : Int64
  deriving DecidableEq, Repr

namespace Display

/-- The refresh rate in hertz, rounded to nearest, a half up.  A period that is
not positive, or too long for one hertz, gives the default rate. -/
def refreshHz (display : Display) : UInt32 :=
  if display.vsyncNs ≤ 0 then defaultRefresh
  else
    let period := display.vsyncNs.toInt.toNat
    let hz := (2 * secondNs + period) / (2 * period)
    if hz = 0 then defaultRefresh else UInt32.ofNat hz

def mode (display : Display) : Mode := ⟨display.width, display.height, display.refreshHz⟩

def ofMode (mode : Mode) : Display :=
  ⟨mode.width, mode.height, Int64.ofNat (secondNs / (max mode.refresh.toNat 1))⟩

end Display

structure BufferDesc where
  width : UInt32
  height : UInt32
  /-- In pixels; zero until an allocation told it. -/
  stride : UInt32
  format : UInt32
  usage : UInt64
  deriving DecidableEq, Repr

namespace BufferDesc

/-- The number of the pixel format with eight bits each of red, green, blue and alpha. -/
def rgba : UInt32 := 1

/-- Rendering, texturing and composition. -/
def scanoutUsage : UInt64 := 0x200 ||| 0x100 ||| 0x800

def scanout (width height : UInt32) : BufferDesc := ⟨width, height, 0, rgba, scanoutUsage⟩

end BufferDesc

end PresentRelay
