import PresentRelay.Daemon
import PresentRelay.Daemon.Backlight
import PresentRelay.Daemon.Feed

/-!
# A daemon at work

A station is a daemon together with its feed.  It starts by telling the relay the
mode of the display; from then on it takes one notice after the other: power first,
then the frame.
-/

set_option autoImplicit false

namespace PresentRelay

structure Station (β : Type) where
  feed : Feed
  daemon : Daemon β

inductive Start (β : Type) where
  | running (station : Station β)
  /-- The daemon let go of its relay again. -/
  | failed (failure : Failure) (scene : Scene) (allocator : Allocator) (compositor : Compositor)

def Daemon.new {β : Type} (allocator : Allocator) (compositor : Compositor) (backlight : Option β)
    (desc : BufferDesc) (config : DaemonConfig) : Daemon β where
  allocator := allocator
  compositor := compositor
  policy := .new backlight config.defaultBacklightLevel
  desc := desc
  cache := .new config.cacheSlots.toNat
  lastBound := none
  lastPresented := none
  needsValidate := true
  revalidate := false
  stats := ⟨0, 0, 0, 0, 0, 0⟩

namespace Station

variable {β : Type}

def startDisplay (feed : Feed) (allocator : Allocator) (compositor : Compositor)
    (backlight : Option β) (config : DaemonConfig) (display : Display) (desc : BufferDesc) :
    Start β × List Warning :=
  match compositor.setPower .on with
  | .error failure =>
    (.failed (failure.during "error powering display on") feed.close allocator compositor, [])
  | .ok compositor =>
    let told := feed.configure display.mode
    match told.answer with
    | .error error =>
      (.failed ((Failure.ofRelay error).during "error sending display mode to relay")
        told.feed.close allocator compositor, told.warnings)
    | .ok _ =>
      (.running ⟨told.feed, .new allocator compositor backlight desc config⟩, told.warnings)

/-- Starts a daemon: asks for the display, probes the stride with a buffer that it
hands back, and goes on with the display and the relay. -/
def start (feed : Feed) (allocator : Allocator) (compositor : Compositor) (backlight : Option β)
    (config : DaemonConfig) : Start β × List Warning :=
  match compositor.activeDisplay with
  | .error failure =>
    (.failed (failure.during "error querying active display config") feed.close allocator
      compositor, [])
  | .ok display =>
    let desc := BufferDesc.scanout display.width display.height
    match allocator.allocate desc with
    | .error failure =>
      (.failed (failure.during "error probing allocator stride") feed.close allocator compositor,
        [])
    | .ok (allocator, probe, stride) =>
      let allocator := allocator.release probe
      if stride = 0 then
        (.failed (.bare "allocator reported a zero stride") feed.close allocator compositor, [])
      else
        startDisplay feed allocator compositor backlight config display { desc with stride }

def connect (sockets : Sockets) (path : String) (scene : Scene) (allocator : Allocator)
    (compositor : Compositor) (devices : Devices) (config : DaemonConfig) :
    Start BrightnessFile × List Warning :=
  match sockets.find path with
  | .error error =>
    (.failed ((Failure.ofRelay error).during ("error connecting to relay at " ++ path)) scene
      allocator compositor, [])
  | .ok () =>
    let (backlight, unavailable) := BrightnessFile.ofConfig devices config
    let (started, raised) := start (.connect scene) allocator compositor backlight config
    (started, unavailable ++ raised)

structure Done (β α : Type) where
  station : Station β
  warnings : List Warning
  result : Except RelayError α

def presentActive (station : Station β) : Done β Outcome :=
  let told := station.feed.exportFrame
  match told.answer with
  | .error error => ⟨{ station with feed := told.feed }, told.warnings, .error error⟩
  | .ok exported =>
    let (daemon, outcome, raised) := station.daemon.presentExport exported
    ⟨⟨told.feed, daemon⟩, told.warnings ++ raised, .ok outcome⟩

def handleEvent [Backlight β] (station : Station β) (event : RelayEvent) : Done β Unit :=
  let (daemon, raised) :=
    if event.flags.powerChanged then station.daemon.handlePower event.power
    else (station.daemon, [])
  let powered := { station with daemon }
  if event.flags.presentReady then
    let done := powered.presentActive
    ⟨done.station, raised ++ done.warnings, done.result.map fun _ => ()⟩
  else ⟨powered, raised, .ok ()⟩

def dispatch [Backlight β] (station : Station β) : Done β Unit :=
  let told := station.feed.wait
  let heard := { station with feed := told.feed }
  match told.answer with
  | .error error => ⟨heard, told.warnings, .error error⟩
  | .ok event =>
    let done := heard.handleEvent event
    { done with warnings := told.warnings ++ done.warnings }

/-- Handles notices until the relay goes away, which is no failure, or something
else does not work out; at most `bound` of them.  No result while it goes on. -/
def run [Backlight β] : (bound : Nat) → Station β →
    Station β × List Warning × Option (Except Failure Unit)
  | 0, station => (station, [], none)
  | bound + 1, station =>
    let done := station.dispatch
    match done.result with
    | .error .disconnected => (done.station, done.warnings, some (.ok ()))
    | .error error =>
      (done.station, done.warnings,
        some (.error ((Failure.ofRelay error).during "error processing relay events")))
    | .ok () =>
      let (station, raised, result) := run bound done.station
      (station, done.warnings ++ raised, result)

/-- Ends the daemon: it hands back every buffer and lets go of its relay. -/
def stop (station : Station β) : Daemon β × Scene :=
  (station.daemon.shutdown, station.feed.close)

end Station

end PresentRelay
