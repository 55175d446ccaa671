import PresentRelay.Daemon.Cache
import PresentRelay.Daemon.Compositor
import PresentRelay.Daemon.Policy
import PresentRelay.Framebuffer

/-!
# The daemon

The daemon puts exported frames on a display.  A frame whose id is cached needs no
import.  The buffer is bound to the layer if it is not the one bound last; the
layer is validated if nothing was validated yet, or if the last validation asked
for changes; and after a power notice both are done anew.  A frame that fails
anywhere on the way is dropped, and nothing is retried.

A buffer belongs to the cache and to the screen, and goes back to the allocator
when neither holds it any more.
-/

set_option autoImplicit false

namespace PresentRelay

/-- Why a file that there is a handle of cannot be read from its start to its end. -/
inductive ReadFault where
  | unseekable (fault : IoFault)
  | unreadable (fault : IoFault)
  deriving DecidableEq, Repr

def ReadFault.failure : ReadFault → Failure
  | .unseekable fault => fault.during "error seeking metadata handle"
  | .unreadable fault => fault.during "error reading metadata handle"

inductive FrameFault where
  | tooFewHandles (count : Nat)
  | handleMissing (position : Nat)
  | unreadableMetadata (fault : ReadFault)
  | emptyMetadata
  deriving DecidableEq, Repr

def FrameFault.failure : FrameFault → Failure
  | .tooFewHandles count => .bare (toString count ++ " handles, need planes plus metadata")
  | .handleMissing position => .bare ("handle " ++ toString position ++ " missing")
  | .unreadableMetadata fault => fault.failure
  | .emptyMetadata => .bare "empty metadata blob"

/-- The planes of an export and its metadata, which is what the last handle leads to;
some files cannot be read. -/
def Export.takeApart (exported : Export) (unreadable : File → Option ReadFault) :
    Except FrameFault (List File × Bytes) :=
  if exported.count < 2 then .error (.tooFewHandles exported.count)
  else
    match exported.handles.findIdx? Option.isNone with
    | some position => .error (.handleMissing position)
    | none =>
      match exported.files.getLast?.bind unreadable with
      | some fault => .error (.unreadableMetadata fault)
      | none =>
        let metadata := (exported.files.getLast?.map File.contents).getD []
        if metadata.isEmpty then .error .emptyMetadata
        else .ok (exported.files.dropLast, metadata)

inductive Outcome where
  | empty
  | presented (id : UInt32) (cacheHit : Bool)
  | dropped (id : UInt32)
  deriving DecidableEq, Repr

/-- Counts of what a daemon did.  None exceeds the number of frames, so that 64 bits hold each
count of a run of fewer than `2 ^ 64` frames. -/
structure Stats where
  presented : Nat
  dropped : Nat
  imports : Nat
  cacheHits : Nat
  binds : Nat
  validates : Nat
  deriving DecidableEq, Repr

def Stats.counts (stats : Stats) : List Nat :=
  [stats.presented, stats.dropped, stats.imports, stats.cacheHits, stats.binds, stats.validates]

structure Daemon (β : Type) where
  unreadable : File → Option ReadFault := fun _ => none
  allocator : Allocator
  compositor : Compositor
  policy : PowerPolicy β
  desc : BufferDesc
  cache : BufferCache Serial
  lastBound : Option Serial
  lastPresented : Option Serial
  /-- Nothing was validated yet, or the last validation asked for changes. -/
  needsValidate : Bool
  /-- A power notice came after the last validation. -/
  revalidate : Bool
  stats : Stats

namespace Daemon

variable {β : Type}

/-! ## Buffers -/

def holds (daemon : Daemon β) (serial : Serial) : Bool :=
  daemon.cache.buffers.contains serial || daemon.lastPresented == some serial

/-- Hands a buffer back to the allocator, unless it is still held. -/
def release (daemon : Daemon β) (serial : Serial) : Daemon β :=
  if daemon.holds serial then daemon
  else { daemon with allocator := daemon.allocator.release serial }

/-- Empties the cache.  What was bound last counts as unknown after that. -/
def emptyCache (daemon : Daemon β) : Daemon β :=
  let (cache, cached) := daemon.cache.clear
  cached.foldl release { daemon with cache, lastBound := none }

def shutdown (daemon : Daemon β) : Daemon β :=
  let emptied := daemon.emptyCache
  match emptied.lastPresented with
  | none => emptied
  | some serial => { emptied with lastPresented := none }.release serial

/-! ## Frames -/

def importFrame (daemon : Daemon β) (exported : Export) : Except Failure (Daemon β × Serial) :=
  match exported.takeApart daemon.unreadable with
  | .error fault => .error fault.failure
  | .ok (planes, metadata) =>
    match daemon.allocator.importBuffer planes metadata daemon.desc with
    | .error failure => .error failure
    | .ok (allocator, serial) =>
      let (cache, evicted) := daemon.cache.insert exported.id serial
      let cached := { daemon with
        allocator, cache, stats.imports := daemon.stats.imports + 1 }
      .ok (evicted.elim cached cached.release, serial)

def bindLayer (daemon : Daemon β) (serial : Serial) : Daemon β × Except Failure Unit :=
  if daemon.lastBound = some serial ∧ ¬daemon.revalidate then (daemon, .ok ())
  else
    match daemon.compositor.bind serial with
    | .error failure => (daemon, .error (failure.during "error binding layer buffer"))
    | .ok compositor =>
      ({ daemon with
        compositor, lastBound := some serial, stats.binds := daemon.stats.binds + 1 }, .ok ())

def validated (daemon : Daemon β) (compositor : Compositor) (changes : Bool) : Daemon β :=
  { daemon with
    compositor, needsValidate := changes, revalidate := false,
    stats.validates := daemon.stats.validates + 1 }

def validateLayer (daemon : Daemon β) : Daemon β × Except Failure Unit :=
  if daemon.needsValidate ∨ daemon.revalidate then
    match daemon.compositor.validate with
    | .error failure => (daemon, .error (failure.during "error validating"))
    | .ok (compositor, false) => (daemon.validated compositor false, .ok ())
    | .ok (compositor, true) =>
      match compositor.accept with
      | .error failure =>
        ({ daemon with compositor }, .error (failure.during "error accepting changes"))
      | .ok accepted => (daemon.validated accepted true, .ok ())
  else (daemon, .ok ())

def presentLayer (daemon : Daemon β) : Daemon β × Except Failure Unit :=
  match daemon.compositor.present with
  | .error failure => (daemon, .error (failure.during "error presenting"))
  | .ok compositor => ({ daemon with compositor }, .ok ())

def prepareLayer (daemon : Daemon β) (serial : Serial) : Daemon β × Except Failure Unit :=
  match daemon.bindLayer serial with
  | (daemon, .error failure) => (daemon, .error failure)
  | (daemon, .ok ()) => daemon.validateLayer

def showBuffer (daemon : Daemon β) (serial : Serial) : Daemon β × Except Failure Unit :=
  match daemon.prepareLayer serial with
  | (daemon, .error failure) => (daemon, .error failure)
  | (daemon, .ok ()) => daemon.presentLayer

def countDropped (daemon : Daemon β) : Daemon β :=
  { daemon with stats.dropped := daemon.stats.dropped + 1 }

def showFrame (daemon : Daemon β) (id : UInt32) (serial : Serial) (cacheHit : Bool) :
    Daemon β × Outcome × List Warning :=
  match daemon.showBuffer serial with
  | (daemon, .error failure) =>
    (daemon.countDropped.release serial, .dropped id, [.presentFailed failure id])
  | (daemon, .ok ()) =>
    let shown := { daemon with
      lastPresented := some serial, stats.presented := daemon.stats.presented + 1 }
    (daemon.lastPresented.elim shown shown.release, .presented id cacheHit, [])

/-- Finds the buffer of an export: the cached one, or else a new import.  Tells its
serial number and whether it was cached. -/
def fetchBuffer (daemon : Daemon β) (exported : Export) :
    Except Failure (Daemon β × Serial × Bool) :=
  match daemon.cache.lookup exported.id with
  | some serial =>
    .ok ({ daemon with stats.cacheHits := daemon.stats.cacheHits + 1 }, serial, true)
  | none =>
    match daemon.importFrame exported with
    | .error failure => .error failure
    | .ok (daemon, serial) => .ok (daemon, serial, false)

def presentExport (daemon : Daemon β) (exported : Export) : Daemon β × Outcome × List Warning :=
  if exported.isEmpty then (daemon, .empty, [])
  else
    match daemon.fetchBuffer exported with
    | .error failure =>
      (daemon.countDropped, .dropped exported.id, [.importFailed failure exported.id])
    | .ok (daemon, serial, cacheHit) => daemon.showFrame exported.id serial cacheHit

/-! ## Power -/

def setDisplayPower (daemon : Daemon β) (power : DisplayPower) : Daemon β × List Warning :=
  match daemon.compositor.setPower power with
  | .ok compositor => ({ daemon with compositor }, [])
  | .error failure => (daemon, [.powerModeFailed power.title failure])

def handlePower [Backlight β] (daemon : Daemon β) (power : Power) : Daemon β × List Warning :=
  let (policy, action, raised) := daemon.policy.transition power
  let noted := { daemon with policy, revalidate := true }
  let (daemon, more) :=
    match action with
    | .none => (noted, [])
    | .displayOff => noted.setDisplayPower .off
    | .displayOn => noted.setDisplayPower .on
    | .invalidateCache => (noted.emptyCache, [])
  (daemon, raised ++ more)

end Daemon

end PresentRelay
