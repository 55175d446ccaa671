import PresentRelay.Failure
import PresentRelay.Json.Record
import PresentRelay.Mode

/-!
# Configuration

A relay and a daemon are each configured by a file that holds one record.  Every
entry has a default, and a variable of the environment, where it is set, overrides
the file.  A file is absent, or holds bytes, which are text only if they are valid
UTF-8.
-/

set_option autoImplicit false

namespace PresentRelay

/-- What a path leads to: the bytes of a file, or nothing. -/
abbrev Contents := Option Bytes

def Contents.readText : Contents → Except IoFault String
  | none => .error .noSuchFile
  | some bytes =>
    match Bytes.toText? bytes with
    | some text => .ok text
    | none => .error .invalidText

/-- The path of a name within a directory; an absolute name is a path of its own. -/
def joinPath (directory name : String) : String :=
  if name.toList.head? = some '/' then name
  else if directory.isEmpty ∨ directory.toList.getLast? = some '/' then directory ++ name
  else directory ++ "/" ++ name

inductive Timer where
  /-- A thread of the relay's own fires at each deadline. -/
  | thread
  /-- The owner of the relay ticks. -/
  | manual
  deriving DecidableEq, Repr

def Timer.names : List (String × Timer) := [("thread", .thread), ("manual", .manual)]

def Timer.name : Timer → String
  | .thread => "thread"
  | .manual => "manual"

structure Environment where
  socket : Option String
  backlight : Option String
  runtimeDirectory : Option String
  deriving DecidableEq, Repr

/-- The layout of a mode; all of it must be there. -/
def Mode.layout : Json.Layout Mode where
  title := "struct DisplayMode"
  entries :=
    [.scalar "width" "u32" Json.toUInt32 fun mode width => { mode with width },
      .scalar "height" "u32" Json.toUInt32 fun mode height => { mode with height },
      .scalar "refresh" "u32" Json.toUInt32 fun mode refresh => { mode with refresh }]
  defaulted := false

def loadConfig {κ : Type} (kind path : String) (decode : Bytes → Except Json.Fault κ)
    (contents : Contents) : Except Failure κ :=
  match contents.readText with
  | .error fault => .error (fault.during ("reading " ++ kind ++ " config " ++ path))
  | .ok text =>
    match decode (Bytes.ofText text) with
    | .error fault =>
      .error ((Failure.bare fault.message).during ("parsing " ++ kind ++ " config " ++ path))
    | .ok config => .ok config

/-! ## The relay -/

structure RelayConfig where
  /-- Where the relay listens; none for the default place. -/
  socketPath : Option String
  mode : Mode
  timer : Timer
  deriving DecidableEq, Repr

namespace RelayConfig

def default : RelayConfig := ⟨none, .default, .thread⟩

def toPath : Json → Except Json.Fault String
  | .string path => .ok path
  | other => other.unexpected "path string"

def layout : Json.Layout RelayConfig where
  title := "struct RelayConfig"
  entries :=
    [.scalar "socket_path" "path string" (Json.toOption toPath) fun config socketPath =>
        { config with socketPath },
      Mode.layout.entry "mode" ⟨0, 0, 0⟩ fun config mode => { config with mode },
      .choice "timer" Timer.names fun config timer => { config with timer }]
  defaulted := true

def load (path : String) (contents : Contents) : Except Failure RelayConfig :=
  loadConfig "relay" path (layout.decode default) contents

def overridden (config : RelayConfig) (environment : Environment) : RelayConfig :=
  match environment.socket with
  | some path => { config with socketPath := some path }
  | none => config

/-- The default place of the socket: in the runtime directory of the user. -/
def defaultSocket (environment : Environment) : String :=
  joinPath (environment.runtimeDirectory.getD "/tmp") "membrane.sock"

def socket (config : RelayConfig) (environment : Environment) : String :=
  config.socketPath.getD (defaultSocket environment)

end RelayConfig

/-! ## The daemon -/

structure DaemonConfig where
  cacheSlots : UInt64
  backlight : Bool
  /-- Which backlight; none for the first there is. -/
  backlightName : Option String
  /-- The level restored where the level was zero before. -/
  defaultBacklightLevel : UInt32
  deriving DecidableEq, Repr

namespace DaemonConfig

def default : DaemonConfig := ⟨16, true, none, 5⟩

def layout : Json.Layout DaemonConfig where
  title := "struct DaemonConfig"
  entries :=
    [.scalar "cache_slots" "usize" (Json.toUInt64 "usize") fun config cacheSlots =>
        { config with cacheSlots },
      .scalar "backlight" "a boolean" Json.toBool fun config backlight =>
        { config with backlight },
      .scalar "backlight_name" "a string" (Json.toOption Json.toText) fun config backlightName =>
        { config with backlightName },
      .scalar "default_backlight_level" "u32" Json.toUInt32 fun config defaultBacklightLevel =>
        { config with defaultBacklightLevel }]
  defaulted := true

def load (path : String) (contents : Contents) : Except Failure DaemonConfig :=
  loadConfig "daemon" path (layout.decode default) contents

def negatives : List String := ["0", "false", "no"]

def overridden (config : DaemonConfig) (environment : Environment) : DaemonConfig :=
  match environment.backlight with
  | some value => { config with backlight := decide (value ∉ negatives) }
  | none => config

end DaemonConfig

end PresentRelay
