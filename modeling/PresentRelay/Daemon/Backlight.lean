import PresentRelay.Config

/-!
# Backlights

A backlight has a level that can be read and set, and either can fail.  The system
shows each backlight as a directory with a file that holds the level in decimal
digits.  Reading the file reads the level, and writing it sets it.
-/

set_option autoImplicit false

namespace PresentRelay

class Backlight (β : Type) where
  level : β → Except Failure UInt32
  /-- Sets the level; a failure leaves it as it was. -/
  setLevel : β → UInt32 → Except Failure β

/-- A backlight held in memory, which counts the levels set and can be told to fail. -/
structure Panel where
  level : UInt32
  writes : Nat
  readFails : Bool
  writeFails : Bool
  deriving DecidableEq, Repr

namespace Panel

def new (level : UInt32) : Panel := ⟨level, 0, false, false⟩

def read (panel : Panel) : Except Failure UInt32 :=
  if panel.readFails then .error (.bare "get refused") else .ok panel.level

def write (panel : Panel) (level : UInt32) : Panel :=
  { panel with level, writes := panel.writes + 1 }

instance : Backlight Panel where
  level := read
  setLevel panel level :=
    if panel.writeFails then .error (.bare "set refused") else .ok (panel.write level)

end Panel

/-! ## Backlights behind a file -/

inductive LevelFault where
  | empty
  | invalidDigit
  | tooLarge
  deriving DecidableEq, Repr

def LevelFault.message : LevelFault → String
  | .empty => "cannot parse integer from empty string"
  | .invalidDigit => "invalid digit found in string"
  | .tooLarge => "number too large to fit in target type"

def appendDigit (level : Nat) (c : Char) : Except LevelFault Nat :=
  if c.isDigit then
    let next := level * 10 + (c.toNat - '0'.toNat)
    if next < UInt32.size then .ok next else .error .tooLarge
  else .error .invalidDigit

/-- The level that a text holds: digits, perhaps after a plus. -/
def readLevel (text : String) : Except LevelFault UInt32 :=
  let digits (chars : List Char) : Except LevelFault UInt32 :=
    (chars.foldlM appendDigit 0).map UInt32.ofNat
  match text.toList with
  | [] => .error .empty
  | ['+'] => .error .invalidDigit
  | '+' :: rest => digits rest
  | chars => digits chars

structure Devices where
  files : String → Contents
  /-- The directories of the backlights, in the order in which the system lists
  them; none if it has no place for them. -/
  listing : Option (List String)

structure BrightnessFile where
  path : String
  directory : Bool
  contents : Contents
  deriving DecidableEq, Repr

namespace BrightnessFile

def systemDirectory : String := "/sys/class/backlight"

def pathIn (directory : String) : String := joinPath directory "brightness"

def ofDirectory? (devices : Devices) (directory : String) : Except Failure BrightnessFile :=
  let path := pathIn directory
  match devices.files path with
  | some bytes => .ok ⟨path, true, some bytes⟩
  | none => .error (.bare (path ++ " does not exist"))

/-- The backlight of a name, or the first that the system lists. -/
def ofName? (devices : Devices) : Option String → Except Failure BrightnessFile
  | some name => ofDirectory? devices (joinPath systemDirectory name)
  | none =>
    match devices.listing with
    | none => .error (IoFault.noSuchFile.during ("listing " ++ systemDirectory))
    | some [] => .error (.bare ("no backlight device under " ++ systemDirectory))
    | some (directory :: _) => ofDirectory? devices directory

/-- The backlight that a configuration asks for; one that is not available is done
without. -/
def ofConfig (devices : Devices) (config : DaemonConfig) :
    Option BrightnessFile × List Warning :=
  if config.backlight then
    match ofName? devices config.backlightName with
    | .ok file => (some file, [])
    | .error failure => (none, [.backlightUnavailable failure])
  else (none, [])

def level (file : BrightnessFile) : Except Failure UInt32 :=
  match file.contents.readText with
  | .error fault => .error (fault.during ("reading " ++ file.path))
  | .ok text =>
    let trimmed := Text.trim text
    match readLevel trimmed with
    | .ok level => .ok level
    | .error fault =>
      .error ((Failure.bare fault.message).during ("parsing brightness " ++ Text.quote trimmed))

/-- Replaces what the file holds, or makes the file; its directory must be there. -/
def write (file : BrightnessFile) (bytes : Bytes) : Except IoFault BrightnessFile :=
  if file.directory then .ok { file with contents := some bytes } else .error .noSuchFile

instance : Backlight BrightnessFile where
  level := level
  setLevel file level :=
    match file.write (Bytes.ofText (toString level.toNat)) with
    | .ok written => .ok written
    | .error fault => .error (fault.during ("writing " ++ file.path))

def remove (file : BrightnessFile) : BrightnessFile := { file with contents := none }

def removeDirectory (file : BrightnessFile) : BrightnessFile :=
  { file with directory := false, contents := none }

end BrightnessFile

end PresentRelay
