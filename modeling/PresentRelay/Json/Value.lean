import PresentRelay.Bytes
import PresentRelay.Json.Fault

/-!
# JSON values and their texts

A value keeps its members in the order of the document, and keeps a name that
occurs twice.  A number is an integer of at most 64 bits, or else a real.

Values are written compactly: no blanks, members in order.  In a text, quotes,
backslashes and controls are escaped, and nothing else is.
-/

set_option autoImplicit false

namespace PresentRelay

inductive Json where
  | null
  | bool (value : Bool)
  | integer (value : Int)
  | real (value : Float)
  | string (value : String)
  | array (items : List Json)
  | object (members : List (String × Json))
  deriving Inhabited

namespace Json

def found : Json → Found
  | .null => .null
  | .bool value => .bool value
  | .integer value => .integer value
  | .real value => .real (realText value)
  | .string value => .string value
  | .array _ => .sequence
  | .object _ => .map

def unexpected {α : Type} (value : Json) (expected : String) : Except Fault α :=
  .error (.invalidType value.found expected)

def integerWithin (low high : Int) (expected : String) (value : Json) : Except Fault Int :=
  match value with
  | .integer n =>
    if low ≤ n ∧ n ≤ high then .ok n else .error (.invalidValue (.integer n) expected)
  | other => other.unexpected expected

def toInt32 (value : Json) : Except Fault Int32 :=
  (value.integerWithin Int32.minValue.toInt Int32.maxValue.toInt "i32").map Int32.ofInt

def toUInt32 (value : Json) : Except Fault UInt32 :=
  (value.integerWithin 0 (UInt32.size - 1) "u32").map fun n => UInt32.ofNat n.toNat

def toUInt64 (expected : String) (value : Json) : Except Fault UInt64 :=
  (value.integerWithin 0 (UInt64.size - 1) expected).map fun n => UInt64.ofNat n.toNat

def toBool : Json → Except Fault Bool
  | .bool value => .ok value
  | other => other.unexpected "a boolean"

def toText : Json → Except Fault String
  | .string value => .ok value
  | other => other.unexpected "a string"

/-- A list whose items are all of one kind; the first bad item is the fault. -/
def toList {α : Type} (item : Json → Except Fault α) : Json → Except Fault (List α)
  | .array items => items.mapM item
  | other => other.unexpected "a sequence"

def toOption {α : Type} (some? : Json → Except Fault α) : Json → Except Fault (Option α)
  | .null => .ok none
  | other => (some? other).map some

/-! ## Writing values -/

def decimal (n : Nat) : Bytes :=
  if n < 10 then [0x30 + UInt8.ofNat n]
  else decimal (n / 10) ++ [0x30 + UInt8.ofNat (n % 10)]

def signedDecimal : Int → Bytes
  | .ofNat n => decimal n
  | .negSucc n => 0x2D :: decimal (n + 1)

def hexDigit (n : UInt8) : UInt8 := if n < 10 then 0x30 + n else 0x57 + n

def escapeByte (b : UInt8) : Bytes :=
  if b = 0x22 then [0x5C, 0x22]
  else if b = 0x5C then [0x5C, 0x5C]
  else if b = 0x08 then [0x5C, 0x62]
  else if b = 0x09 then [0x5C, 0x74]
  else if b = 0x0A then [0x5C, 0x6E]
  else if b = 0x0C then [0x5C, 0x66]
  else if b = 0x0D then [0x5C, 0x72]
  else if b < 0x20 then [0x5C, 0x75, 0x30, 0x30, hexDigit (b / 16), hexDigit (b % 16)]
  else [b]

def renderText (text : String) : Bytes :=
  0x22 :: (Bytes.ofText text).flatMap escapeByte ++ [0x22]

def commaSeparated (pieces : List Bytes) : Bytes := [0x2C].intercalate pieces

def render : Json → Bytes
  | .null => Bytes.ofText "null"
  | .bool value => Bytes.ofText (if value then "true" else "false")
  | .integer value => signedDecimal value
  | .real value => Bytes.ofText (realText value)
  | .string value => renderText value
  | .array items => 0x5B :: commaSeparated (items.map render) ++ [0x5D]
  | .object members =>
    0x7B ::
      commaSeparated (members.map fun member => renderText member.1 ++ 0x3A :: render member.2) ++
      [0x7D]
termination_by value => sizeOf value
decreasing_by
  all_goals simp_wf
  · rename_i inside; have := List.sizeOf_lt_of_mem inside; omega
  · rename_i inside
    have := List.sizeOf_lt_of_mem inside
    cases member
    simp at *
    omega

end Json

end PresentRelay
