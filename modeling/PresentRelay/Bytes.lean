/-!
# Bytes, text and files

A byte string is a list of bytes.  Text is written as UTF-8, and reading it
back is exact: `toText?_ofText`.  A descriptor stands for the file behind it.
-/

set_option autoImplicit false

namespace PresentRelay

abbrev Bytes := List UInt8

namespace Bytes

def ofText (text : String) : Bytes := text.toByteArray.data.toList

def toText? (bytes : Bytes) : Option String := String.fromUTF8? ⟨bytes.toArray⟩

theorem toText?_ofText (text : String) : toText? (ofText text) = some text := by
  have valid : ByteArray.IsValidUTF8 ⟨(ofText text).toArray⟩ := text.isValidUTF8
  exact dif_pos valid

/-- The bytes of a character that starts with a byte in `E1`-`EC`, `EE`, `EF` or the like:
how many continuation bytes follow, and the bounds of the first of them. -/
structure LeadByte where
  tails : Nat
  low : UInt8
  high : UInt8

def leadByte? (lead : UInt8) : Option LeadByte :=
  if 0xC2 ≤ lead && lead ≤ 0xDF then some ⟨1, 0x80, 0xBF⟩
  else if lead = 0xE0 then some ⟨2, 0xA0, 0xBF⟩
  else if lead = 0xED then some ⟨2, 0x80, 0x9F⟩
  else if 0xE1 ≤ lead && lead ≤ 0xEF then some ⟨2, 0x80, 0xBF⟩
  else if lead = 0xF0 then some ⟨3, 0x90, 0xBF⟩
  else if lead = 0xF4 then some ⟨3, 0x80, 0x8F⟩
  else if 0xF1 ≤ lead && lead ≤ 0xF3 then some ⟨3, 0x80, 0xBF⟩
  else none

/-- The continuation bytes at the start of `rest` that belong to a character, at most `tails`. -/
def continuation (expected : LeadByte) (rest : Bytes) : Bytes :=
  match rest with
  | [] => []
  | first :: others =>
    if expected.low ≤ first && first ≤ expected.high then
      first :: (others.take (expected.tails - 1)).takeWhile fun b => 0x80 ≤ b && b ≤ 0xBF
    else []

def replacement : Bytes := [0xEF, 0xBF, 0xBD]

/-- Well-formed UTF-8: every longest start of a character that does not become
one is replaced by the replacement character, as is every byte that starts none. -/
def repaired : Nat → Bytes → Bytes
  | 0, _ => []
  | _ + 1, [] => []
  | fuel + 1, lead :: rest =>
    if lead < 0x80 then lead :: repaired fuel rest
    else
      match leadByte? lead with
      | none => replacement ++ repaired fuel rest
      | some expected =>
        let tail := continuation expected rest
        if tail.length = expected.tails then
          lead :: tail ++ repaired fuel (rest.drop tail.length)
        else replacement ++ repaired fuel (rest.drop tail.length)

/-- The bytes as text, with the replacement character where they are not UTF-8. -/
def toText (bytes : Bytes) : String :=
  match toText? bytes with
  | some text => text
  | none => (toText? (repaired bytes.length bytes)).getD ""

end Bytes

/-- A file behind descriptors.  Two descriptors are of the same buffer when
their files have the same number. -/
structure File where
  number : Nat
  contents : Bytes
  deriving DecidableEq, Repr

end PresentRelay
