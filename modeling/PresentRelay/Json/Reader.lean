import PresentRelay.Bytes
import PresentRelay.Json.Value

/-!
# Reading JSON

A document is read from left to right, and the first departure from the grammar
is the fault.  A reader takes the bytes ahead and answers with what it read and
the bytes that follow.

Containers nest at most 127 deep; that depth is also what `readValue` recurses
on.  The loops over items and members are bounded by the number of bytes ahead,
since each round reads at least one.
-/

set_option autoImplicit false

namespace PresentRelay.Json

abbrev Ahead (α : Type) := α × Bytes

def fail {α : Type} (fault : SyntaxFault) : Except Fault α := .error (.malformed fault)

def isBlankByte (b : UInt8) : Bool := b = 0x20 || b = 0x0A || b = 0x09 || b = 0x0D

def skipBlanks (bytes : Bytes) : Bytes := bytes.dropWhile isBlankByte

def isDigitByte (b : UInt8) : Bool := 0x30 ≤ b && b ≤ 0x39

def digitValue (b : UInt8) : Nat := (b - 0x30).toNat

/-! ## Numbers -/

/-- A significand of at most 64 bits, with a count of digits. -/
structure Digits where
  significand : Nat
  count : Nat

/-- Takes digits into a significand as long as it stays below `2 ^ 64`; counts
the digits taken. -/
def absorb : Digits → Bytes → Digits
  | digits, [] => digits
  | digits, b :: rest =>
    let next := digits.significand * 10 + digitValue b
    if next < UInt64.size then absorb ⟨next, digits.count + 1⟩ rest else digits

/-- The value of exponent digits, held at a bound that no finite number reaches. -/
def exponentValue (digits : Bytes) : Nat :=
  digits.foldl (fun value b => min (value * 10 + digitValue b) 1000000000) 0

def powerOfTen (exponent : Nat) : Float := Float.ofScientific 1 false exponent

/-- `significand · 10 ^ exponent`, by one rounded multiplication or division;
numbers too small for that are brought nearer first. -/
def scaleReal (significand : Nat) (exponent : Int) : Except Fault Float :=
  let value := (UInt64.ofNat significand).toFloat
  if 0 ≤ exponent then
    if exponent ≤ 308 then
      let scaled := value * powerOfTen exponent.toNat
      if scaled.isInf then fail .numberOutOfRange else .ok scaled
    else if significand = 0 then .ok value
    else fail .numberOutOfRange
  else if -308 ≤ exponent then .ok (value / powerOfTen (-exponent).toNat)
  else
    let nearer := value / powerOfTen 308
    if -616 ≤ exponent then .ok (nearer / powerOfTen (-exponent - 308).toNat)
    else .ok (nearer / powerOfTen 308 / powerOfTen 308)

def signedReal (negative : Bool) (significand : Nat) (exponent : Int) : Except Fault Json := do
  let magnitude ← scaleReal significand exponent
  return .real (if negative then -magnitude else magnitude)

def readExponent (negative : Bool) (significand : Nat) (exponent : Int) (bytes : Bytes) :
    Except Fault (Ahead Json) :=
  let (down, ahead) :=
    match bytes with
    | b :: rest =>
      if b = 0x2B then (false, rest) else if b = 0x2D then (true, rest) else (false, bytes)
    | [] => (false, [])
  match ahead with
  | [] => fail .endInValue
  | b :: _ =>
    if isDigitByte b then do
      let power := (exponentValue (ahead.takeWhile isDigitByte) : Int)
      let shifted := if down then exponent - power else exponent + power
      let number ← signedReal negative significand shifted
      return (number, ahead.dropWhile isDigitByte)
    else fail .invalidNumber

def isExponentByte (b : UInt8) : Bool := b = 0x65 || b = 0x45

def afterFraction (negative : Bool) (significand : Nat) (exponent : Int) (bytes : Bytes) :
    Except Fault (Ahead Json) :=
  match bytes with
  | b :: rest =>
    if isExponentByte b then readExponent negative significand exponent rest
    else return (← signedReal negative significand exponent, bytes)
  | [] => return (← signedReal negative significand exponent, bytes)

def readFraction (negative : Bool) (significand : Nat) (exponent : Int) (bytes : Bytes) :
    Except Fault (Ahead Json) :=
  match bytes with
  | [] => fail .endInValue
  | b :: _ =>
    if isDigitByte b then
      let digits := absorb ⟨significand, 0⟩ (bytes.takeWhile isDigitByte)
      afterFraction negative digits.significand (exponent - digits.count)
        (bytes.dropWhile isDigitByte)
    else fail .invalidNumber

/-- An integer, if it fits 64 bits; zero with a sign and what lies below is real. -/
def signedInteger (negative : Bool) (magnitude : Nat) : Except Fault Json :=
  if negative then
    if 0 < magnitude ∧ magnitude ≤ 0x8000000000000000 then .ok (.integer (-(magnitude : Int)))
    else signedReal true magnitude 0
  else .ok (.integer magnitude)

def afterWhole (negative : Bool) (whole : Bytes) (bytes : Bytes) : Except Fault (Ahead Json) :=
  let digits := absorb ⟨0, 0⟩ whole
  let ignored := whole.length - digits.count
  let plain : Except Fault Json :=
    if ignored = 0 then signedInteger negative digits.significand
    else signedReal negative digits.significand ignored
  match bytes with
  | [] => return (← plain, bytes)
  | b :: rest =>
    if b = 0x2E then readFraction negative digits.significand ignored rest
    else if isExponentByte b then readExponent negative digits.significand ignored rest
    else return (← plain, bytes)

def readNumber (negative : Bool) (bytes : Bytes) : Except Fault (Ahead Json) :=
  match bytes with
  | [] => fail .endInValue
  | b :: rest =>
    if b = 0x30 then
      match rest with
      | next :: _ => if isDigitByte next then fail .invalidNumber else afterWhole negative [b] rest
      | [] => afterWhole negative [b] rest
    else if isDigitByte b then
      afterWhole negative (bytes.takeWhile isDigitByte) (bytes.dropWhile isDigitByte)
    else fail .invalidNumber

/-! ## Texts -/

def hexValue? (b : UInt8) : Option Nat :=
  if isDigitByte b then some (digitValue b)
  else if 0x61 ≤ b && b ≤ 0x66 then some ((b - 0x57).toNat)
  else if 0x41 ≤ b && b ≤ 0x46 then some ((b - 0x37).toNat)
  else none

def readHex : Bytes → Except Fault (Ahead Nat)
  | a :: b :: c :: d :: rest =>
    match hexValue? a, hexValue? b, hexValue? c, hexValue? d with
    | some p, some q, some r, some s => .ok (((p * 16 + q) * 16 + r) * 16 + s, rest)
    | _, _, _, _ => fail .invalidEscape
  | _ => fail .endInString

def codePoint (code : Nat) : Bytes := String.utf8EncodeChar (Char.ofNat code)

def pairedCode (first second : Nat) : Nat :=
  0x10000 + (first - 0xD800) * 0x400 + (second - 0xDC00)

def readSecondHalf (first : Nat) (bytes : Bytes) : Except Fault (Ahead Bytes) :=
  match readHex bytes with
  | .error fault => .error fault
  | .ok (second, rest) =>
    if 0xDC00 ≤ second ∧ second ≤ 0xDFFF then .ok (codePoint (pairedCode first second), rest)
    else fail .loneSurrogate

/-- Reads what must follow the first half of a surrogate pair: an escape of the other half. -/
def readPair (first : Nat) : Bytes → Except Fault (Ahead Bytes)
  | [] => fail .endInString
  | [b] => if b = 0x5C then fail .endInString else fail .hexEscapeCut
  | b :: c :: rest =>
    if b = 0x5C ∧ c = 0x75 then readSecondHalf first rest else fail .hexEscapeCut

/-- Reads a code point after `\u`: one group of four digits, or two groups for
the halves of a surrogate pair. -/
def readCodePoint (bytes : Bytes) : Except Fault (Ahead Bytes) :=
  match readHex bytes with
  | .error fault => .error fault
  | .ok (code, rest) =>
    if 0xDC00 ≤ code ∧ code ≤ 0xDFFF then fail .loneSurrogate
    else if 0xD800 ≤ code ∧ code < 0xDC00 then readPair code rest
    else .ok (codePoint code, rest)

def shortEscape? (b : UInt8) : Option UInt8 :=
  if b = 0x22 ∨ b = 0x5C ∨ b = 0x2F then some b
  else if b = 0x62 then some 0x08
  else if b = 0x66 then some 0x0C
  else if b = 0x6E then some 0x0A
  else if b = 0x72 then some 0x0D
  else if b = 0x74 then some 0x09
  else none

def readEscape : Bytes → Except Fault (Ahead Bytes)
  | [] => fail .endInString
  | b :: rest =>
    if b = 0x75 then readCodePoint rest
    else
      match shortEscape? b with
      | some byte => .ok ([byte], rest)
      | none => fail .invalidEscape

theorem readHex_shorter {bytes rest : Bytes} {code : Nat}
    (read : readHex bytes = .ok (code, rest)) : rest.length ≤ bytes.length := by
  unfold readHex at read
  split at read
  · split at read
    · cases read; simp; omega
    · cases read
  · cases read

theorem readSecondHalf_shorter {first : Nat} {bytes rest text : Bytes}
    (read : readSecondHalf first bytes = .ok (text, rest)) : rest.length ≤ bytes.length := by
  unfold readSecondHalf at read
  split at read
  · cases read
  · rename_i second
    split at read
    · injection read with same; injection same with _ same; subst same; exact readHex_shorter second
    · cases read

theorem readPair_shorter {first : Nat} {bytes rest text : Bytes}
    (read : readPair first bytes = .ok (text, rest)) : rest.length ≤ bytes.length := by
  unfold readPair at read
  split at read
  · cases read
  · split at read <;> cases read
  · split at read
    · have := readSecondHalf_shorter read
      simp only [List.length_cons]
      omega
    · cases read

theorem readCodePoint_shorter {bytes rest text : Bytes}
    (read : readCodePoint bytes = .ok (text, rest)) : rest.length ≤ bytes.length := by
  unfold readCodePoint at read
  split at read
  · cases read
  · rename_i ahead group
    have shorter := readHex_shorter group
    split at read
    · cases read
    · split at read
      · exact Nat.le_trans (readPair_shorter read) shorter
      · injection read with same; injection same with _ same; subst same; exact shorter

theorem readEscape_shorter {bytes rest text : Bytes} (read : readEscape bytes = .ok (text, rest)) :
    rest.length ≤ bytes.length := by
  unfold readEscape at read
  split at read
  · cases read
  · split at read
    · have := readCodePoint_shorter read; simp; omega
    · split at read
      · cases read; simp
      · cases read

/-- Reads the bytes of a text after its opening quote; `taken` holds those
before, last one first. -/
def readTextBytes (taken : Bytes) (bytes : Bytes) : Except Fault (Ahead Bytes) :=
  match bytes with
  | [] => fail .endInString
  | b :: rest =>
    if b = 0x22 then .ok (taken.reverse, rest)
    else if b = 0x5C then
      match _step : readEscape rest with
      | .error fault => .error fault
      | .ok (escaped, ahead) => readTextBytes (escaped.reverse ++ taken) ahead
    else if b < 0x20 then fail .controlCharacter
    else readTextBytes (b :: taken) rest
termination_by bytes.length
decreasing_by
  · have := readEscape_shorter _step; simp; omega
  · simp

def readText (bytes : Bytes) : Except Fault (Ahead String) := do
  let (content, rest) ← readTextBytes [] bytes
  match Bytes.toText? content with
  | some text => return (text, rest)
  | none => fail .invalidCodePoint

/-! ## Values -/

def readWord (word : Bytes) (value : Json) (bytes : Bytes) : Except Fault (Ahead Json) :=
  match word, bytes with
  | [], rest => .ok (value, rest)
  | _ :: _, [] => fail .endInValue
  | expected :: word, b :: rest =>
    if b = expected then readWord word value rest else fail .expectedIdent

/-- The start of a value: all of it, or the bracket that opens it. -/
inductive Head where
  | scalar (value : Json)
  | openArray
  | openObject

def Head.found : Head → Found
  | .scalar value => value.found
  | .openArray => .sequence
  | .openObject => .map

def readHead (bytes : Bytes) : Except Fault (Ahead Head) :=
  match skipBlanks bytes with
  | [] => fail .endInValue
  | b :: rest =>
    let scalar (read : Except Fault (Ahead Json)) : Except Fault (Ahead Head) :=
      read.map fun (value, rest) => (.scalar value, rest)
    if b = 0x6E then scalar (readWord [0x75, 0x6C, 0x6C] .null rest)
    else if b = 0x74 then scalar (readWord [0x72, 0x75, 0x65] (.bool true) rest)
    else if b = 0x66 then scalar (readWord [0x61, 0x6C, 0x73, 0x65] (.bool false) rest)
    else if b = 0x2D then scalar (readNumber true rest)
    else if isDigitByte b then scalar (readNumber false (b :: rest))
    else if b = 0x22 then scalar ((readText rest).map fun (text, rest) => (.string text, rest))
    else if b = 0x5B then .ok (.openArray, rest)
    else if b = 0x7B then .ok (.openObject, rest)
    else fail .expectedValue

inductive NextItem where
  | done (rest : Bytes)
  | item (bytes : Bytes)

def nextItem (first : Bool) (bytes : Bytes) : Except Fault NextItem :=
  match skipBlanks bytes with
  | [] => fail .endInArray
  | b :: rest =>
    if b = 0x5D then .ok (.done rest)
    else if first then .ok (.item (b :: rest))
    else if b = 0x2C then
      match skipBlanks rest with
      | [] => fail .endInValue
      | next :: ahead => if next = 0x5D then fail .trailingComma else .ok (.item (next :: ahead))
    else fail .expectedCommaOrBracket

inductive NextMember where
  | done (rest : Bytes)
  | member (name : String) (bytes : Bytes)

def nextMember (first : Bool) (bytes : Bytes) : Except Fault NextMember :=
  let named (rest : Bytes) : Except Fault NextMember :=
    (readText rest).map fun (name, rest) => .member name rest
  match skipBlanks bytes with
  | [] => fail .endInObject
  | b :: rest =>
    if b = 0x7D then .ok (.done rest)
    else if first then
      if b = 0x22 then named rest else fail .keyNotString
    else if b = 0x2C then
      match skipBlanks rest with
      | [] => fail .endInValue
      | next :: ahead =>
        if next = 0x22 then named ahead
        else if next = 0x7D then fail .trailingComma
        else fail .keyNotString
    else fail .expectedCommaOrBrace

def readColon (bytes : Bytes) : Except Fault Bytes :=
  match skipBlanks bytes with
  | [] => fail .endInObject
  | b :: rest => if b = 0x3A then .ok rest else fail .expectedColon

/-- Reads items up to the end of the array, each with the bound that is left;
`first` before any was read, and `taken` holds those read, last one first. -/
def readItems {α : Type} (item : Nat → Bytes → Except Fault (Ahead α)) :
    (bound : Nat) → (first : Bool) → (taken : List α) → Bytes → Except Fault (Ahead (List α))
  | 0, _, _, _ => fail .endInArray
  | bound + 1, first, taken, bytes =>
    match nextItem first bytes with
    | .error fault => .error fault
    | .ok (.done rest) => .ok (taken.reverse, rest)
    | .ok (.item ahead) =>
      match item bound ahead with
      | .error fault => .error fault
      | .ok (value, rest) => readItems item bound false (value :: taken) rest

/-- Reads members up to the end of the object, passing a state along.  `member`
starts before the colon. -/
def foldMembers {σ : Type} (member : Nat → σ → String → Bytes → Except Fault (Ahead σ)) :
    (bound : Nat) → (first : Bool) → σ → Bytes → Except Fault (Ahead σ)
  | 0, _, _, _ => fail .endInObject
  | bound + 1, first, state, bytes =>
    match nextMember first bytes with
    | .error fault => .error fault
    | .ok (.done rest) => .ok (state, rest)
    | .ok (.member name ahead) =>
      match member bound state name ahead with
      | .error fault => .error fault
      | .ok (state, rest) => foldMembers member bound false state rest

def takeMember (value : Nat → Bytes → Except Fault (Ahead Json)) (bound : Nat)
    (taken : List (String × Json)) (name : String) (bytes : Bytes) :
    Except Fault (Ahead (List (String × Json))) :=
  match readColon bytes with
  | .error fault => .error fault
  | .ok ahead =>
    match value bound ahead with
    | .error fault => .error fault
    | .ok (value, rest) => .ok ((name, value) :: taken, rest)

/-- Reads a value whose containers nest at most `depth` deep. -/
def readValue : (depth : Nat) → (bound : Nat) → Bytes → Except Fault (Ahead Json)
  | 0, _, bytes =>
    match readHead bytes with
    | .error fault => .error fault
    | .ok (.scalar value, rest) => .ok (value, rest)
    | .ok (_, _) => fail .nestedTooDeep
  | depth + 1, bound, bytes =>
    match readHead bytes with
    | .error fault => .error fault
    | .ok (.scalar value, rest) => .ok (value, rest)
    | .ok (.openArray, rest) =>
      (readItems (readValue depth) bound true [] rest).map fun (items, rest) => (.array items, rest)
    | .ok (.openObject, rest) =>
      (foldMembers (takeMember (readValue depth)) bound true [] rest).map
        fun (members, rest) => (.object members.reverse, rest)

def maxDepth : Nat := 127

def finish {α : Type} (read : Except Fault (Ahead α)) : Except Fault α :=
  match read with
  | .error fault => .error fault
  | .ok (value, rest) => if (skipBlanks rest).isEmpty then .ok value else fail .trailingCharacters

def decode (bytes : Bytes) : Except Fault Json := finish (readValue maxDepth bytes.length bytes)

end PresentRelay.Json
