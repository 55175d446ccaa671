import PresentRelay.Json.Reader

/-!
# Passing over a value

The value of a member that nobody asked for is passed over: its grammar is
checked, but no number is computed, no text is put together, and containers may
nest at any depth.  The containers still open are kept in a list, innermost
first.
-/

set_option autoImplicit false

namespace PresentRelay.Json

inductive Bracket where
  | square
  | curly
  deriving DecidableEq, Repr

namespace Bracket

def closing : Bracket → UInt8
  | .square => 0x5D
  | .curly => 0x7D

def cut : Bracket → SyntaxFault
  | .square => .endInArray
  | .curly => .endInObject

def unseparated : Bracket → SyntaxFault
  | .square => .expectedCommaOrBracket
  | .curly => .expectedCommaOrBrace

end Bracket

def skipExponent (bytes : Bytes) : Except Fault Bytes :=
  let unsigned :=
    match bytes with
    | b :: rest => if b = 0x2B ∨ b = 0x2D then rest else bytes
    | [] => []
  match unsigned with
  | [] => fail .invalidNumber
  | b :: _ => if isDigitByte b then .ok (unsigned.dropWhile isDigitByte) else fail .invalidNumber

def skipAfterFraction (bytes : Bytes) : Except Fault Bytes :=
  match bytes with
  | [] => .ok []
  | b :: rest => if isExponentByte b then skipExponent rest else .ok bytes

def skipFraction (bytes : Bytes) : Except Fault Bytes :=
  match bytes with
  | [] => fail .invalidNumber
  | b :: _ =>
    if isDigitByte b then skipAfterFraction (bytes.dropWhile isDigitByte) else fail .invalidNumber

def skipAfterWhole (bytes : Bytes) : Except Fault Bytes :=
  match bytes with
  | [] => .ok []
  | b :: rest => if b = 0x2E then skipFraction rest else skipAfterFraction bytes

def skipNumber (bytes : Bytes) : Except Fault Bytes :=
  match bytes with
  | [] => fail .invalidNumber
  | b :: rest =>
    if b = 0x30 then
      match rest with
      | next :: _ => if isDigitByte next then fail .invalidNumber else skipAfterWhole rest
      | [] => .ok []
    else if isDigitByte b then skipAfterWhole (bytes.dropWhile isDigitByte)
    else fail .invalidNumber

/-- Passes over an escape after its backslash; halves of surrogate pairs need
not match. -/
def skipEscape : Bytes → Except Fault Bytes
  | [] => fail .endInString
  | b :: rest =>
    if b = 0x75 then (readHex rest).map Prod.snd
    else if (shortEscape? b).isSome then .ok rest
    else fail .invalidEscape

theorem skipEscape_shorter {bytes rest : Bytes} (skipped : skipEscape bytes = .ok rest) :
    rest.length ≤ bytes.length := by
  unfold skipEscape at skipped
  split at skipped
  · cases skipped
  · rename_i ahead
    split at skipped
    · cases group : readHex ahead with
      | error fault => rw [group] at skipped; cases skipped
      | ok read =>
        rw [group] at skipped
        cases skipped
        have := readHex_shorter group
        simp only [List.length_cons]
        omega
    · split at skipped
      · cases skipped; simp
      · cases skipped

def skipText (bytes : Bytes) : Except Fault Bytes :=
  match bytes with
  | [] => fail .endInString
  | b :: rest =>
    if b = 0x22 then .ok rest
    else if b = 0x5C then
      match _step : skipEscape rest with
      | .error fault => .error fault
      | .ok ahead => skipText ahead
    else if b < 0x20 then fail .controlCharacter
    else skipText rest
termination_by bytes.length
decreasing_by
  · have := skipEscape_shorter _step; simp; omega
  · simp

def skipHead (bytes : Bytes) : Except Fault (Ahead (Option Bracket)) :=
  match skipBlanks bytes with
  | [] => fail .endInValue
  | b :: rest =>
    let scalar (skipped : Except Fault Bytes) : Except Fault (Ahead (Option Bracket)) :=
      skipped.map fun rest => (none, rest)
    let word (letters : Bytes) : Except Fault (Ahead (Option Bracket)) :=
      scalar ((readWord letters .null rest).map Prod.snd)
    if b = 0x6E then word [0x75, 0x6C, 0x6C]
    else if b = 0x74 then word [0x72, 0x75, 0x65]
    else if b = 0x66 then word [0x61, 0x6C, 0x73, 0x65]
    else if b = 0x2D then scalar (skipNumber rest)
    else if isDigitByte b then scalar (skipNumber (b :: rest))
    else if b = 0x22 then scalar (skipText rest)
    else if b = 0x5B then .ok (some .square, rest)
    else if b = 0x7B then .ok (some .curly, rest)
    else fail .expectedValue

/-- Passes over what stands before a value in a container: nothing in an array, a
name and a colon in an object. -/
def skipName : Bracket → Bytes → Except Fault Bytes
  | .square, bytes => .ok bytes
  | .curly, bytes =>
    match skipBlanks bytes with
    | [] => fail .endInObject
    | b :: rest => if b = 0x22 then skipText rest >>= readColon else fail .keyNotString

/-- Where in a document a reader stands: before a value, after one, or at the
start of a container. -/
inductive Standing where
  | beforeValue
  | afterValue
  | atStart
  deriving DecidableEq

/-- Passes over a value and the containers open around it. -/
def skipThrough : (bound : Nat) → Standing → (enclosing : List Bracket) → Bytes → Except Fault Bytes
  | 0, _, _, _ => fail .endInValue
  | bound + 1, .beforeValue, enclosing, bytes =>
    match skipHead bytes with
    | .error fault => .error fault
    | .ok (none, rest) => skipThrough bound .afterValue enclosing rest
    | .ok (some bracket, rest) => skipThrough bound .atStart (bracket :: enclosing) rest
  | _ + 1, _, [], bytes => .ok bytes
  | bound + 1, standing, bracket :: enclosing, bytes =>
    match skipBlanks bytes with
    | [] => fail bracket.cut
    | b :: rest =>
      if b = bracket.closing then skipThrough bound .afterValue enclosing rest
      else if standing = .atStart ∨ b = 0x2C then
        match skipName bracket (if standing = .atStart then b :: rest else rest) with
        | .error fault => .error fault
        | .ok ahead => skipThrough bound .beforeValue (bracket :: enclosing) ahead
      else fail bracket.unseparated

/-- Passes over a value.  Two rounds at most go by without a byte being taken
between them, so twice as many rounds as bytes are enough. -/
def skipValue (bytes : Bytes) : Except Fault Bytes :=
  skipThrough (2 * bytes.length + 2) .beforeValue [] bytes

end PresentRelay.Json
