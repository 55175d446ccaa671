import PresentRelay.Json.Reader
import PresentRelay.Json.Value

/-!
# Texts read back

Whatever characters a text has, its quoted form is read as that text: `readText_escaped`.
Escaping works byte by byte, and reading undoes it one byte at a time.
-/

set_option autoImplicit false

namespace PresentRelay.Json

theorem control_digits : ∀ n < 32,
    hexValue? (hexDigit (UInt8.ofNat n / 16)) = some (n / 16) ∧
      hexValue? (hexDigit (UInt8.ofNat n % 16)) = some (n % 16) ∧
        codePoint n = [UInt8.ofNat n] := by
  decide

theorem readCodePoint_control {b : UInt8} (control : b < 0x20) (rest : Bytes) :
    readCodePoint (0x30 :: 0x30 :: hexDigit (b / 16) :: hexDigit (b % 16) :: rest) =
      .ok ([b], rest) := by
  have small : b.toNat < 32 := UInt8.lt_iff_toNat_lt.mp control
  obtain ⟨high, low, code⟩ := control_digits b.toNat small
  rw [UInt8.ofNat_toNat] at high low code
  have zero : hexValue? 0x30 = some 0 := by decide
  have number : readHex (0x30 :: 0x30 :: hexDigit (b / 16) :: hexDigit (b % 16) :: rest) =
      .ok (b.toNat, rest) := by
    simp only [readHex, zero, high, low, Except.ok.injEq, Prod.mk.injEq, and_true]
    omega
  unfold readCodePoint
  rw [number]
  dsimp only
  rw [if_neg (by omega), if_neg (by omega), code]

theorem readTextBytes_of_escape (escape : Bytes) {taken rest : Bytes} {b : UInt8}
    (read : readEscape (escape ++ rest) = .ok ([b], rest)) :
    readTextBytes taken (0x5C :: (escape ++ rest)) = readTextBytes (b :: taken) rest := by
  rw [readTextBytes, if_neg (by decide), if_pos rfl]
  split
  · next fault failed =>
    rw [read] at failed
    cases failed
  · next escaped ahead done =>
    rw [read] at done
    cases done
    rfl

theorem readTextBytes_plain {taken rest : Bytes} {b : UInt8} (quote : b ≠ 0x22)
    (backslash : b ≠ 0x5C) (control : ¬b < 0x20) :
    readTextBytes taken (b :: rest) = readTextBytes (b :: taken) rest := by
  rw [readTextBytes, if_neg quote, if_neg backslash, if_neg control]

theorem escapeByte_cases (b : UInt8) :
    (∃ letter, letter ≠ 0x75 ∧ shortEscape? letter = some b ∧ escapeByte b = [0x5C, letter]) ∨
      (b < 0x20 ∧
        escapeByte b = [0x5C, 0x75, 0x30, 0x30, hexDigit (b / 16), hexDigit (b % 16)]) ∨
      (b ≠ 0x22 ∧ b ≠ 0x5C ∧ ¬b < 0x20 ∧ escapeByte b = [b]) := by
  by_cases short : b ∈ ([0x22, 0x5C, 0x08, 0x09, 0x0A, 0x0C, 0x0D] : Bytes)
  · left
    simp only [List.mem_cons, List.not_mem_nil, or_false] at short
    rcases short with rfl | rfl | rfl | rfl | rfl | rfl | rfl
    all_goals exact ⟨_, by decide, by decide, rfl⟩
  · right
    simp only [List.mem_cons, List.not_mem_nil, or_false, not_or] at short
    obtain ⟨quote, backslash, back, tab, line, form, carriage⟩ := short
    simp only [escapeByte, quote, backslash, back, tab, line, form, carriage, if_false]
    by_cases control : b < 0x20
    · exact .inl ⟨control, if_pos control⟩
    · exact .inr ⟨quote, backslash, control, if_neg control⟩

/-- Reading undoes the escaping of a byte. -/
theorem readTextBytes_escapeByte (taken rest : Bytes) (b : UInt8) :
    readTextBytes taken (escapeByte b ++ rest) = readTextBytes (b :: taken) rest := by
  obtain ⟨letter, short, known, written⟩ | ⟨control, written⟩ | ⟨quote, backslash, control,
    written⟩ := escapeByte_cases b
  · rw [written]
    refine readTextBytes_of_escape [letter] ?_
    rw [List.singleton_append, readEscape, if_neg short, known]
  · rw [written]
    exact readTextBytes_of_escape [0x75, 0x30, 0x30, hexDigit (b / 16), hexDigit (b % 16)]
      (readCodePoint_control control rest)
  · rw [written]
    exact readTextBytes_plain quote backslash control

theorem readTextBytes_escaped (taken content rest : Bytes) :
    readTextBytes taken (content.flatMap escapeByte ++ 0x22 :: rest) =
      .ok (taken.reverse ++ content, rest) := by
  induction content generalizing taken with
  | nil =>
    rw [List.flatMap_nil, List.nil_append, List.append_nil, readTextBytes, if_pos rfl]
  | cons b content ih =>
    rw [List.flatMap_cons, List.append_assoc, readTextBytes_escapeByte, ih, List.reverse_cons,
      List.append_assoc, List.singleton_append]

/-- A quoted text is read back, from after its opening quote. -/
theorem readText_escaped (text : String) (rest : Bytes) :
    readText ((Bytes.ofText text).flatMap escapeByte ++ 0x22 :: rest) = .ok (text, rest) := by
  have content := readTextBytes_escaped [] (Bytes.ofText text) rest
  rw [List.reverse_nil, List.nil_append] at content
  simp only [readText, content, bind, Except.bind, Bytes.toText?_ofText]
  rfl

theorem renderText_append (text : String) (rest : Bytes) :
    renderText text ++ rest =
      0x22 :: ((Bytes.ofText text).flatMap escapeByte ++ 0x22 :: rest) := by
  simp [renderText]

end PresentRelay.Json
