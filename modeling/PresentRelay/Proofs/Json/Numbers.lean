import PresentRelay.Json.Reader
import PresentRelay.Json.Value

/-!
# Numbers read back

The digits of an integer that fits 64 bits are read as that integer: `readNumber_decimal` and
`readNumber_minus`.  What follows them must not go on as a number.
-/

set_option autoImplicit false

namespace PresentRelay.Json

/-! ## Digits -/

/-- What digits stand for after a value that was read before them. -/
def digitsValue (value : Nat) (digits : Bytes) : Nat :=
  digits.foldl (fun value b => value * 10 + digitValue b) value

theorem digit_of_lt_ten : ∀ d < 10, isDigitByte (0x30 + UInt8.ofNat d) = true ∧
    digitValue (0x30 + UInt8.ofNat d) = d := by
  decide

theorem decimal_of_lt_ten {n : Nat} (small : n < 10) : decimal n = [0x30 + UInt8.ofNat n] := by
  rw [decimal, if_pos small]

theorem decimal_of_ten_le {n : Nat} (large : 10 ≤ n) :
    decimal n = decimal (n / 10) ++ [0x30 + UInt8.ofNat (n % 10)] := by
  rw [decimal, if_neg (Nat.not_lt.mpr large)]

theorem decimal_ne_nil (n : Nat) : decimal n ≠ [] := by
  rw [decimal]
  split <;> simp

theorem isDigitByte_of_mem_decimal {n : Nat} {b : UInt8} (member : b ∈ decimal n) :
    isDigitByte b = true := by
  induction n using Nat.strongRecOn with
  | ind n ih =>
    by_cases small : n < 10
    · rw [decimal_of_lt_ten small, List.mem_singleton] at member
      subst member
      exact (digit_of_lt_ten n small).1
    · rw [decimal_of_ten_le (Nat.le_of_not_lt small), List.mem_append, List.mem_singleton] at member
      rcases member with earlier | rfl
      · exact ih (n / 10) (by omega) earlier
      · exact (digit_of_lt_ten (n % 10) (by omega)).1

theorem ne_of_isDigitByte {b other : UInt8} (digit : isDigitByte b = true)
    (none : isDigitByte other = false) : b ≠ other := by
  rintro rfl
  rw [digit] at none
  cases none

theorem decimal_eq_cons (n : Nat) :
    ∃ b rest, decimal n = b :: rest ∧ isDigitByte b = true := by
  cases digits : decimal n with
  | nil => exact absurd digits (decimal_ne_nil n)
  | cons b rest =>
    exact ⟨b, rest, rfl, isDigitByte_of_mem_decimal (n := n) (digits ▸ List.mem_cons_self)⟩

theorem digitsValue_decimal (n : Nat) : digitsValue 0 (decimal n) = n := by
  induction n using Nat.strongRecOn with
  | ind n ih =>
    by_cases small : n < 10
    · rw [decimal_of_lt_ten small]
      simp only [digitsValue, List.foldl_cons, List.foldl_nil, (digit_of_lt_ten n small).2]
      omega
    · have before : digitsValue 0 (decimal (n / 10)) = n / 10 := ih (n / 10) (by omega)
      have last : digitValue (0x30 + UInt8.ofNat (n % 10)) = n % 10 :=
        (digit_of_lt_ten (n % 10) (by omega)).2
      rw [digitsValue] at before
      rw [decimal_of_ten_le (Nat.le_of_not_lt small), digitsValue, List.foldl_append, before]
      simp only [List.foldl_cons, List.foldl_nil, last]
      omega

theorem head?_decimal {n : Nat} (positive : 0 < n) : (decimal n).head? ≠ some 0x30 := by
  induction n using Nat.strongRecOn with
  | ind n ih =>
    by_cases small : n < 10
    · have nonzero : ∀ d < 10, 0 < d → 0x30 + UInt8.ofNat d ≠ 0x30 := by decide
      rw [decimal_of_lt_ten small, List.head?_cons, Ne, Option.some.injEq]
      exact nonzero n small positive
    · have earlier := ih (n / 10) (by omega) (by omega)
      rw [decimal_of_ten_le (Nat.le_of_not_lt small), List.head?_append]
      cases first : (decimal (n / 10)).head? with
      | none => exact absurd (List.head?_eq_none_iff.mp first) (decimal_ne_nil _)
      | some b => rwa [first] at earlier

/-! ## Reading them -/

theorem le_digitsValue (value : Nat) (digits : Bytes) : value ≤ digitsValue value digits := by
  induction digits generalizing value with
  | nil => exact Nat.le_refl _
  | cons b rest ih =>
    have := ih (value * 10 + digitValue b)
    rw [digitsValue, List.foldl_cons, ← digitsValue]
    omega

theorem absorb_of_fits {digits : Digits} {whole : Bytes}
    (fits : digitsValue digits.significand whole < UInt64.size) :
    absorb digits whole =
      ⟨digitsValue digits.significand whole, digits.count + whole.length⟩ := by
  induction whole generalizing digits with
  | nil => rfl
  | cons b rest ih =>
    rw [digitsValue, List.foldl_cons, ← digitsValue] at fits
    have next : digits.significand * 10 + digitValue b < UInt64.size :=
      Nat.lt_of_le_of_lt (le_digitsValue _ rest) fits
    rw [absorb, if_pos next, ih fits, digitsValue, digitsValue, List.foldl_cons, List.length_cons]
    simp only [Digits.mk.injEq, true_and]
    omega

/-- What follows a number, so that the number ends: nothing, or a byte that is no digit, no
point and no sign of an exponent. -/
def EndsNumber (rest : Bytes) : Prop :=
  ∀ b ∈ rest.head?, isDigitByte b = false ∧ b ≠ 0x2E ∧ isExponentByte b = false

theorem endsNumber_nil : EndsNumber [] := nofun

theorem endsNumber_cons {b : UInt8} {rest : Bytes}
    (ends : isDigitByte b = false ∧ b ≠ 0x2E ∧ isExponentByte b = false) :
    EndsNumber (b :: rest) := by
  intro first same
  obtain rfl := Option.some.inj same
  exact ends

theorem span_decimal (n : Nat) {rest : Bytes} (ends : EndsNumber rest) :
    (decimal n ++ rest).takeWhile isDigitByte = decimal n ∧
      (decimal n ++ rest).dropWhile isDigitByte = rest := by
  have digits : ∀ b ∈ decimal n, isDigitByte b = true := fun _ => isDigitByte_of_mem_decimal
  rw [List.takeWhile_append_of_pos digits, List.dropWhile_append_of_pos digits]
  cases rest with
  | nil => simp
  | cons b rest => simp [(ends b rfl).1]

theorem afterWhole_decimal {negative : Bool} {n : Nat} {rest : Bytes} {value : Json}
    (fits : n < UInt64.size) (ends : EndsNumber rest)
    (signed : signedInteger negative n = .ok value) :
    afterWhole negative (decimal n) rest = .ok (value, rest) := by
  have all : absorb ⟨0, 0⟩ (decimal n) = ⟨n, (decimal n).length⟩ := by
    rw [absorb_of_fits] <;> simp only [digitsValue_decimal, Nat.zero_add]
    exact fits
  unfold afterWhole
  rw [all]
  simp only [Nat.sub_self, if_true, signed]
  cases rest with
  | nil => rfl
  | cons b rest =>
    obtain ⟨-, point, exponent⟩ := ends b rfl
    simp only [point, exponent, if_false, Bool.false_eq_true]
    rfl

theorem readNumber_digits (negative : Bool) (n : Nat) {rest : Bytes} (ends : EndsNumber rest) :
    readNumber negative (decimal n ++ rest) = afterWhole negative (decimal n) rest := by
  obtain ⟨taken, left⟩ := span_decimal n ends
  by_cases zero : n = 0
  · subst zero
    rw [decimal_of_lt_ten (by decide)]
    cases rest with
    | nil => rfl
    | cons b rest =>
      have other : isDigitByte b = false := (ends b rfl).1
      simp [readNumber, other]
  · have head := head?_decimal (Nat.pos_of_ne_zero zero)
    obtain ⟨first, others, digits, digit⟩ := decimal_eq_cons n
    have nonzero : first ≠ 0x30 := by
      rintro rfl
      rw [digits] at head
      exact head rfl
    rw [digits, List.cons_append] at taken left ⊢
    simp only [readNumber, nonzero, digit, if_false, if_true, taken, left]

theorem readNumber_decimal {n : Nat} {rest : Bytes} (fits : n < UInt64.size)
    (ends : EndsNumber rest) :
    readNumber false (decimal n ++ rest) = .ok (.integer n, rest) := by
  rw [readNumber_digits false n ends]
  exact afterWhole_decimal fits ends rfl

theorem readNumber_minus {n : Nat} {rest : Bytes} (positive : 0 < n)
    (fits : n ≤ 0x8000000000000000) (ends : EndsNumber rest) :
    readNumber true (decimal n ++ rest) = .ok (.integer (-n), rest) := by
  rw [readNumber_digits true n ends]
  refine afterWhole_decimal (Nat.lt_of_le_of_lt fits (by decide)) ends ?_
  rw [signedInteger, if_pos rfl, if_pos ⟨positive, fits⟩]

end PresentRelay.Json
