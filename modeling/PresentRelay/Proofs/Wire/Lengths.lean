import PresentRelay.Proofs.Wire.Messages
import PresentRelay.Wire.Frame

/-!
# Messages of consumers fit a frame

What a consumer asks and is answered is short: the requests have no lists, and the one list in a
response has an entry per plane.  So none of it is ever too long to be sent.
-/

set_option autoImplicit false

namespace PresentRelay

namespace Json

theorem length_decimal_le (digits n : Nat) (small : n < 10 ^ (digits + 1)) :
    (decimal n).length ≤ digits + 1 := by
  induction digits generalizing n with
  | zero =>
    rw [decimal_of_lt_ten (by simpa using small)]
    exact Nat.le_refl 1
  | succ digits ih =>
    by_cases one : n < 10
    · rw [decimal_of_lt_ten one]
      exact Nat.le_add_left 1 _
    · rw [decimal_of_ten_le (Nat.le_of_not_lt one), List.length_append]
      have fewer : n / 10 < 10 ^ (digits + 1) := by
        rw [Nat.div_lt_iff_lt_mul (by decide), ← pow_succ]
        exact small
      exact Nat.add_le_add_right (ih (n / 10) fewer) 1

/-- An integer that fits 64 bits has at most twenty digits, or a sign and nineteen. -/
theorem length_integer_le {n : Int} (exact : ∃ depth, Exact depth (.integer n)) :
    (render (.integer n)).length ≤ 20 := by
  obtain ⟨depth, exact⟩ := exact
  have within : -0x8000000000000000 ≤ n ∧ n < UInt64.size := by
    cases depth <;> exact exact
  have size : (UInt64.size : Int) = 18446744073709551616 := rfl
  rw [size] at within
  rw [render]
  cases n with
  | ofNat n =>
    have small : n < 18446744073709551616 := Int.ofNat_lt.mp within.2
    exact length_decimal_le 19 n (Nat.lt_trans small (by norm_num))
  | negSucc n =>
    have digits := length_decimal_le 18 (n + 1) (by norm_num; omega)
    rw [signedDecimal, List.length_cons]
    omega

theorem length_commaSeparated_le {pieces : List Bytes} {most : Nat}
    (each : ∀ piece ∈ pieces, piece.length ≤ most) :
    (commaSeparated pieces).length ≤ pieces.length * (most + 1) := by
  have others (pieces : List Bytes) (each : ∀ piece ∈ pieces, piece.length ≤ most) :
      (pieces.flatMap (0x2C :: ·)).length ≤ pieces.length * (most + 1) := by
    induction pieces with
    | nil => simp
    | cons piece pieces ih =>
      obtain ⟨first, rest⟩ := List.forall_mem_cons.mp each
      have more := ih rest
      rw [List.flatMap_cons, List.length_append, List.length_cons, List.length_cons, Nat.succ_mul]
      omega
  cases pieces with
  | nil => exact Nat.zero_le _
  | cons piece pieces =>
    obtain ⟨first, rest⟩ := List.forall_mem_cons.mp each
    have more := others pieces rest
    rw [commaSeparated_cons, List.length_append, List.length_cons, Nat.succ_mul]
    omega

theorem length_object_le {members : List (String × Json)} {most : Nat}
    (each : ∀ member ∈ members,
      (renderText member.1).length + 1 + (render member.2).length ≤ most) :
    (render (.object members)).length ≤ members.length * (most + 1) + 2 := by
  have pieces : ∀ piece ∈ members.map memberText, piece.length ≤ most := by
    intro piece inside
    obtain ⟨member, there, rfl⟩ := List.mem_map.mp inside
    have short := each member there
    rw [memberText, List.length_append, List.length_cons]
    omega
  have length := length_commaSeparated_le pieces
  have text : render (.object members) =
      0x7B :: commaSeparated (members.map memberText) ++ [0x7D] := by rw [render]; rfl
  rw [text, List.length_append, List.length_cons, List.length_singleton]
  rw [List.length_map] at length
  omega

theorem length_flags_le (flags : List Bool) :
    (render (.array (flags.map .bool))).length ≤ flags.length * 6 + 2 := by
  have each : ∀ piece ∈ (flags.map Json.bool).map render, piece.length ≤ 5 := by
    intro piece inside
    obtain ⟨value, there, rfl⟩ := List.mem_map.mp inside
    obtain ⟨flag, -, rfl⟩ := List.mem_map.mp there
    cases flag <;> rw [render] <;> decide
  have length := length_commaSeparated_le each
  rw [render, List.length_append, List.length_cons, List.length_singleton]
  rw [List.length_map, List.length_map] at length
  omega

end Json

open Json

namespace Request

theorem fits_configure (width height refresh : Int32) :
    (configure width height refresh).encode.length ≤ Frame.maxPayload := by
  have integer (n : Int32) : (render (.integer n.toInt)).length ≤ 20 :=
    length_integer_le ⟨0, exact_int32 0 n⟩
  have names : (renderText "cmd").length = 5 ∧ (renderText "width").length = 7 ∧
      (renderText "height").length = 8 ∧ (renderText "refresh").length = 9 ∧
      (render (.string "configure")).length = 11 := by
    refine ⟨by decide, by decide, by decide, by decide, ?_⟩
    rw [render]
    decide
  have length : (configure width height refresh).encode.length ≤ 4 * (30 + 1) + 2 := by
    refine length_object_le ?_
    simp only [List.forall_mem_cons, names, List.not_mem_nil, false_imp_iff, implies_true]
    have widths := integer width
    have heights := integer height
    have rates := integer refresh
    refine ⟨?_, ?_, ?_, ?_, trivial⟩ <;> omega
  exact Nat.le_trans length (by decide)

end Request

namespace Response

theorem fits_exported (id : UInt32) (count : UInt64) {valid : List Bool}
    (few : valid.length ≤ 4) :
    (exported id count valid).encode.length ≤ Frame.maxPayload := by
  have number : (render (.integer id.toNat)).length ≤ 20 :=
    length_integer_le ⟨0, exact_uint32 0 id⟩
  have counted : (render (.integer count.toNat)).length ≤ 20 :=
    length_integer_le ⟨0, exact_uint64 0 count⟩
  have flags := length_flags_le valid
  have names : (renderText "reply").length = 7 ∧ (renderText "id").length = 4 ∧
      (renderText "count").length = 7 ∧ (renderText "valid").length = 7 ∧
      (render (.string "exported")).length = 10 := by
    refine ⟨by decide, by decide, by decide, by decide, ?_⟩
    rw [render]
    decide
  have length : (exported id count valid).encode.length ≤ 4 * (34 + 1) + 2 := by
    refine length_object_le ?_
    simp only [List.forall_mem_cons, names, List.not_mem_nil, false_imp_iff, implies_true]
    refine ⟨?_, ?_, ?_, ?_, trivial⟩ <;> omega
  exact Nat.le_trans length (by decide)

theorem fits_ofEvent (event : RelayEvent) :
    (ofEvent event).encode.length ≤ Frame.maxPayload := by
  obtain ⟨⟨present, power⟩, state⟩ := event
  cases present <;> cases power <;> cases state <;> decide +kernel

theorem fits_ack (changed : Bool) : (ack (some changed)).encode.length ≤ Frame.maxPayload := by
  cases changed <;> decide +kernel

end Response

end PresentRelay
