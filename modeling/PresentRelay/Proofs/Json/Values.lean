import PresentRelay.Proofs.Json.Numbers
import PresentRelay.Proofs.Json.Texts

/-!
# Values read back

A value without reals, whose integers fit 64 bits, is read back from its text:
`readValue_render`, by induction on how deep its containers nest.  Items and members are
read one after the other, by induction on the list of them.
-/

set_option autoImplicit false

namespace PresentRelay.Json

/-- Values that their text gives back, with containers at most `depth` deep. -/
def Exact : (depth : Nat) → Json → Prop
  | _, .null | _, .bool _ | _, .string _ => True
  | _, .integer n => -0x8000000000000000 ≤ n ∧ n < UInt64.size
  | _, .real _ => False
  | 0, .array _ | 0, .object _ => False
  | depth + 1, .array items => ∀ item ∈ items, Exact depth item
  | depth + 1, .object members => ∀ member ∈ members, Exact depth member.2

/-! ## Where values start -/

theorem skipBlanks_cons {b : UInt8} (solid : isBlankByte b = false) (rest : Bytes) :
    skipBlanks (b :: rest) = b :: rest :=
  List.dropWhile_cons_of_neg (by simp [solid])

/-- Where an item can start: not with a blank, nor with the end of an array. -/
def StartsItem (bytes : Bytes) : Prop :=
  ∃ b rest, bytes = b :: rest ∧ isBlankByte b = false ∧ b ≠ 0x5D

theorem isBlankByte_of_isDigitByte {b : UInt8} (digit : isDigitByte b = true) :
    isBlankByte b = false := by
  have space : b ≠ 0x20 := ne_of_isDigitByte digit (by decide)
  have line : b ≠ 0x0A := ne_of_isDigitByte digit (by decide)
  have tab : b ≠ 0x09 := ne_of_isDigitByte digit (by decide)
  have carriage : b ≠ 0x0D := ne_of_isDigitByte digit (by decide)
  simp [isBlankByte, space, line, tab, carriage]

theorem startsItem_decimal (n : Nat) : StartsItem (decimal n) := by
  obtain ⟨b, rest, digits, digit⟩ := decimal_eq_cons n
  exact ⟨b, rest, digits, isBlankByte_of_isDigitByte digit, ne_of_isDigitByte digit (by decide)⟩

theorem startsItem_render {depth : Nat} {value : Json} (exact : Exact depth value) :
    StartsItem (render value) := by
  cases value with
  | null => exact ⟨0x6E, [0x75, 0x6C, 0x6C], by rw [render]; decide, by decide, by decide⟩
  | bool value =>
    cases value with
    | false =>
      exact ⟨0x66, [0x61, 0x6C, 0x73, 0x65], by rw [render]; decide, by decide, by decide⟩
    | true => exact ⟨0x74, [0x72, 0x75, 0x65], by rw [render]; decide, by decide, by decide⟩
  | integer n =>
    rw [render]
    cases n with
    | ofNat n => exact startsItem_decimal n
    | negSucc n => exact ⟨0x2D, _, rfl, by decide, by decide⟩
  | real value => cases depth <;> exact exact.elim
  | string value => rw [render]; exact ⟨0x22, _, rfl, by decide, by decide⟩
  | array items => rw [render]; exact ⟨0x5B, _, rfl, by decide, by decide⟩
  | object members => rw [render]; exact ⟨0x7B, _, rfl, by decide, by decide⟩

theorem StartsItem.length_pos {bytes : Bytes} (starts : StartsItem bytes) : 0 < bytes.length := by
  obtain ⟨b, rest, rfl, -, -⟩ := starts
  exact Nat.succ_pos _

theorem StartsItem.append {bytes : Bytes} (starts : StartsItem bytes) (rest : Bytes) :
    StartsItem (bytes ++ rest) := by
  obtain ⟨b, others, rfl, solid, other⟩ := starts
  exact ⟨b, others ++ rest, rfl, solid, other⟩

/-! ## Scalars -/

theorem readHead_digits {n : Nat} {rest : Bytes}
    (number : readNumber false (decimal n ++ rest) = .ok (.integer n, rest)) :
    readHead (decimal n ++ rest) = .ok (.scalar (.integer n), rest) := by
  obtain ⟨b, others, digits, digit⟩ := decimal_eq_cons n
  have other : ∀ byte, isDigitByte byte = false → b ≠ byte := fun _ => ne_of_isDigitByte digit
  rw [digits, List.cons_append] at number ⊢
  rw [readHead, skipBlanks_cons (isBlankByte_of_isDigitByte digit)]
  simp only [other 0x6E (by decide), other 0x74 (by decide), other 0x66 (by decide),
    other 0x2D (by decide), digit, number, if_false, if_true]
  rfl

theorem readHead_scalar {value : Json} (exact : Exact 0 value) {rest : Bytes}
    (ends : EndsNumber rest) : readHead (render value ++ rest) = .ok (.scalar value, rest) := by
  cases value with
  | null =>
    have text : render .null = [0x6E, 0x75, 0x6C, 0x6C] := by rw [render]; decide
    rw [text]
    rfl
  | bool value =>
    cases value with
    | false =>
      have text : render (.bool false) = [0x66, 0x61, 0x6C, 0x73, 0x65] := by
        rw [render]; decide
      rw [text]
      rfl
    | true =>
      have text : render (.bool true) = [0x74, 0x72, 0x75, 0x65] := by rw [render]; decide
      rw [text]
      rfl
  | integer n =>
    obtain ⟨low, high⟩ := exact
    rw [render]
    cases n with
    | ofNat n =>
      have fits : n < UInt64.size := Int.ofNat_lt.mp high
      exact readHead_digits (readNumber_decimal fits ends)
    | negSucc n =>
      have fits : n + 1 ≤ 0x8000000000000000 := by omega
      have number := readNumber_minus (Nat.succ_pos n) fits ends
      rw [signedDecimal, List.cons_append, readHead, skipBlanks_cons (by decide)]
      simp only [number]
      rfl
  | real value => exact exact.elim
  | string value =>
    rw [render, renderText_append]
    have quote : skipBlanks (0x22 :: ((Bytes.ofText value).flatMap escapeByte ++ 0x22 :: rest)) =
        0x22 :: ((Bytes.ofText value).flatMap escapeByte ++ 0x22 :: rest) :=
      skipBlanks_cons (by decide) _
    unfold readHead
    rw [quote]
    simp [readText_escaped, Except.map, isDigitByte]
  | array items => exact exact.elim
  | object members => exact exact.elim

theorem readHead_openArray (rest : Bytes) : readHead (0x5B :: rest) = .ok (.openArray, rest) := rfl

theorem readHead_openObject (rest : Bytes) :
    readHead (0x7B :: rest) = .ok (.openObject, rest) := rfl

/-! ## Items and members -/

/-- A reader gives a value back from its text, whatever follows, if its bound allows for the
text. -/
def GivesBack (read : Nat → Bytes → Except Fault (Ahead Json)) (value : Json) : Prop :=
  ∀ bound rest, (render value).length ≤ bound → EndsNumber rest →
    read bound (render value ++ rest) = .ok (value, rest)

theorem commaSeparated_cons (piece : Bytes) (pieces : List Bytes) :
    commaSeparated (piece :: pieces) = piece ++ pieces.flatMap (0x2C :: ·) := by
  induction pieces generalizing piece with
  | nil => simp [commaSeparated]
  | cons second others ih =>
    have more := ih second
    simp only [commaSeparated, List.intercalate_cons_cons, List.flatMap_cons] at more ⊢
    rw [more]
    simp

theorem endsNumber_commas (pieces : List Bytes) {last : UInt8} (rest : Bytes)
    (ends : isDigitByte last = false ∧ last ≠ 0x2E ∧ isExponentByte last = false) :
    EndsNumber (pieces.flatMap (0x2C :: ·) ++ last :: rest) := by
  cases pieces with
  | nil => exact endsNumber_cons ends
  | cons piece pieces => exact endsNumber_cons (by decide)

theorem nextItem_first {bytes : Bytes} (starts : StartsItem bytes) :
    nextItem true bytes = .ok (.item bytes) := by
  obtain ⟨b, rest, rfl, solid, other⟩ := starts
  rw [nextItem, skipBlanks_cons solid]
  simp [other]

theorem nextItem_comma {bytes : Bytes} (starts : StartsItem bytes) :
    nextItem false (0x2C :: bytes) = .ok (.item bytes) := by
  obtain ⟨b, rest, rfl, solid, other⟩ := starts
  rw [nextItem, skipBlanks_cons (by decide)]
  simp [skipBlanks_cons solid, other]

theorem nextItem_bracket (first : Bool) (rest : Bytes) :
    nextItem first (0x5D :: rest) = .ok (.done rest) := by
  cases first <;> rfl

/-! ## Items -/

variable {item : Nat → Bytes → Except Fault (Ahead Json)}

theorem readItems_item {first : Bool} {taken : List Json} {bytes rest : Bytes} {bound : Nat}
    {value : Json} (next : nextItem first bytes = .ok (.item (render value ++ rest)))
    (read : item bound (render value ++ rest) = .ok (value, rest)) :
    readItems item (bound + 1) first taken bytes =
      readItems item bound false (value :: taken) rest := by
  rw [readItems, next]
  dsimp only
  rw [read]

theorem readItems_more {items : List Json} (back : ∀ value ∈ items, GivesBack item value)
    (starts : ∀ value ∈ items, StartsItem (render value)) (bound : Nat)
    (enough : ((items.map render).flatMap (0x2C :: ·)).length < bound) (taken : List Json)
    (rest : Bytes) :
    readItems item bound false taken ((items.map render).flatMap (0x2C :: ·) ++ 0x5D :: rest) =
      .ok (taken.reverse ++ items, rest) := by
  induction items generalizing bound taken with
  | nil =>
    obtain _ | bound := bound
    · cases enough
    · rw [readItems, List.map_nil, List.flatMap_nil, List.nil_append, nextItem_bracket,
        List.append_nil]
  | cons value others ih =>
    obtain _ | bound := bound
    · cases enough
    · simp only [List.map_cons, List.flatMap_cons, List.length_append, List.length_cons] at enough
      let after := (others.map render).flatMap (0x2C :: ·) ++ 0x5D :: rest
      have read := back value List.mem_cons_self bound after (by omega)
        (endsNumber_commas _ rest (by decide))
      have next : nextItem false (0x2C :: (render value ++ after)) = _ :=
        nextItem_comma ((starts value List.mem_cons_self).append after)
      have more := ih (fun value member => back value (List.mem_cons_of_mem _ member))
        (fun value member => starts value (List.mem_cons_of_mem _ member))
        bound (by omega) (value :: taken)
      simp only [List.map_cons, List.flatMap_cons, List.cons_append, List.append_assoc]
      rw [readItems_item next read, more, List.reverse_cons, List.append_assoc,
        List.singleton_append]

theorem readItems_render {items : List Json} (back : ∀ value ∈ items, GivesBack item value)
    (starts : ∀ value ∈ items, StartsItem (render value)) {bound : Nat}
    (enough : (commaSeparated (items.map render)).length < bound) (rest : Bytes) :
    readItems item bound true [] (commaSeparated (items.map render) ++ 0x5D :: rest) =
      .ok (items, rest) := by
  obtain _ | bound := bound
  · cases enough
  · cases items with
    | nil =>
      rw [readItems, List.map_nil, commaSeparated, List.intercalate_nil, List.nil_append,
        nextItem_bracket]
      rfl
    | cons value others =>
      have some := (starts value List.mem_cons_self).length_pos
      rw [List.map_cons, commaSeparated_cons, List.length_append] at enough
      let after := (others.map render).flatMap (0x2C :: ·) ++ 0x5D :: rest
      have read := back value List.mem_cons_self bound after (by omega)
        (endsNumber_commas _ rest (by decide))
      have next := nextItem_first ((starts value List.mem_cons_self).append after)
      have more := readItems_more (fun value member => back value (List.mem_cons_of_mem _ member))
        (fun value member => starts value (List.mem_cons_of_mem _ member))
        bound (by omega) [value] rest
      rw [List.map_cons, commaSeparated_cons, List.append_assoc, readItems_item next read, more]
      rfl

/-! ## Members -/

def memberText (member : String × Json) : Bytes :=
  renderText member.1 ++ 0x3A :: render member.2

theorem memberText_append (member : String × Json) (rest : Bytes) :
    memberText member ++ rest = 0x22 :: ((Bytes.ofText member.1).flatMap escapeByte ++
      0x22 :: 0x3A :: (render member.2 ++ rest)) := by
  rw [memberText, List.append_assoc, renderText_append, List.cons_append]

theorem nextMember_first (member : String × Json) (rest : Bytes) :
    nextMember true (memberText member ++ rest) =
      .ok (.member member.1 (0x3A :: (render member.2 ++ rest))) := by
  rw [memberText_append, nextMember, skipBlanks_cons (by decide)]
  simp [readText_escaped, Except.map]

theorem nextMember_comma (member : String × Json) (rest : Bytes) :
    nextMember false (0x2C :: (memberText member ++ rest)) =
      .ok (.member member.1 (0x3A :: (render member.2 ++ rest))) := by
  rw [memberText_append, nextMember, skipBlanks_cons (by decide)]
  simp [skipBlanks_cons, isBlankByte, readText_escaped, Except.map]

theorem nextMember_brace (first : Bool) (rest : Bytes) :
    nextMember first (0x7D :: rest) = .ok (.done rest) := by
  cases first <;> rfl

variable {σ : Type} {read : Nat → σ → String → Bytes → Except Fault (Ahead σ)}

/-- A reader of members takes the value of a member into its state, whatever follows, if its
bound allows for the text. -/
def Takes (read : Nat → σ → String → Bytes → Except Fault (Ahead σ)) (member : String × Json)
    (state next : σ) : Prop :=
  ∀ bound rest, (render member.2).length ≤ bound → EndsNumber rest →
    read bound state member.1 (0x3A :: (render member.2 ++ rest)) = .ok (next, rest)

theorem foldMembers_member {first : Bool} {state next : σ} {bytes rest : Bytes} {bound : Nat}
    {member : String × Json} (takes : Takes read member state next)
    (enough : (render member.2).length ≤ bound) (ends : EndsNumber rest)
    (named : nextMember first bytes =
      .ok (.member member.1 (0x3A :: (render member.2 ++ rest)))) :
    foldMembers read (bound + 1) first state bytes = foldMembers read bound false next rest := by
  rw [foldMembers, named]
  dsimp only
  rw [takes bound rest enough ends]

theorem length_memberText (member : String × Json) :
    (render member.2).length < (memberText member).length := by
  simp only [memberText, List.length_append, List.length_cons]
  omega

theorem foldMembers_more {step : σ → String × Json → σ} {members : List (String × Json)}
    (takes : ∀ member ∈ members, ∀ state, Takes read member state (step state member))
    (bound : Nat) (enough : ((members.map memberText).flatMap (0x2C :: ·)).length < bound)
    (state : σ) (rest : Bytes) :
    foldMembers read bound false state
        ((members.map memberText).flatMap (0x2C :: ·) ++ 0x7D :: rest) =
      .ok (members.foldl step state, rest) := by
  induction members generalizing bound state with
  | nil =>
    obtain _ | bound := bound
    · cases enough
    · rw [foldMembers, List.map_nil, List.flatMap_nil, List.nil_append, nextMember_brace]
      rfl
  | cons member others ih =>
    obtain _ | bound := bound
    · cases enough
    · have short := length_memberText member
      simp only [List.map_cons, List.flatMap_cons, List.length_append, List.length_cons] at enough
      have more := ih (fun member other => takes member (List.mem_cons_of_mem _ other))
        bound (by omega) (step state member)
      simp only [List.map_cons, List.flatMap_cons, List.cons_append, List.append_assoc]
      rw [foldMembers_member (takes member List.mem_cons_self state) (by omega)
        (endsNumber_commas _ rest (by decide)) (nextMember_comma member _), more]
      rfl

theorem foldMembers_render {step : σ → String × Json → σ} {first : String × Json}
    {others : List (String × Json)} {state next : σ} (starts : Takes read first state next)
    (takes : ∀ member ∈ others, ∀ state, Takes read member state (step state member))
    {bound : Nat} (enough : (commaSeparated ((first :: others).map memberText)).length < bound)
    (rest : Bytes) :
    foldMembers read bound true state
        (commaSeparated ((first :: others).map memberText) ++ 0x7D :: rest) =
      .ok (others.foldl step next, rest) := by
  obtain _ | bound := bound
  · cases enough
  · have short := length_memberText first
    rw [List.map_cons, commaSeparated_cons, List.length_append] at enough
    rw [List.map_cons, commaSeparated_cons, List.append_assoc,
      foldMembers_member starts (by omega) (endsNumber_commas _ rest (by decide))
        (nextMember_first first _),
      foldMembers_more takes bound (by omega)]

/-! ## Values -/

theorem takeMember_render {value : Nat → Bytes → Except Fault (Ahead Json)}
    {member : String × Json} (back : GivesBack value member.2) (taken : List (String × Json)) :
    Takes (takeMember value) member taken (member :: taken) := by
  intro bound rest enough ends
  have colon : readColon (0x3A :: (render member.2 ++ rest)) = .ok (render member.2 ++ rest) := rfl
  rw [takeMember, colon]
  dsimp only
  rw [back bound rest enough ends]

theorem readValue_scalar {value : Json} (exact : Exact 0 value) (depth bound : Nat)
    {rest : Bytes} (ends : EndsNumber rest) :
    readValue depth bound (render value ++ rest) = .ok (value, rest) := by
  cases depth <;> rw [readValue, readHead_scalar exact ends]

theorem readValue_render {depth : Nat} {value : Json} (exact : Exact depth value) :
    GivesBack (readValue depth) value := by
  induction depth generalizing value with
  | zero =>
    intro bound rest enough ends
    exact readValue_scalar exact 0 bound ends
  | succ depth ih =>
    intro bound rest enough ends
    cases value with
    | null | bool value | string value | integer n =>
      refine readValue_scalar ?_ _ bound ends
      exact exact
    | real value => exact exact.elim
    | array items =>
      have back : ∀ value ∈ items, GivesBack (readValue depth) value :=
        fun value member => ih (exact value member)
      have starts : ∀ value ∈ items, StartsItem (render value) :=
        fun value member => startsItem_render (exact value member)
      rw [render] at enough ⊢
      simp only [List.cons_append, List.length_cons, List.length_append, List.append_assoc]
        at enough ⊢
      rw [readValue, readHead_openArray]
      dsimp only
      rw [List.nil_append, readItems_render back starts (by omega)]
      rfl
    | object members =>
      have back : ∀ member ∈ members, GivesBack (readValue depth) member.2 :=
        fun member inside => ih (exact member inside)
      have text : (Json.object members).render =
          0x7B :: commaSeparated (members.map memberText) ++ [0x7D] := by rw [render]; rfl
      rw [text] at enough ⊢
      simp only [List.cons_append, List.length_cons, List.length_append, List.append_assoc]
        at enough ⊢
      rw [readValue, readHead_openObject]
      dsimp only
      rw [List.nil_append]
      cases members with
      | nil =>
        obtain _ | bound := bound
        · cases enough
        · rfl
      | cons first others =>
        have taken := takeMember_render (back first List.mem_cons_self) []
        rw [foldMembers_render taken
          (fun member inside state =>
            takeMember_render (back member (List.mem_cons_of_mem _ inside)) state)
          (by omega)]
        simp [Except.map]

/-- A document that was written from a value is read as that value. -/
theorem decode_render {value : Json} (exact : Exact maxDepth value) :
    decode (render value) = .ok value := by
  have read := readValue_render exact (render value).length [] (Nat.le_refl _) endsNumber_nil
  rw [List.append_nil] at read
  rw [decode, read]
  rfl

end PresentRelay.Json
