import PresentRelay.Proofs.Json.Members

/-!
# Objects as messages

A text that is an object is read twice over: as a value, with no message in mind, and as a message
of a family.  Both readers go along the same members with the same bounds, and so the message can
be told from the members of the value: `Family.decode_eq_ok`.
-/

set_option autoImplicit false

namespace PresentRelay.Json

/-! ## Values that are no objects -/

def NotObject (value : Json) : Prop := ∀ members, value ≠ .object members

theorem notObject_signedReal {negative : Bool} {significand : Nat} {exponent : Int} {value : Json}
    (read : signedReal negative significand exponent = .ok value) : NotObject value := by
  obtain ⟨magnitude, -, same⟩ := bind_eq_ok.mp read
  cases same
  simp [NotObject]

theorem notObject_signedInteger {negative : Bool} {magnitude : Nat} {value : Json}
    (read : signedInteger negative magnitude = .ok value) : NotObject value := by
  unfold signedInteger at read
  split_ifs at read
  · cases read
    simp [NotObject]
  · exact notObject_signedReal read
  · cases read
    simp [NotObject]

theorem notObject_completed {given : Except Fault Json} {bytes rest : Bytes} {value : Json}
    (judged : ∀ number, given = .ok number → NotObject number)
    (read : (do return (← given, bytes)) = (.ok (value, rest) : Except Fault (Ahead Json))) :
    NotObject value := by
  obtain ⟨number, same, completed⟩ := bind_eq_ok.mp read
  cases completed
  exact judged value same

theorem notObject_readExponent {negative : Bool} {significand : Nat} {exponent : Int}
    {bytes rest : Bytes} {value : Json}
    (read : readExponent negative significand exponent bytes = .ok (value, rest)) :
    NotObject value := by
  unfold readExponent at read
  dsimp only at read
  split at read
  · cases read
  · split at read
    · exact notObject_completed (fun _ => notObject_signedReal) read
    · cases read

theorem notObject_afterFraction {negative : Bool} {significand : Nat} {exponent : Int}
    {bytes rest : Bytes} {value : Json}
    (read : afterFraction negative significand exponent bytes = .ok (value, rest)) :
    NotObject value := by
  unfold afterFraction at read
  split at read
  · split at read
    · exact notObject_readExponent read
    · exact notObject_completed (fun _ => notObject_signedReal) read
  · exact notObject_completed (fun _ => notObject_signedReal) read

theorem notObject_afterWhole {negative : Bool} {whole bytes rest : Bytes} {value : Json}
    (read : afterWhole negative whole bytes = .ok (value, rest)) : NotObject value := by
  unfold afterWhole at read
  dsimp only at read
  generalize absorb ⟨0, 0⟩ whole = digits at read
  have judged (number : Json)
      (given : (if whole.length - digits.count = 0 then signedInteger negative digits.significand
        else signedReal negative digits.significand (whole.length - digits.count : Nat)) =
          .ok number) : NotObject number := by
    split at given
    · exact notObject_signedInteger given
    · exact notObject_signedReal given
  split at read
  · exact notObject_completed judged read
  · split at read
    · unfold readFraction at read
      split at read
      · cases read
      · split at read
        · exact notObject_afterFraction read
        · cases read
    · split at read
      · exact notObject_readExponent read
      · exact notObject_completed judged read

theorem notObject_readNumber {negative : Bool} {bytes rest : Bytes} {value : Json}
    (read : readNumber negative bytes = .ok (value, rest)) : NotObject value := by
  unfold readNumber at read
  split at read
  · cases read
  · split at read
    · split at read
      · split at read
        · cases read
        · exact notObject_afterWhole read
      · exact notObject_afterWhole read
    · split at read
      · exact notObject_afterWhole read
      · cases read

theorem eq_of_readWord {word bytes rest : Bytes} {value read : Json}
    (given : readWord word value bytes = .ok (read, rest)) : read = value := by
  induction word generalizing bytes with
  | nil =>
    cases given
    rfl
  | cons expected word ih =>
    unfold readWord at given
    cases bytes with
    | nil => cases given
    | cons b bytes =>
      dsimp only at given
      split at given
      · exact ih given
      · cases given

theorem notObject_readHead {bytes rest : Bytes} {value : Json}
    (read : readHead bytes = .ok (.scalar value, rest)) : NotObject value := by
  have scalar {given : Except Fault (Ahead Json)} {wrap : Ahead Json → Ahead Head}
      (wraps : ∀ whole, wrap whole = (.scalar whole.1, whole.2))
      (read : given.map wrap = .ok (.scalar value, rest)) : given = .ok (value, rest) := by
    obtain ⟨whole, same, scalar⟩ := map_eq_ok.mp read
    rw [wraps] at scalar
    cases scalar
    exact same
  unfold readHead at read
  dsimp only at read
  split at read
  · cases read
  · split_ifs at read
    · rw [eq_of_readWord (scalar (fun _ => rfl) read)]
      simp [NotObject]
    · rw [eq_of_readWord (scalar (fun _ => rfl) read)]
      simp [NotObject]
    · rw [eq_of_readWord (scalar (fun _ => rfl) read)]
      simp [NotObject]
    · exact notObject_readNumber (scalar (fun _ => rfl) read)
    · exact notObject_readNumber (scalar (fun _ => rfl) read)
    · obtain ⟨text, -, same⟩ := map_eq_ok.mp (scalar (fun _ => rfl) read)
      cases same
      simp [NotObject]
    all_goals cases read

/-! ## Members -/

theorem readValue_eq_object {depth bound : Nat} {bytes rest : Bytes}
    {members : List (String × Json)}
    (read : readValue depth bound bytes = .ok (.object members, rest)) :
    ∃ inner ahead taken, depth = inner + 1 ∧ readHead bytes = .ok (.openObject, ahead) ∧
      foldMembers (takeMember (readValue inner)) bound true [] ahead = .ok (taken, rest) ∧
      members = taken.reverse := by
  cases depth with
  | zero =>
    rw [readValue] at read
    split at read
    · cases read
    · next scalar =>
      cases read
      exact absurd rfl (notObject_readHead scalar members)
    · cases read
  | succ inner =>
    rw [readValue] at read
    split at read
    · cases read
    · next scalar =>
      cases read
      exact absurd rfl (notObject_readHead scalar members)
    · obtain ⟨_, -, same⟩ := map_eq_ok.mp read
      cases same
    · next ahead opened =>
      obtain ⟨⟨taken, _⟩, folded, same⟩ := map_eq_ok.mp read
      cases same
      exact ⟨inner, ahead, taken, rfl, opened, folded, rfl⟩

theorem takeMember_eq_ok {read : Nat → Bytes → Except Fault (Ahead Json)} {bound : Nat}
    {taken all : List (String × Json)} {name : String} {bytes rest : Bytes} :
    takeMember read bound taken name bytes = .ok (all, rest) ↔ ∃ ahead value,
      readColon bytes = .ok ahead ∧ read bound ahead = .ok (value, rest) ∧
        all = (name, value) :: taken := by
  rw [takeMember]
  cases readColon bytes with
  | error fault => simp
  | ok ahead =>
    dsimp only
    cases given : read bound ahead with
    | error fault => simp [given]
    | ok judged => simp [given, Prod.ext_iff, eq_comm, and_comm]

theorem finish_eq_ok {α : Type} {read : Except Fault (Ahead α)} {value : α} :
    finish read = .ok value ↔ ∃ rest, read = .ok (value, rest) ∧ (skipBlanks rest).isEmpty := by
  cases read with
  | error fault => exact ⟨nofun, nofun⟩
  | ok given =>
    obtain ⟨other, rest⟩ := given
    simp only [finish]
    split_ifs with ends
    · constructor
      · rintro ⟨⟩
        exact ⟨rest, rfl, ends⟩
      · rintro ⟨_, ⟨⟩, -⟩
        rfl
    · refine iff_of_false nofun ?_
      rintro ⟨_, ⟨⟩, good⟩
      exact ends good

namespace Family

variable {κ : Type} {family : Family κ}

/-- The kind that the values of the tag name, to a reader that may have one already. -/
inductive Names (family : Family κ) : Option κ → List Json → Option κ → Prop
  | kept (kind : Option κ) : Names family kind [] kind
  | named {name : String} {kind : κ} (known : family.kinds.lookup name = some kind) :
      Names family none [.string name] (some kind)

theorem names_nil {kind named : Option κ} : family.Names kind [] named ↔ named = kind := by
  constructor
  · rintro ⟨⟩
    rfl
  · rintro rfl
    exact .kept named

theorem names_cons {kind named : Option κ} {value : Json} {values : List Json} :
    family.Names kind (value :: values) named ↔ kind = none ∧ ∃ name known,
      value = .string name ∧ family.kinds.lookup name = some known ∧
        family.Names (some known) values named := by
  constructor
  · rintro ⟨⟩
    next name kind known => exact ⟨rfl, name, kind, rfl, known, .kept _⟩
  · rintro ⟨rfl, name, kind, rfl, known, ⟨⟩⟩
    exact .named known

theorem readHead_of_readValue {depth bound : Nat} {ahead rest : Bytes} {value : Json}
    (read : readValue depth bound ahead = .ok (value, rest)) :
    readHead ahead = .ok (.scalar value, rest) ∨
      (∀ text, value ≠ .string text) ∧ ∃ head start, readHead ahead = .ok (head, start) ∧
        ∀ scalar, head ≠ .scalar scalar := by
  cases depth with
  | zero =>
    rw [readValue] at read
    split at read
    · cases read
    · next scalar =>
      cases read
      exact .inl scalar
    · cases read
  | succ depth =>
    rw [readValue] at read
    split at read
    · cases read
    · next scalar =>
      cases read
      exact .inl scalar
    · next opened =>
      obtain ⟨_, -, same⟩ := map_eq_ok.mp read
      cases same
      exact .inr ⟨nofun, _, _, opened, nofun⟩
    · next opened =>
      obtain ⟨_, -, same⟩ := map_eq_ok.mp read
      cases same
      exact .inr ⟨nofun, _, _, opened, nofun⟩

theorem kindOf_eq_ok {head : Head} {kind : κ} :
    family.kindOf head = .ok kind ↔
      ∃ name, head = .scalar (.string name) ∧ family.kinds.lookup name = some kind := by
  unfold kindOf
  split
  · next name =>
    cases known : family.kinds.lookup name with
    | none => simp [known]
    | some other => simp [known]
  · next other =>
    refine iff_of_false nofun ?_
    rintro ⟨name, same, -⟩
    exact other name same

theorem readKind_eq_ok {depth bound : Nat} {ahead rest after : Bytes} {value : Json} {kind : κ}
    (read : readValue depth bound ahead = .ok (value, rest)) :
    family.readKind ahead = .ok (kind, after) ↔ after = rest ∧ ∃ name,
      value = .string name ∧ family.kinds.lookup name = some kind := by
  have judged (head : Head) (start : Bytes) (given : readHead ahead = .ok (head, start)) :
      family.readKind ahead = .ok (kind, after) ↔
        family.kindOf head = .ok kind ∧ after = start := by
    rw [readKind, given]
    dsimp only
    cases family.kindOf head with
    | error fault => simp
    | ok other => simp [eq_comm]
  obtain scalar | ⟨noText, head, start, container, apart⟩ := readHead_of_readValue read
  · rw [judged _ _ scalar, kindOf_eq_ok]
    simp [and_comm]
  · rw [judged _ _ container, kindOf_eq_ok]
    simp [noText, apart]

theorem readMember_eq_ok {bound : Nat} {others : List (String × Json)} {name : String}
    {value : Json} {bytes rest after : Bytes} {kind : Option κ} {taken : List (String × Json)}
    {state : Option κ × List (String × Json)}
    (took : takeMember (readValue innerDepth) bound others name bytes =
      .ok ((name, value) :: others, rest)) :
    family.readMember bound (kind, taken) name bytes = .ok (state, after) ↔ after = rest ∧
      if name = family.tag then
        kind = none ∧ ∃ text known, value = .string text ∧
          family.kinds.lookup text = some known ∧ state = (some known, taken)
      else state = (kind, (name, value) :: taken) := by
  obtain ⟨ahead, _, colon, read, same⟩ := takeMember_eq_ok.mp took
  cases same
  rw [readMember]
  split_ifs with tag held
  · obtain ⟨known, rfl⟩ := Option.isSome_iff_exists.mp held
    simp
  · obtain rfl : kind = none := by simpa using held
    rw [colon]
    dsimp only
    cases judged : family.readKind ahead with
    | error fault =>
      refine iff_of_false nofun ?_
      rintro ⟨rfl, -, text, known, rfl, found, -⟩
      have good : family.readKind ahead = .ok (known, after) :=
        (readKind_eq_ok read).mpr ⟨rfl, text, rfl, found⟩
      rw [judged] at good
      cases good
    | ok given =>
      obtain ⟨known, start⟩ := given
      obtain ⟨rfl, text, rfl, found⟩ := (readKind_eq_ok read).mp judged
      simp [found, eq_comm, and_comm]
  · have fields : takeMember (readValue innerDepth) bound taken name bytes =
        .ok ((name, value) :: taken, rest) := takeMember_eq_ok.mpr ⟨ahead, value, colon, read, rfl⟩
    rw [fields]
    simp [eq_comm, and_comm]

theorem names_some {values : List Json} {kind : κ} :
    family.Names none values (some kind) ↔
      ∃ name, values = [.string name] ∧ family.kinds.lookup name = some kind := by
  constructor
  · rintro ⟨⟩
    next name known => exact ⟨name, rfl, known⟩
  · rintro ⟨name, rfl, known⟩
    exact .named known

theorem foldMembers_succ_eq_ok {σ : Type}
    {read : Nat → σ → String → Bytes → Except Fault (Ahead σ)} {bound : Nat} {first : Bool}
    {state last : σ} {bytes rest : Bytes} :
    foldMembers read (bound + 1) first state bytes = .ok (last, rest) ↔
      (nextMember first bytes = .ok (.done rest) ∧ last = state) ∨
        ∃ name ahead between start, nextMember first bytes = .ok (.member name ahead) ∧
          read bound state name ahead = .ok (between, start) ∧
            foldMembers read bound false between start = .ok (last, rest) := by
  rw [foldMembers]
  cases nextMember first bytes with
  | error fault => simp
  | ok next =>
    cases next with
    | done after => simp [eq_comm, and_comm]
    | member name ahead =>
      dsimp only
      cases given : read bound state name ahead with
      | error fault => simp [given]
      | ok judged => simp [given, Prod.ext_iff]

theorem foldMembers_eq_ok (family : Family κ) {bound : Nat} {first : Bool}
    {bytes rest : Bytes} {others all : List (String × Json)}
    (folded : foldMembers (takeMember (readValue innerDepth)) bound first others bytes =
      .ok (all, rest)) :
    ∃ members, all = members.reverse ++ others ∧
      ∀ (kind named : Option κ) (taken fields : List (String × Json)) (after : Bytes),
        foldMembers family.readMember bound first (kind, taken) bytes =
            .ok ((named, fields), after) ↔
          after = rest ∧ fields = (members.filter (·.1 ≠ family.tag)).reverse ++ taken ∧
            family.Names kind (valuesOf members family.tag) named := by
  induction bound generalizing first bytes others with
  | zero => cases folded
  | succ bound ih =>
    obtain ⟨done, rfl⟩ | ⟨name, ahead, between, start, next, took, folded⟩ :=
      foldMembers_succ_eq_ok.mp folded
    · refine ⟨[], rfl, fun kind named taken fields after => ?_⟩
      rw [foldMembers_succ_eq_ok, done]
      simp [names_nil, valuesOf, eq_comm, and_comm]
    · obtain ⟨_, value, -, -, rfl⟩ := takeMember_eq_ok.mp took
      obtain ⟨members, rfl, reads⟩ := ih folded
      refine ⟨(name, value) :: members, by simp, fun kind named taken fields after => ?_⟩
      rw [foldMembers_succ_eq_ok, next]
      simp only [Except.ok.injEq, NextMember.member.injEq, reduceCtorEq, false_and, false_or]
      constructor
      · rintro ⟨_, _, ⟨between, held⟩, _, ⟨rfl, rfl⟩, member, more⟩
        obtain ⟨rfl, stored⟩ := (readMember_eq_ok took).mp member
        obtain ⟨rfl, rfl, names⟩ := (reads _ _ _ _ _).mp more
        split_ifs at stored with tag
        · obtain ⟨rfl, text, known, rfl, found, same⟩ := stored
          cases same
          refine ⟨rfl, by simp [tag], ?_⟩
          rw [tag, valuesOf_cons_self, names_cons]
          exact ⟨rfl, text, known, rfl, found, names⟩
        · cases stored
          refine ⟨rfl, by simp [tag], ?_⟩
          rwa [valuesOf_cons_ne tag]
      · rintro ⟨rfl, rfl, names⟩
        by_cases tag : name = family.tag
        · rw [tag, valuesOf_cons_self, names_cons] at names
          obtain ⟨rfl, text, known, rfl, found, names⟩ := names
          refine ⟨_, _, (some known, taken), start, ⟨rfl, rfl⟩, (readMember_eq_ok took).mpr ?_,
            (reads (some known) _ taken _ _).mpr ⟨rfl, by simp [tag], names⟩⟩
          rw [if_pos tag]
          exact ⟨rfl, rfl, text, known, rfl, found, rfl⟩
        · rw [valuesOf_cons_ne tag] at names
          refine ⟨_, _, (kind, (name, value) :: taken), start, ⟨rfl, rfl⟩,
            (readMember_eq_ok took).mpr ?_,
            (reads kind _ ((name, value) :: taken) _ _).mpr ⟨rfl, by simp [tag], names⟩⟩
          rw [if_neg tag]
          exact ⟨rfl, rfl⟩

/-- A text that is an object is read as the object's members are, whatever their order: the tag
names a kind, once, and the other members are the fields of that kind. -/
theorem decode_eq_ok {μ : Type} {ofBody : κ → Body → Except Fault μ} {text : Bytes}
    {members : List (String × Json)} (parsed : Json.decode text = .ok (.object members))
    {message : μ} :
    family.decode ofBody text = .ok message ↔ ∃ name kind,
      valuesOf members family.tag = [.string name] ∧ family.kinds.lookup name = some kind ∧
        ofBody kind (.named (members.filter (·.1 ≠ family.tag))) = .ok message := by
  obtain ⟨rest, read, ends⟩ := finish_eq_ok.mp parsed
  obtain ⟨inner, ahead, taken, depth, opened, folded, rfl⟩ := readValue_eq_object read
  obtain rfl : inner = innerDepth := by
    cases depth
    rfl
  obtain ⟨members, rfl, reads⟩ := foldMembers_eq_ok family folded
  rw [List.append_nil, List.reverse_reverse, Family.decode, finish_eq_ok, readTagged, opened]
  dsimp only
  constructor
  · rintro ⟨after, given, -⟩
    cases fold : foldMembers family.readMember text.length true (none, []) ahead with
    | error fault =>
      rw [fold] at given
      cases given
    | ok result =>
      obtain ⟨⟨_ | kind, fields⟩, start⟩ := result
      · rw [fold] at given
        cases given
      · obtain ⟨rfl, rfl, names⟩ := (reads _ _ _ _ _).mp fold
        obtain ⟨name, tag, known⟩ := names_some.mp names
        refine ⟨name, kind, tag, known, ?_⟩
        rw [fold] at given
        dsimp only at given
        rw [List.append_nil, List.reverse_reverse] at given
        cases body : ofBody kind (.named (members.filter (·.1 ≠ family.tag))) with
        | error fault =>
          rw [body] at given
          cases given
        | ok message =>
          rw [body] at given
          cases given
          rfl
  · rintro ⟨name, kind, tag, known, body⟩
    have names := names_some.mpr ⟨name, tag, known⟩
    have fold := (reads none (some kind) [] _ rest).mpr ⟨rfl, rfl, names⟩
    refine ⟨rest, ?_, ends⟩
    rw [fold]
    dsimp only
    rw [List.append_nil, List.reverse_reverse, body]

end Family

end PresentRelay.Json
