import Mathlib
import PresentRelay.Proofs.Json.Values
import PresentRelay.Wire.Request
import PresentRelay.Wire.Response

/-!
# Messages read back

A message is written as an object that starts with its tag.  `Family.decode_render` says for
every family of messages how such an object is read; with what each field is read as, every
request and every response is read back from its text.
-/

set_option autoImplicit false

namespace PresentRelay

namespace Json

/-! ## Fields -/

theorem exact_int32 (depth : Nat) (n : Int32) : Exact depth (.integer n.toInt) := by
  have low := n.le_toInt
  have high := n.toInt_lt
  cases depth <;> exact ⟨by omega, Int.lt_of_lt_of_le high (by decide)⟩

theorem exact_nat {n : Nat} (depth : Nat) (fits : n < UInt64.size) :
    Exact depth (.integer n) := by
  cases depth <;> exact ⟨by omega, Int.ofNat_lt.mpr fits⟩

theorem exact_uint32 (depth : Nat) (n : UInt32) : Exact depth (.integer n.toNat) :=
  exact_nat depth (Nat.lt_trans n.toNat_lt_size (by decide))

theorem exact_uint64 (depth : Nat) (n : UInt64) : Exact depth (.integer n.toNat) :=
  exact_nat depth n.toNat_lt_size

theorem exact_text (depth : Nat) (text : String) : Exact depth (.string text) := by
  cases depth <;> trivial

theorem exact_bool (depth : Nat) (value : Bool) : Exact depth (.bool value) := by
  cases depth <;> trivial

theorem exact_array {α : Type} {write : α → Json} {depth : Nat}
    (exact : ∀ a, Exact depth (write a)) (items : List α) :
    Exact (depth + 1) (.array (items.map write)) := by
  intro item member
  obtain ⟨a, -, rfl⟩ := List.mem_map.mp member
  exact exact a

theorem exact_option {α : Type} {write : α → Json} {depth : Nat}
    (exact : ∀ a, Exact depth (write a)) (value : Option α) :
    Exact depth ((value.map write).getD .null) := by
  cases value with
  | none => cases depth <;> trivial
  | some a => exact exact a

theorem toInt32_integer (n : Int32) : toInt32 (.integer n.toInt) = .ok n := by
  have within : Int32.minValue.toInt ≤ n.toInt ∧ n.toInt ≤ Int32.maxValue.toInt :=
    ⟨n.minValue_le_toInt, n.toInt_le⟩
  rw [toInt32, integerWithin, if_pos within]
  simp [Except.map]

theorem toUInt32_integer (n : UInt32) : toUInt32 (.integer n.toNat) = .ok n := by
  have small := n.toNat_lt_size
  have within : (0 : Int) ≤ n.toNat ∧ (n.toNat : Int) ≤ UInt32.size - 1 := by omega
  rw [toUInt32, integerWithin, if_pos within]
  simp [Except.map]

theorem toUInt64_integer (expected : String) (n : UInt64) :
    toUInt64 expected (.integer n.toNat) = .ok n := by
  have small := n.toNat_lt_size
  have within : (0 : Int) ≤ n.toNat ∧ (n.toNat : Int) ≤ UInt64.size - 1 := by omega
  rw [toUInt64, integerWithin, if_pos within]
  simp [Except.map]

theorem toList_array {α : Type} {read : Json → Except Fault α} {write : α → Json}
    (back : ∀ a, read (write a) = .ok a) (items : List α) :
    toList read (.array (items.map write)) = .ok items := by
  rw [toList]
  induction items with
  | nil => rfl
  | cons a others ih =>
    rw [List.map_cons, List.mapM_cons, back, ih]
    rfl

theorem toOption_written {α : Type} {read : Json → Except Fault α} {write : α → Json}
    (back : ∀ a, read (write a) = .ok a) (some : ∀ a, write a ≠ .null) (value : Option α) :
    toOption read ((value.map write).getD .null) = .ok value := by
  cases value with
  | none => rfl
  | some a => simp [toOption, some a, back a, Except.map]

/-! ## Bodies -/

namespace Body

variable {α β γ δ : Type}

theorem single_named (title : String) (make : α → β) (first : Field α) {value : Json} {a : α}
    (read : first.decode value = .ok a) :
    single title make first (.named [(first.name, value)]) = .ok (make a) := by
  simp [single, check, checkMembers, Field.check, field, close, read, bind, Except.bind,
    Except.map, pure, Except.pure]

theorem pair_named (title : String) (make : α → β → γ) (first : Field α) (second : Field β)
    (values : Json × Json) {a : α} {b : β} (apart : second.name ≠ first.name)
    (readFirst : first.decode values.1 = .ok a) (readSecond : second.decode values.2 = .ok b) :
    pair title make first second
        (.named [(first.name, values.1), (second.name, values.2)]) = .ok (make a b) := by
  have names : (second.name == first.name) = false := beq_eq_false_iff_ne.mpr apart
  simp [pair, check, checkMembers, Field.check, field, close, List.lookup_cons, names, apart,
    readFirst, readSecond, bind, Except.bind, Except.map, pure, Except.pure]

theorem triple_named (title : String) (make : α → β → γ → δ) (first : Field α)
    (second : Field β) (third : Field γ) (values : Json × Json × Json) {a : α} {b : β} {c : γ}
    (apart : [first.name, second.name, third.name].Nodup)
    (readFirst : first.decode values.1 = .ok a) (readSecond : second.decode values.2.1 = .ok b)
    (readThird : third.decode values.2.2 = .ok c) :
    triple title make first second third
        (.named [(first.name, values.1), (second.name, values.2.1), (third.name, values.2.2)]) =
      .ok (make a b c) := by
  simp only [List.nodup_cons, List.mem_cons, List.not_mem_nil, or_false, not_or] at apart
  obtain ⟨⟨firstSecond, firstThird⟩, secondThird, -⟩ := apart
  have secondFirst : (second.name == first.name) = false :=
    beq_eq_false_iff_ne.mpr (Ne.symm firstSecond)
  have thirdFirst : (third.name == first.name) = false :=
    beq_eq_false_iff_ne.mpr (Ne.symm firstThird)
  have thirdSecond : (third.name == second.name) = false :=
    beq_eq_false_iff_ne.mpr (Ne.symm secondThird)
  simp [triple, check, checkMembers, Field.check, field, close, List.lookup_cons, secondFirst,
    thirdFirst, thirdSecond, Ne.symm firstSecond, Ne.symm firstThird, Ne.symm secondThird,
    readFirst, readSecond, readThird, bind, Except.bind, Except.map, pure, Except.pure]

end Body

/-! ## Families -/

namespace Family

open Body

variable {κ μ : Type} (family : Family κ)

theorem takes_tag {name : String} {kind : κ} (known : family.kinds.lookup name = some kind) :
    Takes family.readMember (family.tag, .string name) (none, []) (some kind, []) := by
  intro bound rest enough ends
  have colon : readColon (0x3A :: (render (.string name) ++ rest)) =
      .ok (render (.string name) ++ rest) := rfl
  have head : readHead (render (.string name) ++ rest) = .ok (.scalar (.string name), rest) := by
    refine readHead_scalar ?_ ends
    exact trivial
  have named : family.readKind (render (.string name) ++ rest) = .ok (kind, rest) := by
    rw [readKind, head]
    simp only [kindOf, known]
  rw [readMember, if_pos rfl, colon]
  simp only [Option.isSome_none, Bool.false_eq_true, if_false, named]

theorem takes_field {member : String × Json} (field : member.1 ≠ family.tag)
    (exact : Exact innerDepth member.2) (state : Option κ × List (String × Json)) :
    Takes family.readMember member state (state.1, member :: state.2) := by
  intro bound rest enough ends
  have taken := takeMember_render (readValue_render exact) state.2 bound rest enough ends
  rw [readMember, if_neg field, taken]

theorem foldl_fields (kind : Option κ) (members taken : List (String × Json)) :
    members.foldl (fun state member => (state.1, member :: state.2)) (kind, taken) =
      (kind, members.reverse ++ taken) := by
  induction members generalizing taken with
  | nil => rfl
  | cons member others ih =>
    rw [List.foldl_cons, ih, List.reverse_cons, List.append_assoc, List.singleton_append]

/-- An object that names a kind by its tag is read as the message of that kind that its other
members make up. -/
theorem decode_render {ofBody : κ → Body → Except Fault μ} {name : String} (kind : κ)
    {members : List (String × Json)} {message : μ}
    (known : family.kinds.lookup name = some kind)
    (fields : ∀ member ∈ members, member.1 ≠ family.tag ∧ Exact innerDepth member.2)
    (made : ofBody kind (.named members) = .ok message) :
    family.decode ofBody (render (.object ((family.tag, .string name) :: members))) =
      .ok message := by
  have text : render (.object ((family.tag, .string name) :: members)) = 0x7B ::
      (commaSeparated (((family.tag, .string name) :: members).map memberText) ++ [0x7D]) := by
    rw [render]
    rfl
  rw [text]
  have tagged : family.readTagged (0x7B ::
      (commaSeparated (((family.tag, .string name) :: members).map memberText) ++ [0x7D])) =
      .ok ((kind, .named members), []) := by
    rw [readTagged, readHead_openObject]
    dsimp only
    rw [foldMembers_render (family.takes_tag known)
      (fun member inside state =>
        family.takes_field (fields member inside).1 (fields member inside).2 state)
      (by rw [List.length_cons, List.length_append]; omega), foldl_fields]
    simp
  rw [decode, tagged]
  dsimp only
  rw [made]
  rfl

theorem decode_single {α : Type} {ofBody : κ → Body → Except Fault μ} {name title : String}
    (kind : κ) (first : Field α) {make : α → μ} {value : Json} {a : α}
    (known : family.kinds.lookup name = some kind) (made : ofBody kind = single title make first)
    (apart : first.name ≠ family.tag) (exact : Exact innerDepth value)
    (read : first.decode value = .ok a) :
    family.decode ofBody (render (.object [(family.tag, .string name), (first.name, value)])) =
      .ok (make a) := by
  refine family.decode_render kind known ?_ ?_
  · intro member inside
    obtain rfl := List.mem_singleton.mp inside
    exact ⟨apart, exact⟩
  · rw [made]
    exact single_named title make first read

end Family

end Json

/-! ## Requests and responses -/

namespace Request

theorem decode_encode (request : Request) : decode request.encode = .ok request := by
  have absent (n : UInt32) : value32 n ≠ .null := nofun
  cases request with
  | configure width height refresh =>
    refine family.decode_render .configure rfl ?_ ?_
    · simp [family, Json.exact_int32]
    · exact Json.Body.triple_named _ configure (.required "width" Json.toInt32)
        (.required "height" Json.toInt32) (.required "refresh" Json.toInt32)
        (.integer width.toInt, .integer height.toInt, .integer refresh.toInt) (by decide)
        (Json.toInt32_integer width) (Json.toInt32_integer height) (Json.toInt32_integer refresh)
  | wait => exact family.decode_render .wait rfl nofun rfl
  | exportFrame => exact family.decode_render .exportFrame rfl nofun rfl
  | registerBuffer => exact family.decode_render .registerBuffer rfl nofun rfl
  | releaseHandle handle =>
    exact family.decode_single .releaseHandle (number "handle") rfl rfl (by decide)
      (Json.exact_uint32 _ handle) (Json.toUInt32_integer handle)
  | addFramebuffer handles =>
    exact family.decode_single .addFramebuffer (.required "handles" (Json.toList Json.toUInt32))
      rfl rfl (by decide) (Json.exact_array (Json.exact_uint32 _) handles)
      (Json.toList_array Json.toUInt32_integer handles)
  | removeFramebuffer id =>
    exact family.decode_single .removeFramebuffer (number "id") rfl rfl (by decide)
      (Json.exact_uint32 _ id) (Json.toUInt32_integer id)
  | pageFlip id =>
    exact family.decode_single .pageFlip (number "id") rfl rfl (by decide)
      (Json.exact_uint32 _ id) (Json.toUInt32_integer id)
  | setCrtc id =>
    exact family.decode_single .setCrtc (.optional "id" Json.toUInt32) rfl rfl (by decide)
      (Json.exact_option (Json.exact_uint32 _) id)
      (Json.toOption_written Json.toUInt32_integer absent id)
  | waitVblank after =>
    exact family.decode_single .waitVblank (.optional "sequence" (Json.toUInt64 "u64")) rfl rfl
      (by decide) (Json.exact_option (Json.exact_uint64 _) after)
      (Json.toOption_written (Json.toUInt64_integer "u64") (fun _ => nofun) after)

end Request

namespace Response

theorem toPower_name (power : Power) : toPower (.string power.name) = .ok power := by
  rw [toPower, powerOfName, Power.ofName?_name]

theorem decode_encode (response : Response) : decode response.encode = .ok response := by
  have toBool_bool (value : Bool) : Json.toBool (.bool value) = .ok value := rfl
  cases response with
  | ack changed =>
    cases changed with
    | none => exact family.decode_render .ack rfl nofun rfl
    | some changed =>
      exact family.decode_single .ack (.defaulted "changed" Json.toBool) rfl rfl (by decide)
        (Json.exact_bool _ changed) rfl
  | event flags power =>
    refine family.decode_render .event rfl ?_ ?_
    · simp [family, Json.exact_uint32, Json.exact_text]
    · exact Json.Body.pair_named _ event (.required "flags" Json.toUInt32)
        (.required "power" toPower) (.integer flags.toNat, .string power.name) (by decide)
        (Json.toUInt32_integer flags) (toPower_name power)
  | exported id count valid =>
    have exact_valid : Json.Exact Json.Family.innerDepth (.array (valid.map .bool)) :=
      Json.exact_array (Json.exact_bool _) valid
    refine family.decode_render .exported rfl ?_ ?_
    · simp [family, Json.exact_uint32, Json.exact_uint64, exact_valid]
    · exact Json.Body.triple_named _ exported (.required "id" Json.toUInt32)
        (.required "count" (Json.toUInt64 "usize")) (.required "valid" (Json.toList Json.toBool))
        (.integer id.toNat, .integer count.toNat, .array (valid.map .bool)) (by decide)
        (Json.toUInt32_integer id) (Json.toUInt64_integer "usize" count)
        (Json.toList_array toBool_bool valid)
  | handle handle =>
    exact family.decode_single .handle (.required "handle" Json.toUInt32) rfl rfl (by decide)
      (Json.exact_uint32 _ handle) (Json.toUInt32_integer handle)
  | framebuffer id =>
    exact family.decode_single .framebuffer (.required "id" Json.toUInt32) rfl rfl (by decide)
      (Json.exact_uint32 _ id) (Json.toUInt32_integer id)
  | vblank sequence =>
    exact family.decode_single .vblank (.required "sequence" (Json.toUInt64 "u64")) rfl rfl
      (by decide) (Json.exact_uint64 _ sequence) (Json.toUInt64_integer "u64" sequence)
  | error kind message =>
    refine family.decode_render .error rfl ?_ ?_
    · simp [family, Json.exact_text]
    · exact Json.Body.pair_named _ error (.required "kind" Json.toText)
        (.required "message" Json.toText) (.string kind, .string message) (by decide) rfl rfl

end Response

/-- Every message is read back from its text as it was.  So the message of any text, whatever
blanks, escapes, member order or further members that text has, survives being written anew. -/
theorem messages_read_back :
    (∀ request : Request, Request.decode request.encode = .ok request) ∧
    (∀ response : Response, Response.decode response.encode = .ok response) ∧
    (∀ (text : Bytes) (request : Request), Request.decode text = .ok request →
      Request.decode request.encode = Request.decode text) ∧
    (∀ (text : Bytes) (response : Response), Response.decode text = .ok response →
      Response.decode response.encode = Response.decode text) := by
  refine ⟨Request.decode_encode, Response.decode_encode, ?_, ?_⟩
  · intro text request read
    rw [read, Request.decode_encode]
  · intro text response read
    rw [read, Response.decode_encode]

/-- A request with blanks, and a response in another order with an escape and a member that
means nothing, are both written anew and read again. -/
theorem messages_read_back_from_texts :
    Request.decode Request.wait.encode =
      Request.decode (Bytes.ofText "\x7b \"cmd\" : \"wait\" \x7d") ∧
    Response.decode (Response.error "io" "é\n").encode =
      Response.decode (Bytes.ofText
        "\x7b\"message\": \"\\u00e9\\n\", \"reply\": \"error\", \"x\": [], \"kind\": \"io\"\x7d") :=
  ⟨messages_read_back.2.2.1 _ _ (by cbv), messages_read_back.2.2.2 _ _ (by cbv)⟩

end PresentRelay
