import PresentRelay.Proofs.Json.Objects
import PresentRelay.Proofs.Wire.Messages

/-!
# The grammar of requests

`Request.Spelled` says which values the members of an object must have to stand for a request,
with no mention of a reader.  An object is decoded as a request exactly if its tag is the name of
the request, once, and its members spell it.
-/

set_option autoImplicit false

namespace PresentRelay

namespace Json

/-! ## Numbers -/

theorem integerWithin_eq_ok {low high n : Int} {expected : String} {value : Json} :
    value.integerWithin low high expected = .ok n ↔
      value = .integer n ∧ low ≤ n ∧ n ≤ high := by
  cases value with
  | integer m =>
    rw [integerWithin]
    split_ifs with within
    · constructor
      · rintro ⟨⟩
        exact ⟨rfl, within⟩
      · rintro ⟨⟨⟩, -⟩
        rfl
    · refine iff_of_false (by simp) ?_
      rintro ⟨⟨⟩, inside⟩
      exact within inside
  | _ => simp [integerWithin, unexpected]

theorem toInt32_eq_ok {value : Json} {n : Int32} :
    toInt32 value = .ok n ↔ value = .integer n.toInt := by
  constructor
  · intro read
    obtain ⟨m, within, rfl⟩ := map_eq_ok.mp read
    obtain ⟨rfl, low, high⟩ := integerWithin_eq_ok.mp within
    rw [Int32.toInt_ofInt_of_le low (by have : Int32.maxValue.toInt = 2147483647 := rfl; omega)]
  · rintro rfl
    exact toInt32_integer n

theorem toUInt32_eq_ok {value : Json} {n : UInt32} :
    toUInt32 value = .ok n ↔ value = .integer n.toNat := by
  constructor
  · intro read
    obtain ⟨m, within, rfl⟩ := map_eq_ok.mp read
    obtain ⟨rfl, low, high⟩ := integerWithin_eq_ok.mp within
    rw [UInt32.toNat_ofNat_of_lt' (by omega), Int.toNat_of_nonneg low]
  · rintro rfl
    exact toUInt32_integer n

theorem toUInt64_eq_ok {expected : String} {value : Json} {n : UInt64} :
    toUInt64 expected value = .ok n ↔ value = .integer n.toNat := by
  constructor
  · intro read
    obtain ⟨m, within, rfl⟩ := map_eq_ok.mp read
    obtain ⟨rfl, low, high⟩ := integerWithin_eq_ok.mp within
    rw [UInt64.toNat_ofNat_of_lt' (by omega), Int.toNat_of_nonneg low]
  · rintro rfl
    exact toUInt64_integer expected n

section

variable {α : Type} {read : Json → Except Fault α} {write : α → Json}

theorem toList_eq_ok (each : ∀ value a, read value = .ok a ↔ value = write a) {value : Json}
    {list : List α} : toList read value = .ok list ↔ value = .array (list.map write) := by
  cases value with
  | array items =>
    rw [toList, array.injEq]
    induction items generalizing list with
    | nil =>
      rw [List.mapM_nil, List.nil_eq, List.map_eq_nil_iff]
      exact ⟨fun same => (Except.ok.inj same).symm, fun same => congrArg _ same.symm⟩
    | cons item items ih =>
      rw [List.mapM_cons, bind_eq_ok]
      constructor
      · rintro ⟨a, first, rest⟩
        obtain ⟨others, more, same⟩ := bind_eq_ok.mp rest
        cases same
        rw [List.map_cons, ← (each item a).mp first, ← ih.mp more]
      · intro same
        cases list with
        | nil => cases same
        | cons a others =>
          obtain ⟨first, rest⟩ := List.cons.inj same
          exact ⟨a, (each item a).mpr first, bind_eq_ok.mpr ⟨others, ih.mpr rest, rfl⟩⟩
  | _ => simp [toList, unexpected]

@[simp] theorem Field.required_name (name : String) : (required name read).name = name := rfl

@[simp] theorem Field.optional_name (name : String) : (optional name read).name = name := rfl

theorem required_reads (each : ∀ value a, read value = .ok a ↔ value = write a) {name : String}
    {values : List Json} {a : α} :
    (Field.required name read).Reads values a ↔ values = [write a] := by
  match values with
  | [] => exact iff_of_false nofun nofun
  | [value] => rw [List.singleton_inj]; exact each value a
  | _ :: _ :: _ => exact iff_of_false nofun nofun

theorem toOption_eq_ok (each : ∀ value a, read value = .ok a ↔ value = write a)
    (solid : ∀ a, write a ≠ .null) {value : Json} {o : Option α} :
    toOption read value = .ok o ↔ value = (o.map write).getD .null := by
  cases o with
  | none =>
    cases value with
    | null => exact ⟨fun _ => rfl, fun _ => rfl⟩
    | _ =>
      refine iff_of_false (fun given => ?_) nofun
      obtain ⟨_, -, same⟩ := map_eq_ok.mp given
      cases same
  | some a =>
    rw [Option.map_some, Option.getD_some]
    cases value with
    | null => exact iff_of_false nofun (solid a).symm
    | _ =>
      rw [← each]
      exact map_eq_ok.trans (by simp)

/-- An optional field is left out or null, or of its type. -/
def Leaves (write : α → Json) (o : Option α) (values : List Json) : Prop :=
  match o with
  | none => values = [] ∨ values = [.null]
  | some a => values = [write a]

theorem Leaves.perm {o : Option α} {values others : List Json} (leaves : Leaves write o values)
    (same : others.Perm values) : Leaves write o others := by
  cases o with
  | none =>
    obtain rfl | rfl := leaves
    · exact .inl same.eq_nil
    · exact .inr (List.perm_singleton.mp same)
  | some a =>
    obtain rfl : values = [write a] := leaves
    exact List.perm_singleton.mp same

theorem optional_reads (each : ∀ value a, read value = .ok a ↔ value = write a)
    (solid : ∀ a, write a ≠ .null) {name : String} {values : List Json} {o : Option α} :
    (Field.optional name read).Reads values o ↔ Leaves write o values := by
  match values with
  | [] => cases o <;> simp [Field.Reads, Field.optional, Leaves]
  | [value] =>
    refine (toOption_eq_ok each solid).trans ?_
    cases o <;> simp [Leaves]
  | _ :: _ :: _ => cases o <;> simp [Field.Reads, Leaves]

end

end Json

open Json (valuesOf Leaves)

/-! ## Requests -/

namespace Request

def name : Request → String
  | .configure .. => "configure"
  | .wait => "wait"
  | .exportFrame => "export"
  | .registerBuffer => "register_external_buffer"
  | .releaseHandle _ => "release_handle"
  | .addFramebuffer _ => "add_framebuffer"
  | .removeFramebuffer _ => "remove_framebuffer"
  | .pageFlip _ => "page_flip"
  | .setCrtc _ => "set_crtc"
  | .waitVblank _ => "wait_vblank"

def fields : Request → List String
  | .configure .. => ["width", "height", "refresh"]
  | .wait | .exportFrame | .registerBuffer => []
  | .releaseHandle _ => ["handle"]
  | .addFramebuffer _ => ["handles"]
  | .removeFramebuffer _ | .pageFlip _ | .setCrtc _ => ["id"]
  | .waitVblank _ => ["sequence"]

/-- Whether the values that the members of each name have are the fields of a request. -/
def Spelled (values : String → List Json) : Request → Prop
  | .configure width height refresh =>
    values "width" = [.integer width.toInt] ∧ values "height" = [.integer height.toInt] ∧
      values "refresh" = [.integer refresh.toInt]
  | .wait | .exportFrame | .registerBuffer => True
  | .releaseHandle handle => values "handle" = [.integer handle.toNat]
  | .addFramebuffer handles =>
    values "handles" = [.array (handles.map fun handle => .integer handle.toNat)]
  | .removeFramebuffer id | .pageFlip id => values "id" = [.integer id.toNat]
  | .setCrtc id => Leaves (fun n : UInt32 => .integer n.toNat) id (values "id")
  | .waitVblank after => Leaves (fun n : UInt64 => .integer n.toNat) after (values "sequence")

def kind : Request → Kind
  | .configure .. => .configure
  | .wait => .wait
  | .exportFrame => .exportFrame
  | .registerBuffer => .registerBuffer
  | .releaseHandle _ => .releaseHandle
  | .addFramebuffer _ => .addFramebuffer
  | .removeFramebuffer _ => .removeFramebuffer
  | .pageFlip _ => .pageFlip
  | .setCrtc _ => .setCrtc
  | .waitVblank _ => .waitVblank

theorem lookup_kind {name : String} {request : Request} :
    family.kinds.lookup name = some request.kind ↔ name = request.name := by
  rw [Json.lookup_eq_some_iff_mem (by decide)]
  cases request <;> simp [family, kind, Request.name]

theorem ofBody_eq_ok {kind : Kind} {members : List (String × Json)} {request : Request} :
    ofBody kind (.named members) = .ok request ↔
      request.kind = kind ∧ request.Spelled (valuesOf members) := by
  cases kind with
  | configure =>
    refine (Json.Body.triple_eq_ok (by decide)).trans ?_
    simp only [Json.required_reads fun _ _ => Json.toInt32_eq_ok, Json.Field.required_name]
    cases request <;> simp [Request.kind, Spelled]
  | wait | exportFrame | registerBuffer =>
    refine Json.Body.empty_eq_ok.trans ?_
    cases request <;> simp [Request.kind, Spelled]
  | releaseHandle | removeFramebuffer | pageFlip =>
    refine Json.Body.single_eq_ok.trans ?_
    simp only [number, Json.required_reads fun _ _ => Json.toUInt32_eq_ok, Json.Field.required_name]
    cases request <;> simp [Request.kind, Spelled]
  | addFramebuffer =>
    refine Json.Body.single_eq_ok.trans ?_
    simp only [Json.required_reads fun _ _ => Json.toList_eq_ok fun _ _ => Json.toUInt32_eq_ok,
      Json.Field.required_name]
    cases request <;> simp [Request.kind, Spelled]
  | setCrtc =>
    refine Json.Body.single_eq_ok.trans ?_
    simp only [Json.optional_reads (fun _ _ => Json.toUInt32_eq_ok) fun _ => nofun,
      Json.Field.optional_name]
    cases request <;> simp [Request.kind, Spelled]
  | waitVblank =>
    refine Json.Body.single_eq_ok.trans ?_
    simp only [Json.optional_reads (fun _ _ => Json.toUInt64_eq_ok) fun _ => nofun,
      Json.Field.optional_name]
    cases request <;> simp [Request.kind, Spelled]

/-- Only the values of a request's own fields count, not how they are ordered. -/
theorem Spelled.perm {request : Request} {values others : String → List Json}
    (spelled : request.Spelled values)
    (same : ∀ name ∈ request.fields, (others name).Perm (values name)) :
    request.Spelled others := by
  have single {name : String} {value : Json} (field : name ∈ request.fields)
      (only : values name = [value]) : others name = [value] :=
    List.perm_singleton.mp (only ▸ same name field)
  cases request with
  | configure width height refresh =>
    obtain ⟨widths, heights, refreshes⟩ := spelled
    exact ⟨single (by simp [fields]) widths, single (by simp [fields]) heights,
      single (by simp [fields]) refreshes⟩
  | wait | exportFrame | registerBuffer => trivial
  | releaseHandle | addFramebuffer | removeFramebuffer | pageFlip =>
    exact single (by simp [fields]) spelled
  | setCrtc | waitVblank => exact Json.Leaves.perm spelled (same _ (by simp [fields]))

/-- No field of a request is repeated, and none is a number with a fraction or an exponent. -/
theorem Spelled.integers {request : Request} {values : String → List Json}
    (spelled : request.Spelled values) {name : String} (field : name ∈ request.fields) :
    (values name).length ≤ 1 ∧ ∀ x, .real x ∉ values name := by
  have single {value : Json} (solid : ∀ x, value ≠ .real x) (only : values name = [value]) :
      (values name).length ≤ 1 ∧ ∀ x, .real x ∉ values name := by
    rw [only]
    exact ⟨Nat.le_refl 1, fun x member => solid x (List.mem_singleton.mp member).symm⟩
  have leaves {α : Type} {write : α → Json} (solid : ∀ a x, write a ≠ .real x) {o : Option α}
      (given : Leaves write o (values name)) :
      (values name).length ≤ 1 ∧ ∀ x, .real x ∉ values name := by
    cases o with
    | none =>
      obtain none | null := given
      · simp [none]
      · exact single (by simp) null
    | some a => exact single (solid a) given
  cases request with
  | configure width height refresh =>
    obtain ⟨widths, heights, refreshes⟩ := spelled
    simp only [fields, List.mem_cons, List.not_mem_nil, or_false] at field
    obtain rfl | rfl | rfl := field
    · exact single (by simp) widths
    · exact single (by simp) heights
    · exact single (by simp) refreshes
  | wait | exportFrame | registerBuffer => cases field
  | releaseHandle | addFramebuffer | removeFramebuffer | pageFlip =>
    obtain rfl := List.mem_singleton.mp field
    exact single (by simp) spelled
  | setCrtc | waitVblank =>
    obtain rfl := List.mem_singleton.mp field
    exact leaves (by simp) spelled

theorem decode_eq_ok {text : Bytes} {members : List (String × Json)}
    (parsed : Json.decode text = .ok (.object members)) {request : Request} :
    decode text = .ok request ↔ valuesOf members "cmd" = [.string request.name] ∧
      request.Spelled (valuesOf members) := by
  have fields {request : Request} :
      request.Spelled (valuesOf (members.filter (·.1 ≠ family.tag))) ↔
        request.Spelled (valuesOf members) := by
    have same (name : String) (field : name ∈ request.fields) :
        valuesOf (members.filter (·.1 ≠ family.tag)) name = valuesOf members name := by
      refine Json.valuesOf_filter_ne ?_ members
      rintro rfl
      cases request <;> simp [Request.fields, family] at field
    exact ⟨fun spelled => spelled.perm fun name field => .of_eq (same name field).symm,
      fun spelled => spelled.perm fun name field => .of_eq (same name field)⟩
  rw [decode, Json.Family.decode_eq_ok parsed]
  simp only [ofBody_eq_ok, fields]
  constructor
  · rintro ⟨name, _, tag, known, rfl, spelled⟩
    rw [lookup_kind.mp known] at tag
    exact ⟨tag, spelled⟩
  · rintro ⟨tag, spelled⟩
    exact ⟨_, _, tag, lookup_kind.mpr rfl, rfl, spelled⟩

/-- An object is decoded as a request exactly if its tag is the name of the request, once, and the
members of each of the request's fields are as `Spelled` says.  So no field of a decoded request is
repeated or a number other than an integer, and an object whose members agree with these, in
whatever order and with whatever others between them, is decoded alike. -/
theorem decoded_iff_spelled {text : Bytes} {members : List (String × Json)}
    (parsed : Json.decode text = .ok (.object members)) :
    (∀ request, decode text = .ok request ↔
      valuesOf members "cmd" = [.string request.name] ∧ request.Spelled (valuesOf members)) ∧
    (∀ request, decode text = .ok request → ∀ name ∈ "cmd" :: request.fields,
      (valuesOf members name).length ≤ 1 ∧ ∀ x, .real x ∉ valuesOf members name) ∧
    ∀ other others, Json.decode other = .ok (.object others) →
      ∀ request, (∀ name ∈ "cmd" :: request.fields,
          (valuesOf others name).Perm (valuesOf members name)) →
        (decode other = .ok request ↔ decode text = .ok request) := by
  refine ⟨fun request => decode_eq_ok parsed, fun request read name known => ?_, ?_⟩
  · obtain ⟨tag, spelled⟩ := (decode_eq_ok parsed).mp read
    obtain rfl | field := List.mem_cons.mp known
    · simp [tag]
    · exact spelled.integers field
  · intro other others parsedOther request same
    obtain ⟨sameTag, sameFields⟩ := List.forall_mem_cons.mp same
    rw [decode_eq_ok parsed, decode_eq_ok parsedOther]
    constructor
    · rintro ⟨tag, spelled⟩
      exact ⟨List.perm_singleton.mp (tag ▸ sameTag.symm),
        spelled.perm fun name field => (sameFields name field).symm⟩
    · rintro ⟨tag, spelled⟩
      exact ⟨List.perm_singleton.mp (tag ▸ sameTag), spelled.perm sameFields⟩

/-- The order of the members and one that means nothing make no difference; a number that is too
large for its field does. -/
theorem decoded_iff_spelled_any_order :
    let text := Bytes.ofText "\x7b\"id\": 7, \"x\": [true], \"cmd\": \"set_crtc\"\x7d"
    let other := Bytes.ofText "\x7b\"cmd\": \"set_crtc\", \"id\": 7\x7d"
    let large := Bytes.ofText "\x7b\"cmd\": \"page_flip\", \"id\": 4294967296\x7d"
    decode text = .ok (.setCrtc (some 7)) ∧ decode other = .ok (.setCrtc (some 7)) ∧
      ∀ request, decode large ≠ .ok request := by
  intro text other large
  have parsed : Json.decode text = .ok (.object
      [("id", .integer 7), ("x", .array [.bool true]), ("cmd", .string "set_crtc")]) := by
    simp only [text]
    cbv
  have parsedOther : Json.decode other =
      .ok (.object [("cmd", .string "set_crtc"), ("id", .integer 7)]) := by
    simp only [other]
    cbv
  have parsedLarge : Json.decode large =
      .ok (.object [("cmd", .string "page_flip"), ("id", .integer 4294967296)]) := by
    simp only [large]
    cbv
  obtain ⟨reads, -, alike⟩ := decoded_iff_spelled parsed
  have first := (reads (.setCrtc (some 7))).mpr ⟨rfl, rfl⟩
  refine ⟨first, (alike _ _ parsedOther _ ?_).mpr first, fun request read => ?_⟩
  · simp [fields, valuesOf]
  · obtain ⟨tag, spelled⟩ := ((decoded_iff_spelled parsedLarge).1 request).mp read
    cases request <;> simp [name, valuesOf, Spelled] at tag spelled
    next id =>
      have small : id.toNat < 4294967296 := id.toNat_lt_size
      omega

end Request

end PresentRelay
