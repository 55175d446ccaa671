import Mathlib
import PresentRelay.Json.Tagged

/-!
# Fields and their values

The fields of a message are read off its members, whatever their order: only the values count that
the members of a field's name have.  There is at most one, and it is of the field's type.
-/

set_option autoImplicit false

namespace PresentRelay.Json

theorem bind_eq_ok {α β : Type} {read : Except Fault α} {next : α → Except Fault β} {b : β} :
    read >>= next = .ok b ↔ ∃ a, read = .ok a ∧ next a = .ok b := by
  cases read with
  | error fault => exact ⟨nofun, nofun⟩
  | ok a => exact ⟨fun goes => ⟨a, rfl, goes⟩, fun ⟨_, same, goes⟩ => by cases same; exact goes⟩

theorem map_eq_ok {α β : Type} {read : Except Fault α} {change : α → β} {b : β} :
    read.map change = .ok b ↔ ∃ a, read = .ok a ∧ change a = b := by
  cases read with
  | error fault => exact ⟨nofun, nofun⟩
  | ok a => simp [Except.map]

def valuesOf (members : List (String × Json)) (name : String) : List Json :=
  members.filterMap fun member => if member.1 = name then some member.2 else none

theorem valuesOf_cons_self (name : String) (value : Json) (members : List (String × Json)) :
    valuesOf ((name, value) :: members) name = value :: valuesOf members name := by
  simp [valuesOf]

theorem valuesOf_cons_ne {name other : String} (apart : name ≠ other) (value : Json)
    (members : List (String × Json)) :
    valuesOf ((name, value) :: members) other = valuesOf members other := by
  simp [valuesOf, apart]

theorem valuesOf_filter_ne {name tag : String} (apart : name ≠ tag)
    (members : List (String × Json)) :
    valuesOf (members.filter (·.1 ≠ tag)) name = valuesOf members name := by
  induction members with
  | nil => rfl
  | cons member members ih =>
    obtain ⟨other, value⟩ := member
    by_cases same : other = tag
    · rw [List.filter_cons_of_neg (by simp [same]),
        valuesOf_cons_ne (by rw [same]; exact apart.symm), ih]
    · rw [List.filter_cons_of_pos (by simp [same])]
      by_cases mine : other = name
      · rw [mine, valuesOf_cons_self, valuesOf_cons_self, ih]
      · rw [valuesOf_cons_ne mine, valuesOf_cons_ne mine, ih]

theorem lookup_eq_head? (members : List (String × Json)) (name : String) :
    members.lookup name = (valuesOf members name).head? := by
  induction members with
  | nil => rfl
  | cons member members ih =>
    obtain ⟨other, value⟩ := member
    by_cases same : other = name
    · rw [same, valuesOf_cons_self, List.lookup_cons_self, List.head?_cons]
    · rw [valuesOf_cons_ne same, List.lookup_cons, beq_eq_false_iff_ne.mpr (Ne.symm same)]
      exact ih

/-! ## Fields -/

theorem checkMembers_eq_ok {fields : List (String × (Json → Except Fault Unit))}
    {seen : List String} {members : List (String × Json)} :
    checkMembers fields seen members = .ok () ↔ ∀ name judge, fields.lookup name = some judge →
      (name ∈ seen → valuesOf members name = []) ∧ (valuesOf members name).length ≤ 1 ∧
        ∀ value ∈ valuesOf members name, judge value = .ok () := by
  induction members generalizing seen with
  | nil => simp [checkMembers, valuesOf]
  | cons member members ih =>
    obtain ⟨name, value⟩ := member
    rw [checkMembers]
    cases known : fields.lookup name with
    | none =>
      dsimp only
      rw [ih]
      refine forall₃_congr fun other judge found => ?_
      have apart : name ≠ other := by
        rintro rfl
        rw [known] at found
        cases found
      rw [valuesOf_cons_ne apart]
    | some judge =>
      dsimp only
      split_ifs with twice
      · refine iff_of_false nofun fun all => ?_
        have none := (all name judge known).1 twice
        rw [valuesOf_cons_self] at none
        cases none
      · cases judged : judge value with
        | error fault =>
          refine iff_of_false nofun fun all => ?_
          have good := (all name judge known).2.2 value (by simp [valuesOf_cons_self])
          rw [judged] at good
          cases good
        | ok =>
          dsimp only
          rw [ih]
          refine forall₃_congr fun other checked found => ?_
          by_cases same : name = other
          · subst same
            obtain rfl : judge = checked := Option.some.inj (known.symm.trans found)
            rw [valuesOf_cons_self]
            constructor
            · rintro ⟨only, -, -⟩
              have none := only List.mem_cons_self
              simp [twice, none, judged]
            · rintro ⟨-, single, -⟩
              have none : valuesOf members name = [] :=
                List.length_eq_zero_iff.mp (by simpa using single)
              simp [none]
          · rw [valuesOf_cons_ne same, List.mem_cons]
            simp [Ne.symm same]

namespace Field

variable {α : Type} (field : Field α)

/-- What the values of a field's members come to: there is at most one, and it is of the field's
type. -/
def Reads (values : List Json) (a : α) : Prop :=
  match values with
  | [] => field.absent = some a
  | [value] => field.decode value = .ok a
  | _ => False

def Sound (values : List Json) : Prop :=
  values.length ≤ 1 ∧ ∀ value ∈ values, field.check.2 value = .ok ()

variable {field}

theorem Reads.sound {values : List Json} {a : α} (reads : field.Reads values a) :
    field.Sound values := by
  match values with
  | [] => exact ⟨Nat.zero_le 1, nofun⟩
  | [value] =>
    refine ⟨Nat.le_refl 1, List.forall_mem_singleton.mpr ?_⟩
    have read : field.decode value = .ok a := reads
    simp [check, read, Except.map]
  | _ :: _ :: _ => exact reads.elim

theorem Sound.field_eq_ok {members : List (String × Json)}
    (sound : field.Sound (valuesOf members field.name)) {title : String} {count position : Nat}
    {a : α} :
    Body.field title count position field (.named members) = .ok a ↔
      field.Reads (valuesOf members field.name) a := by
  rw [Body.field, lookup_eq_head?]
  match given : valuesOf members field.name with
  | [] =>
    rw [List.head?_nil, Reads]
    cases field.absent <;> simp
  | [value] => exact Iff.rfl
  | _ :: _ :: _ =>
    rw [given] at sound
    exact absurd sound.1 (by simp)

end Field

theorem lookup_eq_some_iff_mem {β : Type} {entries : List (String × β)}
    (apart : (entries.map Prod.fst).Nodup) {name : String} {entry : β} :
    entries.lookup name = some entry ↔ (name, entry) ∈ entries := by
  induction entries with
  | nil => simp
  | cons first entries ih =>
    obtain ⟨other, value⟩ := first
    obtain ⟨absent, apart⟩ := List.nodup_cons.mp apart
    by_cases same : name = other
    · subst same
      have missing : (name, entry) ∉ entries := by
        intro member
        exact absent (List.mem_map.mpr ⟨_, member, rfl⟩)
      rw [List.lookup_cons_self]
      simp [missing, eq_comm]
    · rw [List.lookup_cons, beq_eq_false_iff_ne.mpr same, List.mem_cons]
      simp [same, ih apart]

namespace Body

variable {α β γ δ : Type} {members : List (String × Json)} {title : String}

theorem check_eq_ok {fields : List (String × (Json → Except Fault Unit))}
    (apart : (fields.map Prod.fst).Nodup) :
    check fields (.named members) = .ok () ↔ ∀ field ∈ fields,
      (valuesOf members field.1).length ≤ 1 ∧
        ∀ value ∈ valuesOf members field.1, field.2 value = .ok () := by
  rw [check, checkMembers_eq_ok]
  constructor
  · rintro all ⟨name, judge⟩ member
    exact (all name judge ((lookup_eq_some_iff_mem apart).mpr member)).2
  · intro all name judge found
    exact ⟨nofun, all (name, judge) ((lookup_eq_some_iff_mem apart).mp found)⟩

theorem empty_eq_ok {value message : α} :
    empty value (.named members) = .ok message ↔ value = message :=
  ⟨Except.ok.inj, congrArg _⟩

theorem single_eq_ok {make : α → β} {first : Field α} {message : β} :
    single title make first (.named members) = .ok message ↔
      ∃ a, first.Reads (valuesOf members first.name) a ∧ make a = message := by
  have checked : check [first.check] (.named members) = .ok () ↔ _ :=
    check_eq_ok (List.nodup_singleton _)
  rw [List.forall_mem_singleton] at checked
  simp only [single, bind_eq_ok]
  constructor
  · rintro ⟨_, sound, a, read, _, -, same⟩
    have sound : first.Sound (valuesOf members first.name) := checked.mp sound
    exact ⟨a, sound.field_eq_ok.mp read, Except.ok.inj same⟩
  · rintro ⟨a, reads, rfl⟩
    have sound := reads.sound
    exact ⟨(), checked.mpr sound, a, sound.field_eq_ok.mpr reads, (), rfl, rfl⟩

theorem triple_eq_ok {make : α → β → γ → δ} {first : Field α} {second : Field β}
    {third : Field γ} (apart : [first.name, second.name, third.name].Nodup) {message : δ} :
    triple title make first second third (.named members) = .ok message ↔
      ∃ a b c, first.Reads (valuesOf members first.name) a ∧
        second.Reads (valuesOf members second.name) b ∧
        third.Reads (valuesOf members third.name) c ∧ make a b c = message := by
  have checked : check [first.check, second.check, third.check] (.named members) = .ok () ↔ _ :=
    check_eq_ok apart
  simp only [List.forall_mem_cons, List.not_mem_nil, false_imp_iff, implies_true, and_true]
    at checked
  simp only [triple, bind_eq_ok]
  constructor
  · rintro ⟨_, sound, a, readFirst, b, readSecond, c, readThird, _, -, same⟩
    obtain ⟨soundFirst, soundSecond, soundThird⟩ : first.Sound _ ∧ second.Sound _ ∧ third.Sound _ :=
      checked.mp sound
    exact ⟨a, b, c, soundFirst.field_eq_ok.mp readFirst, soundSecond.field_eq_ok.mp readSecond,
      soundThird.field_eq_ok.mp readThird, Except.ok.inj same⟩
  · rintro ⟨a, b, c, readsFirst, readsSecond, readsThird, rfl⟩
    have sound := checked.mpr ⟨readsFirst.sound, readsSecond.sound, readsThird.sound⟩
    exact ⟨(), sound, a, readsFirst.sound.field_eq_ok.mpr readsFirst, b,
      readsSecond.sound.field_eq_ok.mpr readsSecond, c,
      readsThird.sound.field_eq_ok.mpr readsThird, (), rfl, rfl⟩

end Body

end PresentRelay.Json
