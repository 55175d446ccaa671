import PresentRelay.Json.Skip

/-!
# Documents with a fixed set of entries

A record is an object whose members are its entries, in any order, or an array of
the entries by position.  It is read from left to right into a value that starts
with the defaults; each entry is judged where it stands.  A member of another
name is passed over, and no entry may occur twice.
-/

set_option autoImplicit false

namespace PresentRelay.Json

/-- An entry of a record: how its value is read into the record. -/
structure Entry (ρ : Type) where
  name : String
  read : ρ → Bytes → Except Fault (Ahead ρ)

def Entry.scalar {ρ α : Type} (name expected : String) (decode : Json → Except Fault α)
    (store : ρ → α → ρ) : Entry ρ :=
  ⟨name, fun state bytes =>
    match readHead bytes with
    | .error fault => .error fault
    | .ok (.scalar value, rest) => (decode value).map fun a => (store state a, rest)
    | .ok (other, _) => .error (.invalidType other.found expected)⟩

/-! ## Choices -/

def readChoiceName (bytes : Bytes) : Except Fault (Ahead String) :=
  match skipBlanks bytes with
  | [] => fail .endInValue
  | b :: rest =>
    if b = 0x22 then readText rest
    else if b = 0x7D then fail .expectedValue
    else fail .keyNotString

/-- Reads one of several names: a text, or an object with the name as its only
member and null as its value. -/
def readChoice {κ : Type} (kinds : List (String × κ)) (bytes : Bytes) : Except Fault (Ahead κ) :=
  let named (name : String) : Except Fault κ :=
    match kinds.lookup name with
    | some kind => .ok kind
    | none => .error (.unknownVariant name (kinds.map Prod.fst))
  match skipBlanks bytes with
  | [] => fail .endInValue
  | b :: rest =>
    if b = 0x22 then do
      let (name, rest) ← readText rest
      return (← named name, rest)
    else if b = 0x7B then do
      let (name, ahead) ← readChoiceName rest
      let kind ← named name
      match ← readHead (← readColon ahead) with
      | (.scalar .null, ahead) =>
        match skipBlanks ahead with
        | [] => fail .endInObject
        | b :: rest => if b = 0x7D then return (kind, rest) else fail .expectedValue
      | (other, _) => .error (.invalidType other.found "unit")
    else fail .expectedValue

def Entry.choice {ρ κ : Type} (name : String) (kinds : List (String × κ)) (store : ρ → κ → ρ) :
    Entry ρ :=
  ⟨name, fun state bytes =>
    (readChoice kinds bytes).map fun (kind, rest) => (store state kind, rest)⟩

/-! ## Records -/

structure Layout (ρ : Type) where
  title : String
  entries : List (Entry ρ)
  /-- Whether an entry keeps its default when it is left out. -/
  defaulted : Bool

namespace Layout

variable {ρ : Type} (layout : Layout ρ)

def readMember (_ : Nat) (state : ρ × List String) (name : String) (bytes : Bytes) :
    Except Fault (Ahead (ρ × List String)) :=
  match layout.entries.find? (fun entry => entry.name == name) with
  | none => (readColon bytes >>= skipValue).map fun rest => (state, rest)
  | some entry =>
    if name ∈ state.2 then .error (.duplicateField name)
    else
      match readColon bytes with
      | .error fault => .error fault
      | .ok ahead =>
        (entry.read state.1 ahead).map fun (value, rest) => ((value, name :: state.2), rest)

def missing? (seen : List String) : Option String :=
  if layout.defaulted then none
  else (layout.entries.map Entry.name).find? fun name => decide (name ∉ seen)

def closeArray (bytes : Bytes) : Except Fault Bytes :=
  match skipBlanks bytes with
  | [] => fail .endInArray
  | b :: rest =>
    if b = 0x5D then .ok rest
    else if b = 0x2C ∧ (skipBlanks rest).head? = some 0x5D then fail .trailingComma
    else fail .trailingCharacters

def readItems (position : Nat) (state : ρ) : List (Entry ρ) → Bytes → Except Fault (Ahead ρ)
  | [], bytes => (closeArray bytes).map fun rest => (state, rest)
  | entry :: entries, bytes =>
    match nextItem (position == 0) bytes with
    | .error fault => .error fault
    | .ok (.done rest) =>
      if layout.defaulted then .ok (state, rest)
      else .error (.invalidLength position
        (layout.title ++ " with " ++ toString layout.entries.length ++ " elements"))
    | .ok (.item ahead) =>
      match entry.read state ahead with
      | .error fault => .error fault
      | .ok (state, rest) => readItems (position + 1) state entries rest

def read (start : ρ) (bytes : Bytes) : Except Fault (Ahead ρ) :=
  match readHead bytes with
  | .error fault => .error fault
  | .ok (.scalar value, _) => value.unexpected layout.title
  | .ok (.openArray, rest) => layout.readItems 0 start layout.entries rest
  | .ok (.openObject, rest) =>
    match foldMembers layout.readMember bytes.length true (start, []) rest with
    | .error fault => .error fault
    | .ok ((state, seen), rest) =>
      match layout.missing? seen with
      | some name => .error (.missingField name)
      | none => .ok (state, rest)

def decode (start : ρ) (bytes : Bytes) : Except Fault ρ := finish (layout.read start bytes)

/-- An entry that is itself a record, read into nothing. -/
def entry {σ : Type} (name : String) (start : ρ) (store : σ → ρ → σ) : Entry σ :=
  ⟨name, fun state bytes =>
    (layout.read start bytes).map fun (value, rest) => (store state value, rest)⟩

end Layout

end PresentRelay.Json
