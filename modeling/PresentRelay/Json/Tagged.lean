import PresentRelay.Json.Reader

/-!
# Documents that name their kind

A message is an object in which one member, the tag, names the kind of message
and the others are its fields, in any order; or an array that starts with the
tag and goes on with the fields by position.

The tag is judged as soon as it is read.  The fields are judged after the whole
container was read, in the order of the document, and members of other names are
passed over.
-/

set_option autoImplicit false

namespace PresentRelay.Json

/-- The part of a message that holds its fields. -/
inductive Body where
  | named (members : List (String × Json))
  | positional (items : List Json)

/-- The kinds of a family of messages: the family's title, the name of the tag,
and the kinds by name. -/
structure Family (κ : Type) where
  title : String
  tag : String
  kinds : List (String × κ)

structure Field (α : Type) where
  name : String
  decode : Json → Except Fault α
  /-- What the field is when no member has its name. -/
  absent : Option α
  /-- What the field is when the items end before its position. -/
  beyond : Option α

namespace Field

def required {α : Type} (name : String) (decode : Json → Except Fault α) : Field α :=
  ⟨name, decode, none, none⟩

/-- A field that may be null, and that no member need name. -/
def optional {α : Type} (name : String) (decode : Json → Except Fault α) : Field (Option α) :=
  ⟨name, toOption decode, some none, none⟩

/-- A field that may be null or left out in both forms. -/
def defaulted {α : Type} (name : String) (decode : Json → Except Fault α) : Field (Option α) :=
  ⟨name, toOption decode, some none, some none⟩

def check {α : Type} (field : Field α) : String × (Json → Except Fault Unit) :=
  (field.name, fun value => (field.decode value).map fun _ => ())

end Field

/-- Judges members in order: none of the named fields may occur twice, and each
must have a value of its type. -/
def checkMembers (fields : List (String × (Json → Except Fault Unit))) (seen : List String) :
    List (String × Json) → Except Fault Unit
  | [] => .ok ()
  | (name, value) :: rest =>
    match fields.lookup name with
    | none => checkMembers fields seen rest
    | some judge =>
      if name ∈ seen then .error (.duplicateField name)
      else
        match judge value with
        | .error fault => .error fault
        | .ok () => checkMembers fields (name :: seen) rest

def elements (count : Nat) : String :=
  toString count ++ if count = 1 then " element" else " elements"

namespace Body

/-- Judges the members of a body; items are judged as they are taken. -/
def check (fields : List (String × (Json → Except Fault Unit))) : Body → Except Fault Unit
  | .named members => checkMembers fields [] members
  | .positional _ => .ok ()

def field {α : Type} (title : String) (count position : Nat) (field : Field α) :
    Body → Except Fault α
  | .named members =>
    match members.lookup field.name with
    | some value => field.decode value
    | none =>
      match field.absent with
      | some value => .ok value
      | none => .error (.missingField field.name)
  | .positional items =>
    match items[position]? with
    | some value => field.decode value
    | none =>
      match field.beyond with
      | some value => .ok value
      | none => .error (.invalidLength position (title ++ " with " ++ elements count))

def close (count : Nat) : Body → Except Fault Unit
  | .named _ => .ok ()
  | .positional items =>
    if items.length ≤ count then .ok ()
    else .error (.invalidLength items.length (elements count ++ " in sequence"))

def empty {α : Type} (value : α) (body : Body) : Except Fault α :=
  (body.close 0).map fun _ => value

def single {α β : Type} (title : String) (make : α → β) (first : Field α) (body : Body) :
    Except Fault β := do
  body.check [first.check]
  let a ← body.field title 1 0 first
  body.close 1
  return make a

def pair {α β γ : Type} (title : String) (make : α → β → γ) (first : Field α)
    (second : Field β) (body : Body) : Except Fault γ := do
  body.check [first.check, second.check]
  let a ← body.field title 2 0 first
  let b ← body.field title 2 1 second
  body.close 2
  return make a b

def triple {α β γ δ : Type} (title : String) (make : α → β → γ → δ) (first : Field α)
    (second : Field β) (third : Field γ) (body : Body) : Except Fault δ := do
  body.check [first.check, second.check, third.check]
  let a ← body.field title 3 0 first
  let b ← body.field title 3 1 second
  let c ← body.field title 3 2 third
  body.close 3
  return make a b c

end Body

namespace Family

variable {κ : Type}

def kindOf (family : Family κ) : Head → Except Fault κ
  | .scalar (.string name) =>
    match family.kinds.lookup name with
    | some kind => .ok kind
    | none => .error (.unknownVariant name (family.kinds.map Prod.fst))
  | other => .error (.invalidType other.found "variant identifier")

def readKind (family : Family κ) (bytes : Bytes) : Except Fault (Ahead κ) :=
  match readHead bytes with
  | .error fault => .error fault
  | .ok (head, rest) =>
    match family.kindOf head with
    | .error fault => .error fault
    | .ok kind => .ok (kind, rest)

def innerDepth : Nat := maxDepth - 1

/-- Reads one member of a message: the tag, which may occur once, or a field. -/
def readMember (family : Family κ) (bound : Nat) (state : Option κ × List (String × Json))
    (name : String) (bytes : Bytes) : Except Fault (Ahead (Option κ × List (String × Json))) :=
  if name = family.tag then
    if state.1.isSome then .error (.duplicateField family.tag)
    else
      match readColon bytes with
      | .error fault => .error fault
      | .ok ahead =>
        match family.readKind ahead with
        | .error fault => .error fault
        | .ok (kind, rest) => .ok ((some kind, state.2), rest)
  else
    match takeMember (readValue innerDepth) bound state.2 name bytes with
    | .error fault => .error fault
    | .ok (taken, rest) => .ok ((state.1, taken), rest)

def readTagged (family : Family κ) (bytes : Bytes) : Except Fault (Ahead (κ × Body)) :=
  match readHead bytes with
  | .error fault => .error fault
  | .ok (.scalar value, _) => value.unexpected ("internally tagged enum " ++ family.title)
  | .ok (.openObject, rest) =>
    match foldMembers family.readMember bytes.length true (none, []) rest with
    | .error fault => .error fault
    | .ok ((some kind, taken), rest) => .ok ((kind, .named taken.reverse), rest)
    | .ok ((none, _), _) => .error (.missingField family.tag)
  | .ok (.openArray, rest) =>
    match nextItem true rest with
    | .error fault => .error fault
    | .ok (.done _) => .error (.missingField family.tag)
    | .ok (.item ahead) =>
      match family.readKind ahead with
      | .error fault => .error fault
      | .ok (kind, rest) =>
        match readItems (readValue innerDepth) bytes.length false [] rest with
        | .error fault => .error fault
        | .ok (items, rest) => .ok ((kind, .positional items), rest)

def decode {μ : Type} (family : Family κ) (ofBody : κ → Body → Except Fault μ) (bytes : Bytes) :
    Except Fault μ :=
  finish <|
    match family.readTagged bytes with
    | .error fault => .error fault
    | .ok ((kind, body), rest) =>
      match ofBody kind body with
      | .error fault => .error fault
      | .ok message => .ok (message, rest)

end Family

end PresentRelay.Json
