import Coursework.Json.Fault

/-!
# Tagged values

A value of one of several kinds, written with the name of its kind. A kind without a payload is
its name; the others are an object whose only field is the name, with the payload as its value.
-/

namespace Coursework.Json

/-- The only field of an object. -/
def singleField (fields : List (String × Json)) : Except Fault (String × Json) :=
  match fields with
  | [field] => .ok field
  | _ => .error (.wrongValue .map .singleField)

/-- The case of that name. -/
def caseNamed {α : Type} (cases : List (String × α)) (name : String) : Except Fault α :=
  match cases.lookup name with
  | some value => .ok value
  | none => .error (.unknownVariant name (cases.map Prod.fst))

/-- How the payload of a kind is read. -/
inductive Payload (α : Type) where
  /-- There is no payload. -/
  | nothing (value : α)
  /-- The payload is a single value. -/
  | single (decode : Json → Except Fault α)
  /-- The payload is an object with fields. -/
  | fields (decode : List (String × Json) → Except Fault α)

namespace Payload

variable {α : Type}

/-- The value of a kind that stands as a name alone. -/
def ofName : Payload α → Except Fault α
  | nothing value => .ok value
  | single _ => .error (.wrongType .bareVariant .payload)
  | fields _ => .error (.wrongType .bareVariant .namedPayload)

/-- The value of a kind with that payload. -/
def ofDocument (payload : Payload α) (document : Json) : Except Fault α :=
  match payload, document with
  | nothing value, .null => .ok value
  | nothing _, other => .error (other.mismatch .nothing)
  | single decode, document => decode document
  | fields decode, .object members => decode members
  | fields _, other => .error (other.mismatch .namedPayload)

end Payload

/-- Reads a tagged value, given the kinds by name. -/
def decodeTagged {α : Type} (kinds : List (String × Payload α)) : Json → Except Fault α
  | .string name => do (← caseNamed kinds name).ofName
  | .object members => do
    let (name, document) ← singleField members
    (← caseNamed kinds name).ofDocument document
  | other => .error (other.mismatch .variant)

/-- Writes a tagged value with a payload. -/
def tagged (name : String) (payload : Json) : Json :=
  .object [(name, payload)]

end Coursework.Json
