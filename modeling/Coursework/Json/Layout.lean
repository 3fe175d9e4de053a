import Coursework.Json.Codec

/-!
# Record layouts

One description of a record gives its written form and both of its readers. A `Layout ρ κ` lists
the fields in their order: `ρ` is the record, and `κ` the type of the function that makes a
record from the values of the listed fields. A field has a name, a codec, a value for when it is
absent (or none, if it is required), and its value in a record.

A record is written as an object. It is read from an object, whose other fields do not matter,
or from an array of the values in the order of the fields, where fields with a value of their
own may be left out at the end. The members of an object are gone through once, in their order:
the first that cannot be read, or that stands there a second time, is reported, and a missing
field only when all members can be read.
-/

namespace Coursework.Json

/-- The fields of a record. -/
inductive Layout (ρ : Type) : Type → Type 1
  | done : Layout ρ ρ
  | field {β κ : Type} (name : String) (codec : Codec β) (absent : Option β) (value : ρ → β)
      (rest : Layout ρ κ) : Layout ρ (β → κ)

namespace Layout

variable {ρ : Type}

/-- The names of the fields. -/
def names : {κ : Type} → Layout ρ κ → List String
  | _, done => []
  | _, field name _ _ _ rest => name :: rest.names

/-- The fields of a written record. -/
def write : {κ : Type} → Layout ρ κ → ρ → List (String × Json)
  | _, done, _ => []
  | _, field name codec _ value rest, record =>
    (name, codec.encode (value record)) :: rest.write record

/-- For each field the value that was read of it, if there was a member of its name. -/
def Slots : {κ : Type} → Layout ρ κ → Type
  | _, done => Unit
  | _, @field _ β _ _ _ _ _ rest => Option β × rest.Slots

/-- No member was read. -/
def emptySlots : {κ : Type} → (layout : Layout ρ κ) → layout.Slots
  | _, done => ()
  | _, field _ _ _ _ rest => (none, rest.emptySlots)

/-- Reads the value of a field, of which there may be one only. -/
def readOnce {β : Type} (name : String) (codec : Codec β) (slot : Option β) (document : Json) :
    Except Fault (Option β) :=
  match slot with
  | some _ => .error (.duplicateField name)
  | none => some <$> codec.decode document

/-- Reads a member into the slot of its name. A member of another name is passed over. -/
def readMember (member : String × Json) :
    {κ : Type} → (layout : Layout ρ κ) → layout.Slots → Except Fault layout.Slots
  | _, done, slots => .ok slots
  | _, field name codec _ _ rest, slots =>
    if member.1 = name then (·, slots.2) <$> readOnce name codec slots.1 member.2
    else (slots.1, ·) <$> rest.readMember member slots.2

/-- Reads members, one after the other. -/
def readMembers {κ : Type} (layout : Layout ρ κ) (slots : layout.Slots)
    (members : List (String × Json)) : Except Fault layout.Slots :=
  members.foldlM (fun slots member => layout.readMember member slots) slots

/-- The record of the values that were read, with those of absent fields for the others. -/
def ofSlots : {κ : Type} → (layout : Layout ρ κ) → κ → layout.Slots → Except Fault ρ
  | _, done, record, _ => .ok record
  | _, field name _ absent _ rest, make, slots =>
    match slots.1.or absent with
    | some value => rest.ofSlots (make value) slots.2
    | none => .error (.missingField name)

/-- The record with these fields. -/
def ofFields {κ : Type} (layout : Layout ρ κ) (make : κ) (fields : List (String × Json)) :
    Except Fault ρ := do
  layout.ofSlots make (← layout.readMembers layout.emptySlots fields)

/-- The record with the items of an array as its fields, in order. `position` fields come before
those of the layout; `short position` is the fault of an array that ends there, and `long` that
of one with more items than fields. -/
def ofItems (short : Nat → Fault) (long : Fault) :
    {κ : Type} → (position : Nat) → Layout ρ κ → κ → List Json → Except Fault ρ
  | _, _, done, record, [] => .ok record
  | _, _, done, _, _ :: _ => .error long
  | _, position, field _ codec _ _ rest, make, item :: items =>
    match codec.decode item with
    | .ok value => ofItems short long (position + 1) rest (make value) items
    | .error fault => .error fault
  | _, position, field _ _ absent _ rest, make, [] =>
    match absent with
    | some value => ofItems short long (position + 1) rest (make value) []
    | none => .error (short position)

/-- The record that the items of an array write. -/
def ofArray {κ : Type} (name : String) (layout : Layout ρ κ) (make : κ) (items : List Json) :
    Except Fault ρ :=
  ofItems (fun position => .wrongLength position (.elements name layout.names.length))
    (.wrongLength items.length .fewerElements) 0 layout make items

end Layout

/-- The codec of a record with that name in messages. -/
def Codec.record {ρ κ : Type} (name : String) (layout : Layout ρ κ) (make : κ) : Codec ρ where
  encode record := .object (layout.write record)
  decode
    | .object fields => layout.ofFields make fields
    | .array items => layout.ofArray name make items
    | other => .error (other.mismatch (.record name))

end Coursework.Json
