import Coursework.Json.Layout

/-!
# Records

A `Record ρ` is a layout together with the function that makes a record from the values of its
fields. It carries the proofs that fields are told apart by their names, and that a record is
neither more nor less than the values of its fields. What is shown of one `Record` so holds of
every type that is written as one.
-/

namespace Coursework.Json

/-- A field, apart from the others of its record. -/
structure Field (ρ : Type) where
  Value : Type
  name : String
  codec : Codec Value
  /-- The value for when the field is absent; none if the field is required. -/
  absent : Option Value
  value : ρ → Value

namespace Layout

variable {ρ : Type}

/-- The fields, in their order. -/
def fields : {κ : Type} → Layout ρ κ → List (Field ρ)
  | _, done => []
  | _, field name codec absent value rest => ⟨_, name, codec, absent, value⟩ :: rest.fields

/-- A value for each field. -/
def Values : {κ : Type} → Layout ρ κ → Type
  | _, done => Unit
  | _, @field _ β _ _ _ _ _ rest => β × rest.Values

/-- The values that a record has. -/
def values : {κ : Type} → (layout : Layout ρ κ) → ρ → layout.Values
  | _, done, _ => ()
  | _, field _ _ _ value rest, record => (value record, rest.values record)

/-- The record that is made of values. -/
def fill : {κ : Type} → (layout : Layout ρ κ) → κ → layout.Values → ρ
  | _, done, record, _ => record
  | _, field _ _ _ _ rest, make, values => rest.fill (make values.1) values.2

end Layout

/-- A type of records with its name in messages, its fields and what makes a record of them. -/
structure Record (ρ : Type) where
  name : String
  {Maker : Type}
  layout : Layout ρ Maker
  make : Maker
  names_nodup : layout.names.Nodup := by decide
  fill_values : ∀ record, layout.fill make (layout.values record) = record := by
    intro record
    rfl
  values_fill : ∀ values, layout.values (layout.fill make values) = values := by
    intro values
    rfl

/-- The codec of a type of records. -/
def Record.codec {ρ : Type} (record : Record ρ) : Codec ρ :=
  .record record.name record.layout record.make

end Coursework.Json
