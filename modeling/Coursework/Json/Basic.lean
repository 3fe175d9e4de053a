import Coursework.Numeral.Shortest

/-!
# JSON values

The documents exchanged with the grading backend. Identifiers need the whole range of 64-bit
integers, so integers are kept apart from numbers with a fraction or an exponent; the latter
appear in refused documents only, where the message quotes them.
-/

namespace Coursework

/-- A number of a document. -/
inductive Json.Number where
  | integer (value : Int)
  | real (negative : Bool) (magnitude : Numeral.Binary64)
  deriving DecidableEq

/-- A document. The fields of an object are in the order in which they are written. -/
inductive Json where
  | null
  | bool (value : Bool)
  | number (value : Json.Number)
  | string (value : String)
  | array (items : List Json)
  | object (fields : List (String × Json))

namespace Json

/-- A whole number. -/
def integer (value : Int) : Json := .number (.integer value)

/-- A natural number. -/
def natural (value : Nat) : Json := integer value

/-- The value of the first field of that name. -/
def field? (fields : List (String × Json)) (name : String) : Option Json :=
  fields.lookup name

/-- The value of a field of an object; null where there is none. -/
def get (document : Json) (name : String) : Json :=
  match document with
  | object fields => (field? fields name).getD null
  | _ => null

/-- Adds a field to fields in order of their names, in the place of one of the same name. -/
def insertField (name : String) (value : Json) : List (String × Json) → List (String × Json)
  | [] => [(name, value)]
  | (other, old) :: rest =>
    if name = other then (name, value) :: rest
    else if name < other then (name, value) :: (other, old) :: rest
    else (other, old) :: insertField name value rest

end Json

end Coursework
