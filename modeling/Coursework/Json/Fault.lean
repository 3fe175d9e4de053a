import Coursework.Json.Printer
import Coursework.Text.Quoted

/-!
# Why a document is refused

A document that does not have the expected shape is refused with one fault, which names what was
found, what was expected, or which field or variant is at fault. The wording of every fault is
in `Fault.message`.
-/

namespace Coursework.Json

/-- What stands where something else was expected. -/
inductive Found where
  | null
  | boolean (value : Bool)
  | integer (value : Int)
  | real (negative : Bool) (magnitude : Numeral.Binary64)
  | string (value : String)
  | sequence
  | map
  | bareVariant
  deriving DecidableEq

/-- What a document should have had in some place. -/
inductive Expected where
  | unsigned (bits : Nat)
  | signed (bits : Nat)
  | index
  | string
  | boolean
  | sequence
  | record (name : String)
  | variant
  | singleField
  | nothing
  | payload
  | namedPayload
  | elements (name : String) (count : Nat)
  | fewerElements
  | pair
  deriving DecidableEq

/-- The reason for which a document is refused. -/
inductive Fault where
  | wrongType (found : Found) (expected : Expected)
  | wrongValue (found : Found) (expected : Expected)
  | wrongLength (length : Nat) (expected : Expected)
  | missingField (name : String)
  | duplicateField (name : String)
  | unknownVariant (name : String) (known : List String)
  deriving DecidableEq

/-- What a document is, as a fault tells it. -/
def found : Json → Found
  | null => .null
  | bool value => .boolean value
  | number (.integer value) => .integer value
  | number (.real negative magnitude) => .real negative magnitude
  | string value => .string value
  | array _ => .sequence
  | object _ => .map

/-- Text between a pair of backquotes. -/
def ticked (s : String) : String := "`" ++ s ++ "`"

def Found.phrase : Found → String
  | null => "null"
  | boolean value => "boolean " ++ ticked (if value then "true" else "false")
  | integer value => "integer " ++ ticked (toString value)
  | real negative magnitude =>
    "floating point " ++ ticked (String.ofList (Number.real negative magnitude).chars)
  | string value => "string " ++ Text.quoted value
  | sequence => "sequence"
  | map => "map"
  | bareVariant => "unit variant"

def Expected.phrase : Expected → String
  | unsigned bits => "u" ++ toString bits
  | signed bits => "i" ++ toString bits
  | index => "usize"
  | string => "a string"
  | boolean => "a boolean"
  | sequence => "a sequence"
  | record name => "struct " ++ name
  | variant => "string or map"
  | singleField => "map with a single key"
  | nothing => "unit"
  | payload => "newtype variant"
  | namedPayload => "struct variant"
  | elements name count =>
    "struct " ++ name ++ " with " ++ toString count ++
      if count = 1 then " element" else " elements"
  | fewerElements => "fewer elements in array"
  | pair => "a tuple of size 2"

/-- The known names, as an unknown one is answered. -/
def choices : List String → String
  | [] => "there are no variants"
  | [only] => "expected " ++ ticked only
  | [first, second] => "expected " ++ ticked first ++ " or " ++ ticked second
  | names => "expected one of " ++ ", ".intercalate (names.map ticked)

def Fault.message : Fault → String
  | wrongType found expected => "invalid type: " ++ found.phrase ++ ", expected " ++ expected.phrase
  | wrongValue found expected =>
    "invalid value: " ++ found.phrase ++ ", expected " ++ expected.phrase
  | wrongLength length expected =>
    "invalid length " ++ toString length ++ ", expected " ++ expected.phrase
  | missingField name => "missing field " ++ ticked name
  | duplicateField name => "duplicate field " ++ ticked name
  | unknownVariant name known => "unknown variant " ++ ticked name ++ ", " ++ choices known

/-- The fault of a document of another kind than the expected one. -/
def mismatch (document : Json) (expected : Expected) : Fault :=
  .wrongType document.found expected

end Coursework.Json
