import Coursework.Json.Tagged
import Coursework.Numeral.Natural

/-!
# Codecs

A codec is the two directions between a type and the documents that stand for its values. The
codecs here are those of words, truth values, texts, lists, optional values and enumerations;
records are in `Coursework.Json.Layout`.
-/

namespace Coursework.Json

open Numeral (greatest16 greatest32 greatest64)

/-- The documents of a type, and how they are read. -/
structure Codec (α : Type) where
  encode : α → Json
  decode : Json → Except Fault α

/-- What the codec writes it reads back. -/
def Codec.Lawful {α : Type} (codec : Codec α) : Prop :=
  ∀ a, codec.decode (codec.encode a) = .ok a

namespace Codec

/-- Reads a whole number between two bounds. -/
def decodeInteger (low high : Int) (expected : Expected) (document : Json) : Except Fault Int :=
  match document with
  | .number (.integer value) =>
    if low ≤ value ∧ value ≤ high then .ok value
    else .error (.wrongValue (.integer value) expected)
  | other => .error (other.mismatch expected)

/-- Words of 64 bits. -/
def uint64 : Codec UInt64 where
  encode value := natural value.toNat
  decode document :=
    UInt64.ofNat <$> Int.toNat <$> decodeInteger 0 greatest64 (.unsigned 64) document

/-- Words of 32 bits. -/
def uint32 : Codec UInt32 where
  encode value := natural value.toNat
  decode document :=
    UInt32.ofNat <$> Int.toNat <$> decodeInteger 0 greatest32 (.unsigned 32) document

/-- Words of 16 bits. -/
def uint16 : Codec UInt16 where
  encode value := natural value.toNat
  decode document :=
    UInt16.ofNat <$> Int.toNat <$> decodeInteger 0 greatest16 (.unsigned 16) document

/-- Bytes. -/
def uint8 : Codec UInt8 where
  encode value := natural value.toNat
  decode document := UInt8.ofNat <$> Int.toNat <$> decodeInteger 0 0xFF (.unsigned 8) document

/-- Signed words of 32 bits. -/
def int32 : Codec Int32 where
  encode value := integer value.toInt
  decode document := Int32.ofInt <$> decodeInteger (-0x80000000) 0x7FFFFFFF (.signed 32) document

/-- Signed words of 64 bits. -/
def int64 : Codec Int64 where
  encode value := integer value.toInt
  decode document :=
    Int64.ofInt <$> decodeInteger (-0x8000000000000000) 0x7FFFFFFFFFFFFFFF (.signed 64) document

/-- Positions in a list. -/
def index : Codec Nat where
  encode value := natural value
  decode document := Int.toNat <$> decodeInteger 0 greatest64 .index document

/-- Truth values. -/
def bool : Codec Bool where
  encode := Json.bool
  decode
    | .bool value => .ok value
    | other => .error (other.mismatch .boolean)

/-- Texts. -/
def string : Codec String where
  encode := Json.string
  decode
    | .string value => .ok value
    | other => .error (other.mismatch .string)

/-- Lists, item by item. -/
def list {α : Type} (item : Codec α) : Codec (List α) where
  encode values := .array (values.map item.encode)
  decode
    | .array items => items.mapM item.decode
    | other => .error (other.mismatch .sequence)

/-- Values that may be absent: null stands for an absent one. -/
def option {α : Type} (item : Codec α) : Codec (Option α) where
  encode
    | none => .null
    | some value => item.encode value
  decode
    | .null => .ok none
    | other => some <$> item.decode other

/-- Pairs, as arrays of two items. The items are read before they are counted. -/
def pair {α β : Type} (first : Codec α) (second : Codec β) : Codec (α × β) where
  encode value := .array [first.encode value.1, second.encode value.2]
  decode
    | .array items =>
      match items with
      | [] => .error (.wrongLength 0 .pair)
      | a :: rest => do
        let a ← first.decode a
        match rest with
        | [] => .error (.wrongLength 1 .pair)
        | b :: more =>
          let b ← second.decode b
          if more.isEmpty then return (a, b)
          else .error (.wrongLength items.length .fewerElements)
    | other => .error (other.mismatch .pair)

/-- Enumerations, by the names of their cases. -/
def enumeration {α : Type} (name : α → String) (values : List α) : Codec α where
  encode value := .string (name value)
  decode := decodeTagged (values.map fun value => (name value, .nothing value))

end Codec

end Coursework.Json
