/-
Scalars as JSON.

A scalar is written as an object with one field, named for the kind of the
scalar.  Floats are left out: JSON has no word for those that are not
finite.  Reading is the other way round; a float is read from any number.
-/
import Criteria.Scalar.Basic

namespace Criteria.Scalar

/-- The name of the kind of a scalar. -/
def kind : Scalar → String
  | .text _ => "Text"
  | .integer _ => "Integer"
  | .unsigned _ => "Unsigned"
  | .float _ => "Float"
  | .bool _ => "Boolean"
  | .uuid _ => "Uuid"
  | .timestamp _ => "Timestamp"
  | .date _ => "Date"

/-- The number of a signed word. -/
def wideInt (n : Int64) : WideInt where
  value := n.toInt
  least_le := Int64.le_toInt n
  lt_greatest := by
    have := Int64.toInt_lt n
    omega

/-- The value in the field of the object. -/
def content? : Scalar → Option Json
  | .text value => some (.string value)
  | .integer n => some (.integer (wideInt n))
  | .unsigned n => some (.integer (.ofUInt64 n))
  | .float _ => none
  | .bool value => some (.bool value)
  | .uuid id => some (.string id.text)
  | .timestamp t => some (.string t.rfc3339)
  | .date d => some (.string d.text)

/-- The object with one field. -/
def toTagged? (s : Scalar) : Option Json :=
  s.content?.map fun content => .object [(s.kind, content)]

/-- The object with the text of the scalar in place of its value. -/
def toTextTagged (s : Scalar) : Json :=
  .object [(s.kind, .string s.literal)]

/-- Reads the value in the field of a kind. -/
def ofContent? : String → Json → Option Scalar
  | "Text", .string value => some (.text value)
  | "Integer", .integer n => if n.value ≤ Int64.maxValue.toInt then some (ofWideInt n) else none
  | "Unsigned", .integer n => n.toUInt64?.map .unsigned
  | "Float", .float x => some (.float (.finite x))
  | "Float", .integer n =>
    (FiniteDouble.ofNat? (n.value < 0) n.value.natAbs).map fun x => .float (.finite x)
  | "Boolean", .bool value => some (.bool value)
  | "Uuid", .string value => (Uuid.ofText? value).map .uuid
  | "Timestamp", .string value => (Timestamp.ofText? value).map .timestamp
  | "Date", .string value => (Date.ofText? value).map .date
  | _, _ => none

/-- Reads the object with one field. -/
def ofTagged? : Json → Option Scalar
  | .object [(kind, content)] => ofContent? kind content
  | _ => none

end Criteria.Scalar
