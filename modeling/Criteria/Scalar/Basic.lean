/-
Scalar values.

A scalar is what a column is compared with.  Its text is what a query quotes
or binds: the decimal of a number, 1 and 0 for the truth values, and the
written forms of identifiers, dates and times.  Whole numbers have one form
each: those above 2 ^ 63 - 1 are unsigned, all others are integers.
-/
import Criteria.Calendar.Timestamp
import Criteria.Json.Basic
import Criteria.Uuid

namespace Criteria

/-- A value that a column is compared with. -/
inductive Scalar where
  | text (value : String)
  | integer (value : Int64)
  | unsigned (value : UInt64)
  | float (value : Double)
  | bool (value : Bool)
  | uuid (value : Uuid)
  | timestamp (value : Timestamp)
  | date (value : Date)
deriving DecidableEq

namespace Scalar

/-- The text of a value, without quotes. -/
def literal : Scalar → String
  | .text value => value
  | .integer n => toString n.toInt
  | .unsigned n => toString n.toNat
  | .float x => x.text
  | .bool value => if value then "1" else "0"
  | .uuid id => id.text
  | .timestamp t => t.text
  | .date d => d.text

/-- The scalar of a whole number of 64 bits. -/
def ofWideInt (n : WideInt) : Scalar :=
  if n.value ≤ Int64.maxValue.toInt then .integer (.ofInt n.value) else .unsigned (.ofNat n.value.toNat)

/-- The scalar of a signed word. -/
def ofInt64 (n : Int64) : Scalar :=
  .integer n

/-- The scalar of a signed half word. -/
def ofInt32 (n : Int32) : Scalar :=
  .integer n.toInt64

/-- The scalar of an unsigned half word, which is an integer always. -/
def ofUInt32 (n : UInt32) : Scalar :=
  .integer n.toUInt64.toInt64

/-- The scalar of an unsigned word. -/
def ofUInt64 (n : UInt64) : Scalar :=
  if n ≤ Int64.maxValue.toUInt64 then .integer n.toInt64 else .unsigned n

/-- The scalar of a JSON value; null, lists and objects have none. -/
def ofJson? : Json → Option Scalar
  | .string value => some (.text value)
  | .bool value => some (.bool value)
  | .integer n => some (ofWideInt n)
  | .float x => some (.float (.finite x))
  | .null | .list _ | .object _ => none

/-- The scalars among JSON values, in their order. -/
def listOfJson (values : List Json) : List Scalar :=
  values.filterMap ofJson?

end Scalar

end Criteria
