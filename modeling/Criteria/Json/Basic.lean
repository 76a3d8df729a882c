/-
JSON values.

A number is a whole number of 64 bits or a finite double, so that 1 and 1.0
are two values.  An object is the list of its fields in the order of their
keys, each key once; `Json.ofFields` brings fields into that form, and of
two fields with one key keeps the last.
-/
import Criteria.Number.Double
import Criteria.Number.WideInt

namespace Criteria

/-- A JSON value. -/
inductive Json where
  | null
  | bool (value : Bool)
  | integer (value : WideInt)
  | float (value : FiniteDouble)
  | string (text : String)
  | list (items : List Json)
  | object (fields : List (String × Json))
deriving Inhabited

namespace Json

/-- Puts a field at its place; a field with the same key is replaced. -/
def insertField (key : String) (value : Json) : List (String × Json) → List (String × Json)
  | [] => [(key, value)]
  | (k, v) :: rest =>
    if key < k then (key, value) :: (k, v) :: rest
    else if key = k then (key, value) :: rest
    else (k, v) :: insertField key value rest

/-- The object with the given fields; of two fields with one key the last counts. -/
def ofFields (fields : List (String × Json)) : Json :=
  .object (fields.foldl (fun sorted (key, value) => insertField key value sorted) [])

/-- The list of the texts. -/
def ofStrings (texts : List String) : Json :=
  .list (texts.map .string)

/-- The text, or null without one. -/
def ofString? (text : Option String) : Json :=
  text.elim .null .string

/-- The truth value, or null without one. -/
def ofBool? (value : Option Bool) : Json :=
  value.elim .null .bool

/-- The unsigned word as a number, or null without one. -/
def ofUInt64? (value : Option UInt64) : Json :=
  value.elim .null fun n => .integer (.ofUInt64 n)

/-- The value is a text, a truth value or a number. -/
def isScalar : Json → Bool
  | .bool _ | .integer _ | .float _ | .string _ => true
  | .null | .list _ | .object _ => false

/-- The value of a field of an object. -/
def get? (key : String) : Json → Option Json
  | .object fields => fields.lookup key
  | _ => none

end Json

end Criteria
