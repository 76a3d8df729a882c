/-
What can be wrong with a document.

A document is refused where a value has the wrong shape, where a field is
given twice under two spellings, or where a list has more items than there
are fields.  The message says what was found and what was wanted.
-/
import Criteria.Json.Printer
import Criteria.Text.Quoted

namespace Criteria

/-- A value of a document as a message shows it. -/
inductive Found where
  | null
  | bool (value : Bool)
  | integer (value : Int)
  | float (value : FiniteDouble)
  | string (text : String)
  | list
  | object
deriving DecidableEq

namespace Found

/-- What was found where a value stands. -/
def ofJson : Json → Found
  | .null => null
  | .bool value => bool value
  | .integer n => integer n.value
  | .float x => float x
  | .string text => string text
  | .list _ => list
  | .object _ => object

/-- The value itself where it is short, and else its shape. -/
def text : Found → String
  | null => "null"
  | bool value => "boolean `" ++ (if value then "true" else "false") ++ "`"
  | integer n => "integer `" ++ toString n ++ "`"
  | float x => "floating point `" ++ Json.floatText x ++ "`"
  | string text => "string " ++ Text.quoted text
  | list => "sequence"
  | object => "map"

/-- The shape with its article. -/
def kind : Found → String
  | null => "null"
  | bool _ => "a boolean"
  | integer _ | float _ => "a number"
  | string _ => "a string"
  | list => "a list"
  | object => "an object"

end Found

/-- What was wanted where a value stands. -/
inductive Wanted where
  | bool
  | string
  | list
  | word
  | record (name : String)
deriving DecidableEq

namespace Wanted

/-- What was wanted, as a message shows it. -/
def text : Wanted → String
  | bool => "a boolean"
  | string => "a string"
  | list => "a sequence"
  | word => "u64"
  | record name => "struct " ++ name

end Wanted

/-- Why a document is refused. -/
inductive InputError where
  | wrongType (found : Found) (wanted : Wanted)
  | negativeWord (value : Int)
  | duplicateField (name : String)
  | neitherOneNorMany
  | notAnObject (part : String) (found : Found)
  | tooManyItems (count : Nat)
deriving DecidableEq

namespace InputError

/-- What a reader is told. -/
def message : InputError → String
  | wrongType found wanted => "invalid type: " ++ found.text ++ ", expected " ++ wanted.text
  | negativeWord n =>
    "invalid value: " ++ (Found.integer n).text ++ ", expected " ++ Wanted.word.text
  | duplicateField name => "duplicate field `" ++ name ++ "`"
  | neitherOneNorMany => "data did not match any variant of untagged enum OneOrMany"
  | notAnObject part found => part ++ " must be an object, found " ++ found.kind
  | tooManyItems count =>
    "invalid length " ++ toString count ++ ", expected fewer elements in array"

end InputError

end Criteria
