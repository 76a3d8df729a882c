/-
Values of a document.

Each reader takes a value of one shape and refuses all others.  Null stands
for a value that is missing, where one may be.
-/
import Criteria.Input.Error

namespace Criteria.Json

/-- Null is no value, and what else there is must be read. -/
def optional {α : Type} (read : Json → Except InputError α) : Json → Except InputError (Option α)
  | .null => .ok none
  | other => some <$> read other

/-- The value is a truth value. -/
def readBool : Json → Except InputError Bool
  | .bool value => .ok value
  | other => .error (.wrongType (.ofJson other) .bool)

/-- The value is a text. -/
def readString : Json → Except InputError String
  | .string text => .ok text
  | other => .error (.wrongType (.ofJson other) .string)

/-- The value is a list. -/
def readList : Json → Except InputError (List Json)
  | .list items => .ok items
  | other => .error (.wrongType (.ofJson other) .list)

/-- The value is an unsigned word. -/
def readWord : Json → Except InputError UInt64
  | .integer n =>
    match n.toUInt64? with
    | some word => .ok word
    | none => .error (.negativeWord n.value)
  | other => .error (.wrongType (.ofJson other) .word)

/-- The value is an object; `part` says of what. -/
def readObject (part : String) : Json → Except InputError (List (String × Json))
  | .object fields => .ok fields
  | other => .error (.notAnObject part (.ofJson other))

end Criteria.Json
