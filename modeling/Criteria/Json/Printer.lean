/-
The text of a JSON value.

The text is compact and all of one line.  Characters above U+001F stand for
themselves except the quote and the backslash.  A float is written with its
shortest digits, in positional notation from 10 ^ -5 up to 10 ^ 16, and
always shows a point or an exponent.
-/
import Criteria.Json.Basic
import Criteria.Number.Decimal
import Criteria.Text.Hex

namespace Criteria.Json

/-- The characters that stand for `c` inside quotes. -/
def escapeChar (c : Char) : List Char :=
  if c = '"' then ['\\', '"']
  else if c = '\\' then ['\\', '\\']
  else if c = '\n' then ['\\', 'n']
  else if c = '\r' then ['\\', 'r']
  else if c = '\t' then ['\\', 't']
  else if c = '\x08' then ['\\', 'b']
  else if c = '\x0c' then ['\\', 'f']
  else if c.toNat < 0x20 then ['\\', 'u', '0', '0', Text.hexDigit (c.toNat / 16), Text.hexDigit c.toNat]
  else [c]

/-- A text in quotes. -/
def quoted (text : String) : String :=
  "\"" ++ String.ofList (text.toList.flatMap escapeChar) ++ "\""

/-- The text of a float. -/
def floatText (x : FiniteDouble) : String :=
  let d := x.shortest .even
  let digits :=
    if d.digits = 0 then "0.0"
    else if -5 ≤ d.exponent ∧ d.exponent < 16 then Decimal.withPoint d.positional
    else d.scientific
  (if x.negative then "-" else "") ++ digits

mutual

/-- The text of a value. -/
def text : Json → String
  | .null => "null"
  | .bool value => if value then "true" else "false"
  | .integer n => toString n.value
  | .float x => floatText x
  | .string text => quoted text
  | .list items => "[" ++ ",".intercalate (texts items) ++ "]"
  | .object fields => "\x7b" ++ ",".intercalate (fieldTexts fields) ++ "\x7d"

/-- The texts of the items of a list. -/
def texts : List Json → List String
  | [] => []
  | item :: rest => item.text :: texts rest

/-- The texts of the fields of an object. -/
def fieldTexts : List (String × Json) → List String
  | [] => []
  | (key, value) :: rest => (quoted key ++ ":" ++ value.text) :: fieldTexts rest

end

end Criteria.Json
