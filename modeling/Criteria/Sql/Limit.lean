/-
Reading limits.

A limit says how many rows of a result are shown, and how many before them
are left out.  A MySQL server knows three ways to write it: the number of
rows alone, the rows left out in front of it with a comma between, or behind
it after the word OFFSET.
-/
import Criteria.Sql.Token
import Criteria.Text.Case

namespace Criteria.Sql

/-- How many rows are left out, and how many of the others are shown. -/
structure Limit where
  offset : Nat := 0
  count : Nat
deriving DecidableEq

namespace Limit

/-- The number that the digits of a token write. -/
def numeral (digits : String) : Nat :=
  Nat.ofDigitChars 10 digits.toList 0

/-- Reads what follows the word LIMIT. -/
def ofNumbers? : List Token → Option Limit
  | [.number count] => some { count := numeral count }
  | [.number offset, .comma, .number count] =>
    some { offset := numeral offset, count := numeral count }
  | [.number count, .word word, .number offset] =>
    if Text.upper word = "OFFSET" then some { offset := numeral offset, count := numeral count }
    else none
  | _ => none

/-- The limit that a clause writes, unless it is refused. -/
def ofText? (text : String) : Option Limit :=
  match tokens? text with
  | some (.word word :: numbers) =>
    if Text.upper word = "LIMIT" then ofNumbers? numbers else none
  | _ => none

example : ofText? "limit 20" = some { count := 20 } ∧
    ofText? "LIMIT 40,20" = ofText? "LIMIT 20 OFFSET 40" ∧ ofText? "LIMIT 1, 2, 3" = none := by
  decide

end Limit

end Criteria.Sql
