/-
Reading sort keys.

The body of ORDER BY is a list of sort keys with commas between.  There are
commas in a key too, but those are in parentheses; and what looks like a
comma or a parenthesis in a literal is no token by itself.  So the tokens are
divided at the commas that no parenthesis is open around, and each part is
read by itself: as the call that shuffles rows, as the place of a column in a
list of values, or as a column, the last two with a direction behind or
without one.
-/
import Criteria.Sql.Formula
import Criteria.Vocabulary.Sorting

namespace Criteria.Sql

/-- A sort key: rows are sorted at random, by a column, or by the place of a column in values. -/
inductive SortItem (ν : Type) where
  | random
  | column (qualifier : Option String) (name : String) (direction : Option Direction)
  | position (qualifier : Option String) (name : String) (values : List ν)
      (direction : Option Direction)
deriving DecidableEq

namespace SortItem

/-- The values of a key. -/
def values {ν : Type} : SortItem ν → List ν
  | random | column _ _ _ => []
  | position _ _ values _ => values

/-- The same key with something else in the place of each value. -/
def map {ν μ : Type} (f : ν → μ) : SortItem ν → SortItem μ
  | random => random
  | column qualifier name direction => column qualifier name direction
  | position qualifier name values direction => position qualifier name (values.map f) direction

end SortItem

/-- A value as it is written: a literal with its content, or a placeholder. -/
inductive WrittenValue where
  | literal (content : String)
  | placeholder
deriving DecidableEq

namespace Reader

/-! ## Dividing a list of keys -/

/-- Divides tokens at the commas outside of parentheses, of which some are open, in the middle of a
part of which some tokens are read. -/
def divide (depth : Nat) (read : List Token) : List Token → List (List Token)
  | [] => [read]
  | .comma :: rest =>
    if depth = 0 then read :: divide 0 [] rest else divide depth (read ++ [.comma]) rest
  | .leftParen :: rest => divide (depth + 1) (read ++ [.leftParen]) rest
  | .rightParen :: rest => divide (depth - 1) (read ++ [.rightParen]) rest
  | t :: rest => divide depth (read ++ [t]) rest

/-! ## Reading one key -/

/-- Reads a direction, which may be missing. -/
def direction : List Token → Option (Option Direction)
  | [] => some none
  | [.word word] =>
    if Text.upper word = "ASC" then some (some .asc)
    else if Text.upper word = "DESC" then some (some .desc)
    else none
  | _ => none

/-- Reads a value. -/
def writtenValue : Token → Option WrittenValue
  | .literal content => some (.literal content)
  | .placeholder => some .placeholder
  | _ => none

/-- Reads values with commas between, and the parenthesis behind them. -/
def writtenValues : List Token → Option (List WrittenValue × List Token)
  | t :: .comma :: rest => do
    let value ← writtenValue t
    let (values, rest) ← writtenValues rest
    return (value :: values, rest)
  | t :: .rightParen :: rest => do
    let value ← writtenValue t
    return ([value], rest)
  | _ => none

/-- Reads a sort key to its end. -/
def sortItem : List Token → Option (SortItem WrittenValue)
  | .word word :: .leftParen :: rest =>
    if Text.upper word = "RAND" then if rest = [.rightParen] then some .random else none
    else if Text.upper word = "FIELD" then do
      let ((qualifier, name), rest) ← column rest
      match rest with
      | .comma :: rest => do
        let (values, rest) ← writtenValues rest
        return .position qualifier name values (← direction rest)
      | _ => none
    else none
  | tokens => do
    let ((qualifier, name), rest) ← column tokens
    return .column qualifier name (← direction rest)

end Reader

/-- The sort keys that the body of ORDER BY lists, unless it is refused; an empty text lists
none. -/
def sortItems? (text : String) : Option (List (SortItem WrittenValue)) := do
  match ← tokens? text with
  | [] => some []
  | tokens => (Reader.divide 0 [] tokens).mapM Reader.sortItem

example : sortItems? "FIELD(t.a, ',)','b', ?) desc, RAND(), asc ASC, b" =
    some [.position (some "t") "a" [.literal ",)", .literal "b", .placeholder] (some .desc),
      .random, .column none "asc" (some .asc), .column none "b" none] := by
  decide

example : sortItems? "a,, b" = none ∧ sortItems? "FIELD(a)" = none ∧
    sortItems? "a ASC DESC" = none := by
  decide

end Criteria.Sql
