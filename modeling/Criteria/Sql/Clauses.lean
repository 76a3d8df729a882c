/-
Taking a query apart at its clauses.

What follows SELECT in a query are its clauses, and each begins with words of
its own.  Where a clause ends nothing says but the words of the next one, so
the words have to be found again: among the tokens, whatever their letter
case, and not in a literal that happens to spell one of them.

A text is cut at these words while it is scanned.  A word is known when the
character behind it arrives, so a blank is put behind the text; then each
body has a blank on both of its sides.
-/
import Criteria.Sql.Token
import Criteria.Text.Case

namespace Criteria.Sql

namespace Clause

/-- The words that clauses begin with, in capitals. -/
def starters : List String :=
  ["WHERE", "ORDER", "BY", "LIMIT"]

/-- The token as a word that a clause begins with. -/
def starter? : Token → Option String
  | .word text => if starters.contains (Text.upper text) then some text else none
  | _ => none

/-- What stands behind a starter, up to the next one. -/
structure Segment where
  starter : String
  body : List Char
deriving DecidableEq

/-- Cuts characters at starters, in the middle of a segment of which some are read. -/
def cut (starter : String) (read : List Char) (mode : Scanner.Mode) :
    List Char → Option (List Segment)
  | [] => do
    let _ ← Scanner.finish mode
    return [⟨starter, read⟩]
  | c :: rest => do
    let (out, next) ← Scanner.step mode c
    match out.head?.bind starter? with
    | none => cut starter (read ++ [c]) next rest
    | some word => do
      let others ← cut word [c] next rest
      return ⟨starter, read.take (read.length - word.toList.length)⟩ :: others

/-- The segment behind a starter, which is given in capitals. -/
def find? (segments : List Segment) (starter : String) : Option Segment :=
  segments.find? fun segment => Text.upper segment.starter = starter

/-- What a segment has between its blanks. -/
def Segment.inner (segment : Segment) : String :=
  String.ofList segment.body.tail.dropLast

/-- A segment with its starter, without the blank at the end. -/
def Segment.whole (segment : Segment) : String :=
  segment.starter ++ String.ofList segment.body.dropLast

end Clause

open Clause

/-- The starters among the tokens of a text. -/
def starters? (text : String) : Option (List String) :=
  (tokens? text).map (List.filterMap starter?)

/-- The bodies of the clauses that a text consists of, each empty where there is none; the last is
kept with its starter. -/
structure Bodies where
  whereBody : String
  orderBody : String
  limit : String
deriving DecidableEq

/-- The bodies of the clauses of a text, unless its tokens are refused. -/
def bodies? (text : String) : Option Bodies := do
  let segments ← cut "" [] .between (text.toList ++ [' '])
  return {
    whereBody := (find? segments "WHERE").elim "" Segment.inner
    orderBody := (find? segments "BY").elim "" Segment.inner
    limit := (find? segments "LIMIT").elim "" Segment.whole }

example : starters? "WHERE a = 'x ORDER BY' order by b LIMIT 0, 20" =
    some ["WHERE", "order", "by", "LIMIT"] := by
  decide

example : bodies? "WHERE a = 'x ORDER BY' order by b LIMIT 0, 20" =
    some ⟨"a = 'x ORDER BY'", "b", "LIMIT 0, 20"⟩ := by
  decide

end Criteria.Sql
