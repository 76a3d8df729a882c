/-
Rows, and what a condition says of them.

A condition is evaluated on a row, which has a content, or NULL, in each of its
operands.  Of the atoms only the constants and the tests of sets are looked
into.  A set is one text with commas between its elements, and FIND_IN_SET tests
whether a text is one of the elements; it is unknown where the set is NULL.
Whether the other atoms hold is left to the row.

Conditions have the truth values of the language's logic of three values.
-/
import Criteria.Sql.Formula
import Criteria.Sql.Outline

namespace Criteria.Sql

/-- The elements of a set.  The empty text is the set that has none. -/
def elements (set : String) : List String :=
  if set.isEmpty then [] else (set.toList.splitOn ',').map String.ofList

example : elements "news,sport" = ["news", "sport"] := rfl

namespace Formula

mutual

/-- The truth value where those of the atoms are known. -/
def truth (value : Atom → Truth) : Formula → Truth
  | .atom a => value a
  | .negation inner => do return !(← inner.truth value)
  | .junction conjunction members => conjunction.connective.combineAll (truths value members)

/-- The truth values of the members of a junction. -/
def truths (value : Atom → Truth) : List Formula → List Truth
  | [] => []
  | φ :: rest => φ.truth value :: truths value rest

end

end Formula

/-- The content of each operand, or none for NULL, and the truth values of the atoms that are not
looked into. -/
structure Row where
  content : Operand → Option String
  other : Atom → Truth

namespace Row

/-- The truth value of an atom. -/
def value (row : Row) : Atom → Truth
  | .inSet operand text => (fun set => (elements set).contains text) <$> row.content operand
  | .constant holds => some holds
  | atom => row.other atom

/-- The truth value of a condition. -/
def truth (row : Row) (φ : Formula) : Truth :=
  φ.truth row.value

/-- The text is an element of the set that the operand is. -/
def Has (row : Row) (operand : Operand) (text : String) : Prop :=
  ∃ set, row.content operand = some set ∧ text ∈ elements set

end Row

end Criteria.Sql
