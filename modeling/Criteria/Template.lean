/-
Query text with values in it.

A piece of a query is text that stands as it is, or a value that is either
quoted in its place or bound to a placeholder.  A single test or sort key is
spelled as a list of such pieces, which is then written in one of the two
ways.
-/
import Criteria.Scalar.Basic

namespace Criteria

/-- A part of a query: text, or a value. -/
inductive Piece where
  | text (text : String)
  | value (value : Scalar)
deriving DecidableEq

/-- The parts of a query in their order. -/
abbrev Template := List Piece

namespace Template

/-- Text that stands as it is. -/
def ofText (text : String) : Template :=
  [.text text]

/-- A value. -/
def ofValue (value : Scalar) : Template :=
  [.value value]

/-- The templates one after the other, with a text between. -/
def joined (between : String) (templates : List Template) : Template :=
  List.intercalate (ofText between) templates

/-- Templates in parentheses with a word between; one alone stands as it is. -/
def group (word : String) : List Template → Template
  | [alone] => alone
  | templates => ofText "(" ++ joined (" " ++ word ++ " ") templates ++ ofText ")"

/-- Texts in parentheses with a word between; one alone stands as it is. -/
def groupTexts (word : String) : List String → String
  | [alone] => alone
  | texts => "(" ++ (" " ++ word ++ " ").intercalate texts ++ ")"

/-- The values in their order. -/
def values (t : Template) : List Scalar :=
  t.filterMap fun
    | .text _ => none
    | .value v => some v

end Template

end Criteria
