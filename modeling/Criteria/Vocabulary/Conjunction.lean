/-
Conjunctions: what joins the members of a group.
-/
import Criteria.Vocabulary.Token

namespace Criteria

/-- The word between the members of a group. -/
inductive Conjunction where
  | and
  | or
deriving DecidableEq, Repr, Inhabited

namespace Conjunction

/-- The spelling in a query. -/
def sql : Conjunction → String
  | and => "AND"
  | or => "OR"

/-- The spellings that are read. -/
def spellings : List (String × Conjunction) :=
  [("AND", and), ("OR", or)]

/-- The conjunction that a token means. -/
def ofToken? (token : String) : Option Conjunction :=
  Vocabulary.find? spellings token

end Conjunction

end Criteria
