/-
Texts of the caller's own.

A caller may put conditions of its own into a query: as members of a
filter, as the condition of an order, or alone.  They go into the query as
they are, so what holds of a query as a whole often holds only when
something is known about these texts.
-/
import Criteria.Filter.Meaning
import Criteria.Input.Query
import Criteria.Order.Basic

namespace Criteria

mutual

/-- The texts of the caller's own in a condition. -/
def Condition.ownTexts : Condition → List String
  | .test _ => []
  | .raw text => [text]
  | .enclosed inner => inner.ownTexts
  | .negation inner => inner.ownTexts
  | .junction _ members => Condition.ownTextsOf members

/-- The texts of the caller's own in the members of a junction. -/
def Condition.ownTextsOf : List Condition → List String
  | [] => []
  | c :: rest => c.ownTexts ++ Condition.ownTextsOf rest

end

mutual

/-- The texts of the caller's own in a filter, whether it is switched on or not. -/
def Filter.ownTexts : Filter → List String
  | .empty _ => []
  | .group _ _ _ members => Filter.ownTextsOf members
  | .raw _ text _ => [text]
  | .predicate _ _ => []

/-- The texts of the caller's own in the members of a group. -/
def Filter.ownTextsOf : List Filter → List String
  | [] => []
  | f :: rest => f.ownTexts ++ Filter.ownTextsOf rest

end

/-- The text of the caller's own in an order. -/
def Order.ownTexts (order : Order) : List String :=
  order.condition.toList

/-- The text of the caller's own that an expression of nothing else carries. -/
def CustomExpression.ownTexts (e : CustomExpression) : List String :=
  e.condition.toList

mutual

/-- The texts of the caller's own in the description of a filter. -/
def FilterInput.ownTexts : FilterInput → List String
  | ⟨_, condition, filters, _, _, _, _, _⟩ =>
    condition.toList ++ FilterInput.ownTextsOfEntries filters

/-- The texts of the caller's own in the descriptions of the members of a group. -/
def FilterInput.ownTextsOfEntries : List (FilterEntry FilterInput) → List String
  | [] => []
  | entry :: rest => FilterInput.ownTextsOfEntry entry ++ FilterInput.ownTextsOfEntries rest

/-- The texts of the caller's own in the description of a member. -/
def FilterInput.ownTextsOfEntry : FilterEntry FilterInput → List String
  | .nested input => input.ownTexts
  | .fragment sql => [sql]

end

/-- The text of the caller's own in the description of an order. -/
def OrderInput.ownTexts (input : OrderInput) : List String :=
  input.condition.toList

/-- The texts of the caller's own in the description of a query. -/
def QueryInput.ownTexts (input : QueryInput) : List String :=
  input.filter.elim [] FilterInput.ownTexts ++
    input.orders.flatMap OrderInput.ownTexts

end Criteria
