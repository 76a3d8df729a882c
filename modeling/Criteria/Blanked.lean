/-
Descriptions without the values in them.

Two descriptions of a query may differ in nothing but the scalars that fields
are compared with or sorted by.  To say so, every such scalar is replaced by
one and the same; what has another shape, such as null, a list in a list or
an object, stays as it is, and a list keeps its length.
-/
import Criteria.Input.Query

namespace Criteria

namespace Json

/-- One and the same scalar for all scalars; other values stay. -/
def blankScalar : Json → Json
  | .null => .null
  | .list items => .list items
  | .object fields => .object fields
  | .bool _ | .integer _ | .float _ | .string _ => .string ""

/-- A value to compare with, in which a scalar or the scalars of a list are blanked. -/
def blankValue : Json → Json
  | .list items => .list (items.map blankScalar)
  | other => other.blankScalar

end Json

namespace FilterInput

mutual

/-- The description of a filter in which the values are blanked. -/
def blanked : FilterInput → FilterInput
  | ⟨active, condition, filters, property, value, operator, func, operand⟩ =>
    ⟨active, condition, blankedEntries filters, property, value.map Json.blankValue, operator,
      func, operand⟩

/-- The descriptions of the members of a group in which the values are blanked. -/
def blankedEntries : List (FilterEntry FilterInput) → List (FilterEntry FilterInput)
  | [] => []
  | entry :: rest => blankedEntry entry :: blankedEntries rest

/-- The description of a member in which the values are blanked. -/
def blankedEntry : FilterEntry FilterInput → FilterEntry FilterInput
  | .nested input => .nested (blanked input)
  | .fragment sql => .fragment sql

end

end FilterInput

/-- The description of an order in which the values are blanked. -/
def OrderInput.blanked (input : OrderInput) : OrderInput :=
  { input with values := input.values.map Json.blankScalar }

/-- One thing or a list of things, each replaced. -/
def OneOrMany.map {α β : Type} (f : α → β) : OneOrMany α → OneOrMany β
  | .one item => .one (f item)
  | .many items => .many (items.map f)

/-- The description of a query in which the values are blanked. -/
def QueryInput.blanked (input : QueryInput) : QueryInput where
  filter := input.filter.map FilterInput.blanked
  order := input.order.map (OneOrMany.map OrderInput.blanked)
  page := input.page

end Criteria
