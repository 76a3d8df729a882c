/-
Query documents.

A query has a filter, orders and a page, and each of the three may be
missing.
-/
import Criteria.Input.Filter
import Criteria.Input.Order
import Criteria.Input.Page

namespace Criteria

/-- The description of a query. -/
structure QueryInput where
  filter : Option FilterInput := none
  order : Option (OneOrMany OrderInput) := none
  page : Option PageInput := none

namespace QueryInput

/-- The orders in their sequence. -/
def orders (input : QueryInput) : List OrderInput :=
  input.order.elim [] OneOrMany.toList

/-- The fields of the description of a query. -/
inductive Field where
  | filter
  | order
  | page
deriving DecidableEq

/-- The spellings of a field. -/
def spellings : Field → String × List String
  | .filter => ("filter", ["filters"])
  | .order => ("order", ["orders"])
  | .page => ("pagination", [])

/-- Puts a value into a field. -/
def put (field : Field) (json : Json) (input : QueryInput) : Except InputError QueryInput :=
  match field with
  | .filter => do return { input with filter := ← json.optional FilterInput.ofSection }
  | .order => do return { input with order := ← json.optional OrderInput.ofSection }
  | .page => do return { input with page := ← json.optional PageInput.ofSection }

/-- The layout of the description of a query. -/
def layout : Layout Field where
  name := "QueryData"
  fields := [.filter, .order, .page]
  spellings := spellings

/-- Reads a query document, an object or a list. -/
def ofJson (json : Json) : Except InputError QueryInput :=
  layout.read put {} json

/-- The object that describes a query, with all of its fields. -/
def toJson (input : QueryInput) : Json :=
  .ofFields
    [("filter", input.filter.elim .null FilterInput.toJson),
      ("order", input.order.elim .null (OneOrMany.toJson OrderInput.toJson)),
      ("pagination", input.page.elim .null PageInput.toJson)]

end QueryInput

end Criteria
