/-
Orders in documents.

An order is described by an object: whether it is active, a condition, the
names of mode and direction, the fields to sort by and the values that give
their order.
-/
import Criteria.Input.OneOrMany
import Criteria.Input.Record
import Criteria.Input.Value

namespace Criteria

/-- The description of an order. -/
structure OrderInput where
  active : Option Bool := none
  condition : Option String := none
  mode : Option String := none
  property : Option (OneOrMany String) := none
  values : List Json := []
  direction : Option String := none

namespace OrderInput

/-- The fields of the description of an order. -/
inductive Field where
  | active
  | condition
  | mode
  | property
  | values
  | direction
deriving DecidableEq

/-- The spellings of a field. -/
def spellings : Field → String × List String
  | .active => ("active", [])
  | .condition => ("condition", [])
  | .mode => ("mode", [])
  | .property => ("property", ["fields"])
  | .values => ("values", [])
  | .direction => ("direction", [])

/-- Puts a value into a field. -/
def put (field : Field) (json : Json) (input : OrderInput) : Except InputError OrderInput :=
  match field with
  | .active => do return { input with active := ← json.optional Json.readBool }
  | .condition => do return { input with condition := ← json.optional Json.readString }
  | .mode => do return { input with mode := ← json.optional Json.readString }
  | .property => do return { input with property := ← json.optional OneOrMany.ofJson }
  | .values => do return { input with values := ← json.readList }
  | .direction => do return { input with direction := ← json.optional Json.readString }

/-- The layout of the description of an order. -/
def layout : Layout Field where
  name := "OrderData"
  fields := [.active, .condition, .mode, .property, .values, .direction]
  spellings := spellings

/-- Reads the description of an order from an object or a list. -/
def ofJson (json : Json) : Except InputError OrderInput :=
  layout.read put {} json

/-- Reads the description of an order from an object. -/
def ofObject (json : Json) : Except InputError OrderInput := do
  layout.readFields put [] {} (← json.readObject "order")

/-- Reads the orders of a query: one object, or a list of them. -/
def ofSection : Json → Except InputError (OneOrMany OrderInput)
  | .list items => .many <$> items.mapM ofObject
  | other => .one <$> ofObject other

/-- The object that describes an order, with all of its fields. -/
def toJson (input : OrderInput) : Json :=
  .ofFields
    [("active", .ofBool? input.active), ("condition", .ofString? input.condition),
      ("mode", .ofString? input.mode),
      ("property", input.property.elim .null (OneOrMany.toJson .string)),
      ("values", .list input.values), ("direction", .ofString? input.direction)]

end OrderInput

end Criteria
