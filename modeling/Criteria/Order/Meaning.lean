/-
The meaning of an order.

This is what an order sorts by, apart from any text: at random, or by each of
the columns of its fields, in their order.  Where values are given, the place
of each column among all of them counts, and else the column itself.  All
keys of an order have one direction.  What is switched off sorts by nothing.
-/
import Criteria.Order.Basic
import Criteria.Sql.SortItem

namespace Criteria

/-- A value as it is written in a mode. -/
def Scalar.written (mode : BindMode) (value : Scalar) : Sql.WrittenValue :=
  match mode with
  | .inline => .literal value.literal
  | .parameterized => .placeholder

namespace Order

/-- The direction of all keys: the one that is given, or else the one that the mode names. -/
def commonDirection (order : Order) : Option Direction :=
  match order.ownDirection, order.mode with
  | some direction, _ => some direction
  | none, some .asc => some .asc
  | none, some .desc => some .desc
  | none, _ => none

/-- The key for a column. -/
def columnItem (order : Order) (column : FieldName) : Sql.SortItem Scalar :=
  let qualifier := column.qualifier.map Identifier.text
  if order.values = [] then .column qualifier column.name.text order.commonDirection
  else .position qualifier column.name.text order.values order.commonDirection

/-- The keys that an order without a text of the caller's own sorts by. -/
def items (resolver : Resolver) (order : Order) : List (Sql.SortItem Scalar) :=
  if order.active = false then []
  else if order.mode = some .random then [.random]
  else (order.fields.flatMap resolver.resolve).map order.columnItem

end Order

end Criteria
