/-
Descriptions of orders.

What the description of an order says is said here of the texts and values as
they stand in it, and nothing is read.  A token means the word that it spells,
a name is the name of a field but for the blanks around it, and of the values
the scalars count.
-/
import Mathlib.Data.List.Forall2
import Criteria.Filter.Description
import Criteria.Input.Order
import Criteria.Order.Basic
import Criteria.Vocabulary.Spelling

namespace Criteria

/-- The order is the one that is described. -/
structure OrderInput.Describes (input : OrderInput) (order : Order) : Prop where
  /-- The order is switched off where the description says so, and only there. -/
  active : order.active = false ↔ input.active = some false
  /-- The mode is what its token spells. -/
  mode : Vocabulary.Says OrderMode.name [("RAND", .random)] input.mode order.mode
  /-- The text of the caller's own is taken as it is. -/
  condition : order.condition = input.condition
  /-- The fields have the names that are listed, without the blanks around them. -/
  fields : ∃ names, OneOrMany.Lists input.property names ∧
    order.fields.map FieldName.text = names.map Text.trim
  /-- The values are the scalars that are listed, each of them and in their order. -/
  values : List.Forall₂ (fun json value => value.IsJson ∧ value.toJson = json)
    (input.values.filter Json.isScalar) order.values
  /-- The direction is what its token spells. -/
  direction : Vocabulary.Says Direction.sql [] input.direction order.ownDirection

end Criteria
