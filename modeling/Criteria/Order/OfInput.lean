/-
Orders from their descriptions.

Of the values only the scalars count.
-/
import Criteria.Input.Order
import Criteria.Input.Token
import Criteria.Order.Basic

namespace Criteria.OrderInput

/-- The order that is described. -/
def toOrder (input : OrderInput) : Except ExpressionError Order := do
  let mode ← Input.token OrderMode.ofToken? .unknownMode input.mode
  let direction ← Input.token Direction.ofToken? .unknownDirection input.direction
  let fields ← Input.fields input.property
  return {
    active := input.active.getD true
    mode
    condition := input.condition
    fields
    values := Scalar.listOfJson input.values
    ownDirection := direction }

end Criteria.OrderInput
