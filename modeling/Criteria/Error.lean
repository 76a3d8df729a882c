/-
What can be wrong with an expression.
-/
import Criteria.Field.Name
import Criteria.Vocabulary.Operator

namespace Criteria

/-- Why an expression is refused. -/
inductive ExpressionError where
  | unknownOperator (token : String)
  | unknownFunction (token : String)
  | unknownConjunction (token : String)
  | unknownMode (token : String)
  | unknownDirection (token : String)
  | badField (error : NameError)
  | noColumn
  | noCondition
  | missingValue (operator : Operator)
  | noValues
  | notScalar (text : String)
  | unexpectedList (operator : Operator)
  | ambiguousNegation
  | tooDeep (limit : Nat)
deriving DecidableEq, Repr

namespace ExpressionError

/-- What a reader is told. -/
def message : ExpressionError → String
  | unknownOperator token => s!"Invalid operator: '{token}'"
  | unknownFunction token => s!"Invalid function: '{token}'"
  | unknownConjunction token => s!"Invalid operand: '{token}' (expected AND or OR)"
  | unknownMode token => s!"Invalid order mode: '{token}'"
  | unknownDirection token => s!"Invalid order direction: '{token}' (expected ASC or DESC)"
  | badField error => "Invalid field identifier: " ++ error.message
  | noColumn => "Empty property: no column to compile against"
  | noCondition => "Empty condition: custom expression requires a condition"
  | missingValue operator => s!"Missing value: operator '{operator.sql}' requires a value"
  | noValues => "Empty values: ordering by values requires at least one scalar value"
  | notScalar text => "Non-scalar value: " ++ text
  | unexpectedList operator =>
    s!"Unexpected list value: operator '{operator.sql}' compares against a single value"
  | ambiguousNegation =>
    "Ambiguous negation: a negating operator cannot be combined with fields"
  | tooDeep limit => s!"Nesting too deep: filters nest beyond {limit} levels"

end ExpressionError

end Criteria
