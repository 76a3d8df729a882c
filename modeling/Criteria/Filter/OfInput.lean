/-
Filters from their descriptions.

A description with filters is a group, or else one with a condition is that
condition, or else one with fields is a predicate; what is left is an empty
filter.  The operator NOT negates a group or a condition.  Groups may be
nested up to a limit of levels, the first of which is number 1.
-/
import Criteria.Filter.Basic
import Criteria.Input.Filter
import Criteria.Input.Token
import Criteria.Json.Printer

namespace Criteria.FilterInput

/-- The limit of levels where nothing else is said. -/
def defaultMaxDepth : Nat := 64

/-- The scalar of a value; a value that has none is refused. -/
def scalar (json : Json) : Except ExpressionError Scalar :=
  match Scalar.ofJson? json with
  | some value => .ok value
  | none => .error (.notScalar json.text)

/-- What fields are compared with. -/
def comparand : Option Json → Except ExpressionError (Option Comparand)
  | none | some .null => .ok none
  | some (.list items) => do return some (.list (← items.mapM scalar))
  | some other => do return some (.single (← scalar other))

/-- The parts of a description that are read whatever the filter is. -/
structure Heading where
  operator : Option Operator
  function : Option Function
  conjunction : Conjunction
  fields : List FieldName

namespace Heading

/-- Reads operator, function, conjunction and fields, in this order. -/
def ofInput (operator func operand : Option String) (property : Option (OneOrMany String)) :
    Except ExpressionError Heading := do
  let operator ← Input.token Operator.ofToken? .unknownOperator operator
  let function ← Input.token Function.ofToken? .unknownFunction func
  let conjunction ← Input.token Conjunction.ofToken? .unknownConjunction operand
  let fields ← Input.fields property
  return { operator, function, conjunction := conjunction.getD .and, fields }

/-- The operator negates. -/
def negated (heading : Heading) : Bool :=
  heading.operator.any Operator.isNegating

/-- The filter of a description without filters. -/
def leaf (heading : Heading) (active : Bool) (condition : String) (value : Option Json) :
    Except ExpressionError Filter :=
  if !condition.isEmpty then .ok (.raw active condition heading.negated)
  else if heading.fields.isEmpty then .ok (.empty active)
  else if heading.negated then .error .ambiguousNegation
  else do
    return .predicate active
      { fields := heading.fields, operator := heading.operator.getD .eq,
        function := heading.function, comparand := ← comparand value }

end Heading

mutual

/-- The filter that is described, at a level. -/
def toFilterAt (maxDepth level : Nat) : FilterInput → Except ExpressionError Filter
  | ⟨active, condition, filters, property, value, operator, func, operand⟩ => do
    if maxDepth < level then throw (.tooDeep maxDepth)
    let heading ← Heading.ofInput operator func operand property
    let active := active.getD true
    if filters.isEmpty then heading.leaf active (condition.getD "") value
    else
      let members ← entriesToFilters maxDepth level filters
      return .group active heading.conjunction heading.negated members

/-- The members of a group at a level. -/
def entriesToFilters (maxDepth level : Nat) :
    List (FilterEntry FilterInput) → Except ExpressionError (List Filter)
  | [] => .ok []
  | entry :: rest => do
    let first ← entryToFilter maxDepth level entry
    let others ← entriesToFilters maxDepth level rest
    return first :: others

/-- A member of a group at a level; an empty text is an empty filter. -/
def entryToFilter (maxDepth level : Nat) :
    FilterEntry FilterInput → Except ExpressionError Filter
  | .nested input => toFilterAt maxDepth (level + 1) input
  | .fragment sql => .ok (if sql.isEmpty then .new else .ofText sql)

end

/-- The filter that is described. -/
def toFilter (input : FilterInput) (maxDepth : Nat := defaultMaxDepth) :
    Except ExpressionError Filter :=
  input.toFilterAt maxDepth 1

end Criteria.FilterInput
