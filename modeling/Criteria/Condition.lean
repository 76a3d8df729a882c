/-
Conditions.

A condition is a boolean tree over tests of columns.  Its text keeps the
shape of the tree: the members of a junction stand in parentheses unless
there is only one, and NOT binds looser than a test but tighter than AND
and OR, so it needs none of its own.  Text of the caller's own is taken as
it is, and stands in parentheses where it is negated by itself.
-/
import Criteria.Dialect
import Criteria.Field.Name
import Criteria.Vocabulary.Conjunction
import Criteria.Vocabulary.Operator

namespace Criteria

/-- A column, maybe with a function applied to it. -/
structure Target where
  column : FieldName
  function : Option Function
deriving DecidableEq

namespace Target

/-- The text of a target. -/
def text (target : Target) (dialect : Dialect) : String :=
  match target.function with
  | none => target.column.text
  | some function => dialect.call function target.column.text

end Target

/-- A test of one column, or a truth value. -/
inductive Test where
  | unary (target : Target) (operator : Operator)
  | binary (target : Target) (operator : Operator) (value : Scalar)
  | list (target : Target) (operator : Operator) (values : List Scalar)
  | inSet (target : Target) (set : Scalar)
  | constant (holds : Bool)
deriving DecidableEq

namespace Test

/-- What a test compiles to. -/
def template (dialect : Dialect) : Test → Template
  | unary target operator => Template.ofText (target.text dialect ++ " " ++ operator.sql)
  | binary target operator value =>
    Template.ofText (target.text dialect ++ " " ++ operator.sql ++ " ") ++ Template.ofValue value
  | list target operator values =>
    Template.ofText (target.text dialect ++ " " ++ operator.sql ++ " (") ++
      Template.joined "," (values.map Template.ofValue) ++ Template.ofText ")"
  | inSet target set => dialect.findInSet (Template.ofValue set) (target.text dialect)
  | constant holds => Template.ofText (if holds then "1=1" else "1=0")

end Test

/-- A boolean tree over tests and texts of the caller's own. -/
inductive Condition where
  | test (test : Test)
  | raw (text : String)
  | enclosed (inner : Condition)
  | negation (inner : Condition)
  | junction (conjunction : Conjunction) (members : List Condition)

namespace Condition

/-- The junction of conditions; a single one needs no junction. -/
def join (conjunction : Conjunction) : List Condition → Condition
  | [alone] => alone
  | members => .junction conjunction members

/-- The condition, or its negation. -/
def negatedIf (negated : Bool) (c : Condition) : Condition :=
  if negated then .negation c else c

mutual

/-- What a condition compiles to. -/
def template (dialect : Dialect) : Condition → Template
  | .test t => t.template dialect
  | .raw text => Template.ofText text
  | .enclosed inner => Template.ofText "(" ++ inner.template dialect ++ Template.ofText ")"
  | .negation inner => Template.ofText (dialect.negation ++ " ") ++ inner.template dialect
  | .junction conjunction members => Template.group conjunction.sql (templates dialect members)

/-- What the members of a junction compile to. -/
def templates (dialect : Dialect) : List Condition → List Template
  | [] => []
  | c :: rest => c.template dialect :: templates dialect rest

end

end Condition

end Criteria
