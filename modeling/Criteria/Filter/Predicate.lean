/-
Predicates: comparisons of fields with values.

A predicate compares every column of its fields in the same way, and holds
when one of the comparisons does.  Nothing is in an empty list, and all is
not in it.  A list of values that a set column is tested for is one text,
the texts of the values with commas between.
-/
import Criteria.Condition
import Criteria.Writer

namespace Criteria

/-- What a column is compared with: one value, or a list. -/
inductive Comparand where
  | single (value : Scalar)
  | list (values : List Scalar)
deriving DecidableEq

namespace Comparand

/-- The values, of which a single one is the only one. -/
def values : Comparand → List Scalar
  | single value => [value]
  | list values => values

/-- The one text that stands for a set. -/
def set : Comparand → Scalar
  | single value => value
  | list values => .text (",".intercalate (values.map Scalar.literal))

end Comparand

/-- A comparison of fields. -/
structure Predicate where
  fields : List FieldName
  operator : Operator
  function : Option Function := none
  comparand : Option Comparand := none
deriving DecidableEq

namespace Predicate

/-- What the columns are compared with; an operator that is not unary needs it. -/
def required (p : Predicate) : Except ExpressionError Comparand :=
  match p.comparand with
  | some comparand => .ok comparand
  | none => .error (.missingValue p.operator)

/-- The test of one column. -/
def test (p : Predicate) (column : FieldName) : Except ExpressionError Test :=
  let target : Target := ⟨column, p.function⟩
  match p.operator.arity with
  | .unary => .ok (.unary target p.operator)
  | .set => do return .inSet target (← p.required).set
  | .list => do
    match (← p.required).values with
    | [] => return .constant (p.operator ≠ .among)
    | values => return .list target p.operator values
  | .binary => do
    match ← p.required with
    | .single value => return .binary target p.operator value
    | .list _ => throw (.unexpectedList p.operator)

/-- Compiles the tests of columns one after the other. -/
def compileColumns (p : Predicate) (writer : Writer) :
    List FieldName → Except ExpressionError (List String × Writer)
  | [] => .ok ([], writer)
  | column :: rest => do
    let (text, writer) := writer.write ((← p.test column).template writer.context.dialect)
    let (texts, writer) ← p.compileColumns writer rest
    return (text :: texts, writer)

/-- Compiles a predicate: one of the columns of its fields has to pass its test. -/
def compile (p : Predicate) (writer : Writer) : Except ExpressionError (String × Writer) := do
  let (texts, writer) ← p.compileColumns writer (← writer.columns p.fields)
  return (Template.groupTexts Conjunction.or.sql texts, writer)

end Predicate

end Criteria
