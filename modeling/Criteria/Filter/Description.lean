/-
Descriptions of filters.

Not every filter can be described in a document: a group needs members there,
a condition of the caller's own needs characters, and a predicate needs fields,
an operator other than NOT, and values that JSON has.  A filter that passes at
each of its nodes has a description, which says everything about it; only a
member of a group that is no more than a text, or no more than empty, is
written as a text.

Levels are counted as the reader counts them: a description is one level below
the one that it stands in, and a text stands on no level of its own.
-/
import Criteria.Filter.Basic
import Criteria.Input.Filter
import Criteria.Scalar.Tagged

namespace Criteria

/-! ## Values that JSON has -/

namespace Scalar

/-- The value is that of some JSON value: a text, a truth value, a whole number in the form that it
is read in, or a finite float. -/
def IsJson : Scalar → Prop
  | .text _ | .bool _ | .integer _ => True
  | .unsigned n => Int64.maxValue.toInt < n.toNat
  | .float x => ∃ value, x = .finite value
  | .uuid _ | .timestamp _ | .date _ => False

/-- The JSON value of a scalar that has one. -/
def toJson : Scalar → Json
  | .text value => .string value
  | .bool value => .bool value
  | .integer n => .integer (wideInt n)
  | .unsigned n => .integer (.ofUInt64 n)
  | .float (.finite x) => .float x
  | .float _ | .uuid _ | .timestamp _ | .date _ => .null

end Scalar

/-- The JSON value of what fields are compared with. -/
def Comparand.toJson : Comparand → Json
  | .single value => value.toJson
  | .list values => .list (values.map Scalar.toJson)

/-! ## Nodes and levels -/

namespace Filter

mutual

/-- A filter and what it is made of, at any depth. -/
def nodes : Filter → List Filter
  | .group active conjunction negated members =>
    .group active conjunction negated members :: nodesOf members
  | .empty active => [.empty active]
  | .raw active text negated => [.raw active text negated]
  | .predicate active p => [.predicate active p]

/-- Filters and what they are made of. -/
def nodesOf : List Filter → List Filter
  | [] => []
  | f :: rest => f.nodes ++ nodesOf rest

end

/-- What stands at a node can be described, apart from its members. -/
def IsDescribable : Filter → Prop
  | .empty _ => True
  | .group _ _ _ members => members ≠ []
  | .raw _ text _ => text ≠ ""
  | .predicate _ p => p.fields ≠ [] ∧ p.operator ≠ .not ∧
    ∀ comparand ∈ p.comparand, ∀ value ∈ comparand.values, value.IsJson

/-- The filter is empty, or no more than a text, and switched on. -/
def isPlain : Filter → Bool
  | .empty active => active
  | .raw active _ negated => active && !negated
  | .group _ _ _ _ | .predicate _ _ => false

mutual

/-- The number of levels of a filter. -/
def depth : Filter → Nat
  | .group _ _ _ members => 1 + depthOf members
  | .empty _ | .raw _ _ _ | .predicate _ _ => 1

/-- The number of levels of the deepest member of a group; a plain one is on no level. -/
def depthOf : List Filter → Nat
  | [] => 0
  | f :: rest => max (if f.isPlain then 0 else f.depth) (depthOf rest)

end

end Filter

/-! ## Describing -/

namespace FilterInput

/-- The operator that negates, or none. -/
def negation (negated : Bool) : Option String :=
  if negated then some Operator.not.sql else none

/-- A member of a group: a text where that says all, and else a description. -/
def entry (f : Filter) (input : FilterInput) : FilterEntry FilterInput :=
  if f.isPlain then .fragment (f.condition?.getD "") else .nested input

mutual

/-- A description of a filter. -/
def describe : Filter → FilterInput
  | .empty active => { active := some active }
  | .group active conjunction negated members =>
    { active := some active, filters := describeMembers members, operator := negation negated
      operand := some conjunction.sql }
  | .raw active text negated =>
    { active := some active, condition := some text, operator := negation negated }
  | .predicate active p =>
    { active := some active, property := some (.many (p.fields.map FieldName.text))
      value := p.comparand.map Comparand.toJson, operator := some p.operator.sql
      func := p.function.map Function.sql }

/-- Descriptions of the members of a group. -/
def describeMembers : List Filter → List (FilterEntry FilterInput)
  | [] => []
  | f :: rest => entry f (describe f) :: describeMembers rest

end

end FilterInput

end Criteria
