/-
The boolean tree of a filter.

This is what a filter says, apart from any text: a predicate says that one of
the columns of its fields passes its comparison, a group joins what its
members say, and what is switched off or empty says nothing.  A group with
one member left says what the member says.  Text of the caller's own has no
place in the tree.
-/
import Criteria.Filter.Basic
import Criteria.Sql.Formula

namespace Criteria

namespace Predicate

/-- The operand that a column is. -/
def operand (p : Predicate) (column : FieldName) : Sql.Operand where
  function := p.function
  qualifier := column.qualifier.map Identifier.text
  name := column.name.text

/-- The comparison of one column, unless the operator lacks what it needs.  Nothing is in an empty
list, and everything is not in it. -/
def atom (p : Predicate) (column : FieldName) : Option Sql.Atom :=
  match p.operator.arity, p.comparand with
  | .unary, _ => some (.unary (p.operand column) p.operator)
  | .binary, some (.single value) =>
    some (.binary (p.operand column) p.operator value.literal)
  | .list, some comparand =>
    if comparand.values.isEmpty then some (.constant (p.operator = .notAmong))
    else some (.list (p.operand column) p.operator (comparand.values.map Scalar.literal))
  | .set, some comparand => some (.inSet (p.operand column) comparand.set.literal)
  | _, _ => none

/-- That one of the columns passes its comparison. -/
def formula (p : Predicate) (resolver : Resolver) : Option Sql.Formula := do
  let atoms ← (p.fields.flatMap resolver.resolve).mapM p.atom
  return Sql.Formula.join .or (atoms.map .atom)

end Predicate

namespace Filter

/-- What a group says whose members say the given formulas. -/
def groupTree (conjunction : Conjunction) (negated : Bool) :
    List Sql.Formula → Option Sql.Formula
  | [] => none
  | members =>
    let joined := Sql.Formula.join conjunction members
    some (if negated then .negation joined else joined)

mutual

/-- What a filter says. -/
def tree (resolver : Resolver) : Filter → Option Sql.Formula
  | .empty _ | .raw _ _ _ => none
  | .group active conjunction negated members =>
    if active then groupTree conjunction negated (trees resolver members) else none
  | .predicate active p => if active then p.formula resolver else none

/-- What those of the filters say that say anything. -/
def trees (resolver : Resolver) : List Filter → List Sql.Formula
  | [] => []
  | f :: rest => (f.tree resolver).toList ++ trees resolver rest

end

mutual

/-- The predicates of a filter. -/
def predicates : Filter → List Predicate
  | .empty _ | .raw _ _ _ => []
  | .group _ _ _ members => predicatesOf members
  | .predicate _ p => [p]

/-- The predicates of filters. -/
def predicatesOf : List Filter → List Predicate
  | [] => []
  | f :: rest => f.predicates ++ predicatesOf rest

end

end Filter

end Criteria
