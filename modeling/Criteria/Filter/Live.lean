/-
Predicates that count.

Compiling goes through the members of a group from left to right and passes
over everything that is switched off.  The predicates it comes to are the live
ones.  Each of them can be at fault by itself: its fields have no column, the
value that its operator needs is missing, or a list stands where its operator
compares with one value.  Where a predicate is at fault twice, the columns come
before the value.
-/
import Criteria.Filter.Basic

namespace Criteria

namespace Predicate

/-- The predicate has no column, or not the kind of value that its operator needs. -/
def IsFaulty (resolver : Resolver) (p : Predicate) : Prop :=
  (∀ field ∈ p.fields, resolver.resolve field = []) ∨
    (p.operator.arity ≠ .unary ∧ p.comparand = none) ∨
    (p.operator.arity = .binary ∧ ∃ values, p.comparand = some (.list values))

/-- What is wrong with the value of a predicate. -/
def valueFault? (p : Predicate) : Option ExpressionError :=
  match p.operator.arity, p.comparand with
  | .unary, _ => none
  | _, none => some (.missingValue p.operator)
  | .binary, some (.list _) => some (.unexpectedList p.operator)
  | _, some _ => none

/-- What is wrong with a predicate; columns come before values. -/
def fault? (resolver : Resolver) (p : Predicate) : Option ExpressionError :=
  if p.fields.flatMap resolver.resolve = [] then some .noColumn else p.valueFault?

end Predicate

namespace Filter

/-- The predicate is reached in the filter through nothing that is switched off, and is not
switched off itself. -/
inductive Live : Filter → Predicate → Prop
  | predicate (p : Predicate) : Live (.predicate true p) p
  | member {f : Filter} {p : Predicate} {conjunction : Conjunction} {negated : Bool}
      {members : List Filter} :
      f ∈ members → Live f p → Live (.group true conjunction negated members) p

mutual

/-- The live predicates of a filter, from left to right. -/
def livePredicates : Filter → List Predicate
  | .empty _ | .raw _ _ _ => []
  | .group active _ _ members => if active then livePredicatesOf members else []
  | .predicate active p => if active then [p] else []

/-- The live predicates of filters, from left to right. -/
def livePredicatesOf : List Filter → List Predicate
  | [] => []
  | f :: rest => f.livePredicates ++ livePredicatesOf rest

end

end Filter

end Criteria
