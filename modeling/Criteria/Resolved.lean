/-
Filters and orders by their columns.

Fields are turned into columns while a filter or an order is compiled.  It can
be done ahead: every field gives way to its columns, in their order, so that
the columns are named by the filter or the order itself.  Nothing else changes.
-/
import Criteria.Filter.Basic
import Criteria.Order.Basic

namespace Criteria

/-- The predicate on the columns of its fields. -/
def Predicate.resolved (resolver : Resolver) (p : Predicate) : Predicate :=
  { p with fields := p.fields.flatMap resolver.resolve }

mutual

/-- The filter with the columns of all fields in place of the fields, at any depth. -/
def Filter.resolved (resolver : Resolver) : Filter → Filter
  | .empty active => .empty active
  | .group active conjunction negated members =>
    .group active conjunction negated (Filter.resolvedMembers resolver members)
  | .raw active text negated => .raw active text negated
  | .predicate active p => .predicate active (p.resolved resolver)

/-- The members of a group with the columns of all fields in place of the fields. -/
def Filter.resolvedMembers (resolver : Resolver) : List Filter → List Filter
  | [] => []
  | f :: rest => f.resolved resolver :: Filter.resolvedMembers resolver rest

end

/-- The order by the columns of its fields. -/
def Order.resolved (resolver : Resolver) (order : Order) : Order :=
  { order with fields := order.fields.flatMap resolver.resolve }

/-- The fields of the order have a column, or there are none. -/
def Order.HasColumns (resolver : Resolver) (order : Order) : Prop :=
  order.fields = [] ∨ order.fields.flatMap resolver.resolve ≠ []

end Criteria
