/-
Rewritings of filters.

A rule says which filter may take the place of which.  A filter is rewritten
by a rule when the rule is used once, for the filter itself or for a member at
any depth; nothing else about the filter changes.

There are three rules.  What is switched off takes the place of anything else
that is switched off.  A filter is trimmed where a group loses a member that
has nothing to say, or where a group that is neither switched off nor negated
gives way to its only member.  Trimming as often as is possible ends in a
filter that can be told at once, by recursion.  And a predicate is spread where
the group of its comparisons takes its place, with one field for each.
-/
import Criteria.Filter.Basic

namespace Criteria.Filter

/-- A rule is used at one place of a filter. -/
inductive Rewrites (rule : Filter → Filter → Prop) : Filter → Filter → Prop
  /-- The filter itself is replaced. -/
  | here {f g : Filter} : rule f g → Rewrites rule f g
  /-- Something in one of the members is replaced. -/
  | inside {f g : Filter} (active : Bool) (conjunction : Conjunction) (negated : Bool)
      (before after : List Filter) : Rewrites rule f g →
      Rewrites rule (.group active conjunction negated (before ++ f :: after))
        (.group active conjunction negated (before ++ g :: after))

/-! ## What is switched off -/

/-- Both filters are switched off, whatever else they are. -/
def Idle (f g : Filter) : Prop :=
  f.isActive = false ∧ g.isActive = false

/-! ## What has nothing to say -/

mutual

/-- The filter is switched off or empty, or it is an empty text, or a group of such filters. -/
def isBlank : Filter → Bool
  | .empty _ => true
  | .group active _ _ members => !active || areBlank members
  | .raw active text _ => !active || text.isEmpty
  | .predicate active _ => !active

/-- None of the filters has anything to say. -/
def areBlank : List Filter → Bool
  | [] => true
  | f :: rest => f.isBlank && areBlank rest

end

/-- A group without one of its blank members, or the only member in place of its group. -/
inductive Trims : Filter → Filter → Prop
  /-- A group loses a blank member. -/
  | blank {f : Filter} (active : Bool) (conjunction : Conjunction) (negated : Bool)
      (before after : List Filter) : f.isBlank →
      Trims (.group active conjunction negated (before ++ f :: after))
        (.group active conjunction negated (before ++ after))
  /-- A group that is neither switched off nor negated gives way to its only member. -/
  | wrapper (conjunction : Conjunction) (f : Filter) : Trims (.group true conjunction false [f]) f

/-- The group of the members, or the only member where a group says nothing more. -/
def unwrapped (active : Bool) (conjunction : Conjunction) (negated : Bool) :
    List Filter → Filter
  | [alone] => if active && !negated then alone else .group active conjunction negated [alone]
  | members => .group active conjunction negated members

mutual

/-- The filter without blank members, and without groups that say nothing more than their only
member, at any depth. -/
def trimmed : Filter → Filter
  | .group active conjunction negated members =>
    unwrapped active conjunction negated (trimmedMembers members)
  | .empty active => .empty active
  | .raw active text negated => .raw active text negated
  | .predicate active p => .predicate active p

/-- Those of the members that are not blank, each of them trimmed. -/
def trimmedMembers : List Filter → List Filter
  | [] => []
  | f :: rest => if f.isBlank then trimmedMembers rest else f.trimmed :: trimmedMembers rest

end

/-! ## One field at a time -/

/-- One of the comparisons of a predicate has to hold, each of which is that of one field. -/
def eachField (p : Predicate) : Filter :=
  any (p.fields.map fun field => ofPredicate { p with fields := [field] })

/-- The group of the comparisons of its fields takes the place of a predicate with fields, each of
which has one column. -/
inductive Spreads (resolver : Resolver) : Filter → Filter → Prop
  | fields (p : Predicate) : p.fields ≠ [] →
      (∀ field ∈ p.fields, ∃ column, resolver.resolve field = [column]) →
      Spreads resolver (ofPredicate p) (eachField p)

end Criteria.Filter
