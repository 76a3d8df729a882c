/-
Plans for resolvers.

A resolver is made in steps: a plain one, one for an alias, or a map in front
of a resolver that is made before it, to which columns are added field by
field.  A step with a text that is no name ends the making.

What a plan says about the columns of a field can be told from its texts
alone: the columns of a map are those that were added last for that field.
-/
import Criteria.Resolver

namespace Criteria

/-- The steps that a resolver is made in. -/
inductive ResolverPlan where
  | plain
  | qualifying (table : String)
  | map (fallback : ResolverPlan) (calls : List (String × List String))

namespace ResolverPlan

/-- Makes the resolver. -/
def build : ResolverPlan → Except NameError Resolver
  | plain => .ok .plain
  | qualifying table => Resolver.ofAlias table
  | map fallback calls => do
    calls.foldlM (fun resolver call => resolver.insertTexts call.1 call.2)
      (← fallback.build).mapBefore

/-- The columns of a field, as texts. -/
def columnTexts : ResolverPlan → String → List String
  | plain, field => [field]
  | qualifying table, field =>
    if '.' ∈ field.toList then [field] else [table ++ "." ++ field]
  | map fallback calls, field =>
    match calls.reverse.lookup field with
    | some columns => columns
    | none => fallback.columnTexts field

end ResolverPlan

end Criteria
