/-
What filters mean.

What a filter means is a condition, or none: a filter that is switched off
means nothing, nor does an empty one, and a group means the junction of
what its members mean, and nothing when none of them means anything.
Compiling never looks at conditions; that the text of a filter is the text
of its meaning is a theorem about the two.
-/
import Criteria.Filter.Basic

namespace Criteria

/-- The condition that one of the columns of a predicate passes its test. -/
def Predicate.condition (p : Predicate) (resolver : Resolver) :
    Except ExpressionError Condition := do
  let columns ← resolver.columns p.fields
  let tests ← columns.mapM p.test
  return Condition.join .or (tests.map .test)

namespace Filter

/-- What a condition of the caller's own means. -/
def meaningOfText (text : String) (negated : Bool) : Option Condition :=
  if text.isEmpty then none
  else some (if negated then .negation (.enclosed (.raw text)) else .raw text)

/-- What a group means whose members mean the given conditions. -/
def meaningOfGroup (conjunction : Conjunction) (negated : Bool) :
    List Condition → Option Condition
  | [] => none
  | members => some (Condition.negatedIf negated (Condition.join conjunction members))

mutual

/-- What a filter means. -/
def meaning (resolver : Resolver) : Filter → Except ExpressionError (Option Condition)
  | .empty _ => .ok none
  | .group active conjunction negated members =>
    if active then do
      return meaningOfGroup conjunction negated (← meanings resolver members)
    else .ok none
  | .raw active text negated => .ok (if active then meaningOfText text negated else none)
  | .predicate active p => if active then some <$> p.condition resolver else .ok none

/-- What those of the filters mean that mean anything. -/
def meanings (resolver : Resolver) : List Filter → Except ExpressionError (List Condition)
  | [] => .ok []
  | f :: rest => do
    let first ← f.meaning resolver
    let others ← meanings resolver rest
    return first.toList ++ others

end

end Filter

end Criteria
