/-
Rules for the descriptions of filters.

A description is a tree: its nodes are the description itself and those that
are nested in the filters of a node.  Each node has rules of its own, which
look at nothing below it: how deep it may lie, which tokens and names it may
have, and, where it compares fields, with which operator and which value.  A
text among the filters of a node is no node and has no rules.

`violations` lists what a node breaks, in the order in which its rules are
looked at.  `visible` is the other side of a description: what is left of it
when everything is taken away that its filter does not show.
-/
import Criteria.Error
import Criteria.Input.Filter
import Criteria.Json.Printer
import Criteria.Vocabulary.Conjunction
import Criteria.Vocabulary.Function

namespace Criteria

namespace FilterInput

/-! ## Nodes -/

/-- A node of a description and its level, which is 1 for the description itself. -/
inductive Reaches (root : FilterInput) : Nat → FilterInput → Prop
  | root : Reaches root 1 root
  | nested {level : Nat} {node inner : FilterInput} :
      Reaches root level node → .nested inner ∈ node.filters → Reaches root (level + 1) inner

mutual

/-- The nodes of a description at a level, each with its own level and in front of those nested in
it. -/
def nodes (level : Nat) : FilterInput → List (Nat × FilterInput)
  | ⟨active, condition, filters, property, value, operator, func, operand⟩ =>
    (level, ⟨active, condition, filters, property, value, operator, func, operand⟩) ::
      nodesOf (level + 1) filters

/-- The nodes among filters that are nested at a level. -/
def nodesOf (level : Nat) : List (FilterEntry FilterInput) → List (Nat × FilterInput)
  | [] => []
  | entry :: rest => nodesOfEntry level entry ++ nodesOf level rest

/-- The nodes of a filter that is nested at a level; a text has none. -/
def nodesOfEntry (level : Nat) : FilterEntry FilterInput → List (Nat × FilterInput)
  | .nested input => input.nodes level
  | .fragment _ => []

end

/-! ## What a node may be -/

/-- The names of the fields. -/
def names (property : Option (OneOrMany String)) : List String :=
  property.elim [] OneOrMany.toList

/-- The values that fields are compared with, one by one. -/
def compared : Option Json → List Json
  | none | some .null => []
  | some (.list items) => items
  | some value => [value]

/-- The token means NOT. -/
def isNegation (token : String) : Bool :=
  Operator.ofToken? (Text.trim token) = some .not

/-- The node compares fields: it has some, and neither filters nor a condition. -/
def IsLeaf (node : FilterInput) : Prop :=
  node.filters = [] ∧ node.condition.getD "" = "" ∧ names node.property ≠ []

instance (node : FilterInput) : Decidable node.IsLeaf :=
  inferInstanceAs (Decidable (_ ∧ _ ∧ _))

/-- The token is missing or blank, or it has a meaning. -/
def IsKnown {α : Type} (find? : String → Option α) (token : Option String) : Prop :=
  ∀ text ∈ token, Text.trim text = "" ∨ ∃ meaning, find? (Text.trim text) = some meaning

/-- The node at a level breaks no rule. -/
structure IsValidAt (maxDepth level : Nat) (node : FilterInput) : Prop where
  level : level ≤ maxDepth
  operator : IsKnown Operator.ofToken? node.operator
  function : IsKnown Function.ofToken? node.func
  conjunction : IsKnown Conjunction.ofToken? node.operand
  fields : ∀ name ∈ names node.property, ∃ field, FieldName.ofText (Text.trim name) = .ok field
  comparison : node.IsLeaf →
    (∀ token ∈ node.operator, ¬isNegation token) ∧ ∀ value ∈ compared node.value, value.isScalar

/-! ## What a node breaks -/

/-- The error of a token that is neither missing nor blank and has no meaning. -/
def tokenErrors {α : Type} (find? : String → Option α) (error : String → ExpressionError)
    (token : Option String) : List ExpressionError :=
  ((token.map Text.trim).toList.filter fun text => !text.isEmpty && (find? text).isNone).map error

/-- The error of a name that names no field. -/
def nameErrors (name : String) : List ExpressionError :=
  match FieldName.ofText (Text.trim name) with
  | .ok _ => []
  | .error error => [.badField error]

/-- The error of a value that is no scalar. -/
def scalarErrors (value : Json) : List ExpressionError :=
  if value.isScalar then [] else [.notScalar value.text]

/-- The errors of the tokens and the names of a node. -/
def headingErrors (node : FilterInput) : List ExpressionError :=
  tokenErrors Operator.ofToken? .unknownOperator node.operator ++
    (tokenErrors Function.ofToken? .unknownFunction node.func ++
      (tokenErrors Conjunction.ofToken? .unknownConjunction node.operand ++
        (names node.property).flatMap nameErrors))

/-- The errors of what a node compares fields with, if it does. -/
def comparisonErrors (node : FilterInput) : List ExpressionError :=
  if node.IsLeaf then
    (if node.operator.any isNegation then [.ambiguousNegation] else []) ++
      (compared node.value).flatMap scalarErrors
  else []

/-- What the node at a level breaks, in the order of its rules. -/
def violations (maxDepth level : Nat) (node : FilterInput) : List ExpressionError :=
  (if maxDepth < level then [.tooDeep maxDepth] else []) ++
    (node.headingErrors ++ node.comparisonErrors)

/-! ## What a filter shows of its description -/

mutual

/-- A description without what its filter does not show.  Filters hide the condition, the fields,
the function and the value of their node; a condition hides all of these but itself, and the
conjunction; of an operator that compares nothing only NOT is left. -/
def visible : FilterInput → FilterInput
  | ⟨active, condition, filters, property, value, operator, func, operand⟩ =>
    if !filters.isEmpty then
      { active, filters := visibleEntries filters, operator := operator.filter isNegation, operand }
    else if condition.getD "" ≠ "" then
      { active, condition, operator := operator.filter isNegation }
    else if names property ≠ [] then { active, property, value, operator, func }
    else { active }

/-- Filters of a node without what they do not show. -/
def visibleEntries : List (FilterEntry FilterInput) → List (FilterEntry FilterInput)
  | [] => []
  | entry :: rest => visibleEntry entry :: visibleEntries rest

/-- A filter of a node without what it does not show. -/
def visibleEntry : FilterEntry FilterInput → FilterEntry FilterInput
  | .nested input => .nested input.visible
  | .fragment sql => .fragment sql

end

end FilterInput

end Criteria
