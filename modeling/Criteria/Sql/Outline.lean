/-
Outlines of conditions.

The outline of a condition is its boolean tree over operands that nothing is
known about: comparisons, calls, subqueries and whatever else the language
has.  It is what a MySQL server makes of AND, XOR, OR, NOT and parentheses,
where NOT binds tighter than AND, AND tighter than XOR, and XOR tighter than
OR.

A condition is read in three steps.  Its symbols are nested by parentheses,
and by CASE and END, into items.  The items are divided at the connectives
that stand outside all of these into a chain of operands, each with its NOTs
in front; the AND of a BETWEEN belongs to an operand.  The precedence of the
connectives then makes a tree of the chain.  An operand that is nothing but a
pair of parentheses is the tree of what stands in them.

As nothing is known about operands, an outline says of each assignment of
truth values to them whether it holds, in the logic of three values that the
language has.
-/
import Criteria.Sql.Symbol
import Criteria.Text.Case
import Criteria.Vocabulary.Conjunction

namespace Criteria

namespace Sql

/-! ## Trees and their truth values -/

/-- A truth value; none is the unknown one. -/
abbrev Truth := Option Bool

/-- What joins two operands. -/
inductive Connective where
  | and
  | xor
  | or
deriving DecidableEq, Repr

namespace Connective

/-- The truth value of two operands joined. -/
def combine : Connective → Truth → Truth → Truth
  | .and, a, b => if a = some false ∨ b = some false then some false else do return (← a) && (← b)
  | .or, a, b => if a = some true ∨ b = some true then some true else do return (← a) || (← b)
  | .xor, a, b => do return (← a) != (← b)

/-- The truth value that changes nothing it is joined with. -/
def unit : Connective → Truth
  | .and => some true
  | .xor | .or => some false

/-- The truth value of all operands joined. -/
def combineAll (k : Connective) (values : List Truth) : Truth :=
  values.foldr k.combine k.unit

end Connective

/-- A boolean tree over operands, each of which is the symbols that write it. -/
inductive Outline where
  | operand (symbols : List Symbol)
  | negation (inner : Outline)
  | junction (connective : Connective) (members : List Outline)

namespace Outline

/-- The junction of outlines; a single one needs no junction. -/
def join (connective : Connective) : List Outline → Outline
  | [alone] => alone
  | members => .junction connective members

mutual

/-- The truth value where those of the operands are known. -/
def truth (value : List Symbol → Truth) : Outline → Truth
  | .operand symbols => value symbols
  | .negation inner => do return !(← inner.truth value)
  | .junction connective members => connective.combineAll (truths value members)

/-- The truth values of the members of a junction. -/
def truths (value : List Symbol → Truth) : List Outline → List Truth
  | [] => []
  | o :: rest => o.truth value :: truths value rest

end

end Outline

/-! ## Chains and precedence -/

/-- Operands with a connective between each two. -/
structure Chain where
  first : Outline
  rest : List (Connective × Outline) := []

namespace Chain

/-- The operands of a chain. -/
def operands (chain : Chain) : List Outline :=
  chain.first :: chain.rest.map Prod.snd

/-- The connectives of a chain. -/
def connectives (chain : Chain) : List Connective :=
  chain.rest.map Prod.fst

/-- The chain as it stands in front of more, divided at a connective. -/
def divideFrom (k : Connective) (chain : Chain) : List (Connective × Outline) → List Chain
  | [] => [chain]
  | (j, o) :: rest =>
    if j = k then chain :: divideFrom k ⟨o, []⟩ rest
    else divideFrom k ⟨chain.first, chain.rest ++ [(j, o)]⟩ rest

/-- The chains between the connectives of one kind. -/
def divide (k : Connective) (chain : Chain) : List Chain :=
  divideFrom k ⟨chain.first, []⟩ chain.rest

/-- The tree that the precedence of the connectives makes of a chain. -/
def outline (chain : Chain) : Outline :=
  .join .or <| (chain.divide .or).map fun disjunct =>
    .join .xor <| (disjunct.divide .xor).map fun part => .join .and part.operands

/-- The chain with NOT in front, which belongs to the first operand. -/
def negate (chain : Chain) : Chain :=
  ⟨.negation chain.first, chain.rest⟩

/-- One chain behind another. -/
def append (k : Connective) (chain other : Chain) : Chain :=
  ⟨chain.first, chain.rest ++ (k, other.first) :: other.rest⟩

end Chain

/-! ## Items -/

/-- What an item is good for. -/
inductive Role where
  | and
  | connective (connective : Connective)
  | negation
  | between
  | query
  | group (inner : Option Outline)
  | other

/-- A part of a condition that is not looked into any further, with its symbols. -/
structure Item where
  role : Role
  symbols : List Symbol

/-- The role of a symbol that is no bracket; && joins operands, but it is not the AND of a
BETWEEN. -/
def Symbol.role : Symbol → Role
  | .word text =>
    match Text.upper text with
    | "AND" => .and
    | "XOR" => .connective .xor
    | "OR" => .connective .or
    | "NOT" => .negation
    | "BETWEEN" => .between
    | "SELECT" => .query
    | _ => .other
  | .sign "&&" => .connective .and
  | .sign "||" => .connective .or
  | _ => .other

namespace Item

/-- The item of a symbol. -/
def ofSymbol (symbol : Symbol) : Item :=
  ⟨symbol.role, [symbol]⟩

/-- What an item does where some BETWEENs wait for their AND: it divides the operands, or belongs
to one of them; and the number of BETWEENs that wait behind it. -/
def divides? (i : Item) (betweens : Nat) : Option (Option Connective × Nat) :=
  match i.role, betweens with
  | .and, 0 => some (some .and, 0)
  | .and, n + 1 => some (none, n)
  | .connective k, 0 => some (some k, 0)
  | .connective _, _ + 1 => none
  | .between, n => some (none, n + 1)
  | _, n => some (none, n)

/-- The items of the operands, and the connectives between. -/
def segments (betweens : Nat) : List Item → Option (List Item × List (Connective × List Item))
  | [] => if betweens = 0 then some ([], []) else none
  | i :: rest => do
    let (divider, betweens) ← i.divides? betweens
    let (first, others) ← segments betweens rest
    match divider with
    | some k => return ([], (k, first) :: others)
    | none => return (i :: first, others)

/-- The items write a query, which is an operand only in parentheses. -/
def isQuery (items : List Item) : Bool :=
  items.any fun i => i.role matches .query

/-- The outline of an operand with its NOTs in front. -/
def operand? : List Item → Option Outline
  | [] => none
  | ⟨.negation, _⟩ :: rest => .negation <$> operand? rest
  | [⟨.group inner, _⟩] => inner
  | items => if isQuery items then none else some (.operand (items.flatMap symbols))

/-- The chain of items. -/
def chain? (items : List Item) : Option Chain := do
  let (first, others) ← segments 0 items
  let first ← operand? first
  let rest ← others.mapM fun (k, items) => (k, ·) <$> operand? items
  return ⟨first, rest⟩

/-- Items in parentheses. -/
def enclosed (items : List Item) : Item where
  role := .group <|
    match chain? items with
    | some chain => some chain.outline
    | none => if isQuery items then some (.operand (items.flatMap symbols)) else none
  symbols := .sign "(" :: (items.flatMap symbols ++ [.sign ")"])

/-- Items between CASE and END, in which no connective is looked for. -/
def choice (items : List Item) : Item where
  role := .other
  symbols := .word "CASE" :: (items.flatMap symbols ++ [.word "END"])

end Item

/-! ## Nesting -/

/-- What opens and closes. -/
inductive Bracket where
  | parenthesis
  | case
deriving DecidableEq

/-- A symbol opens or closes something, or does not. -/
inductive Edge where
  | opening (bracket : Bracket)
  | closing (bracket : Bracket)
  | neither

/-- What a symbol opens or closes; the word END closes only what CASE has opened. -/
def Symbol.edge : Symbol → Edge
  | .sign "(" => .opening .parenthesis
  | .sign ")" => .closing .parenthesis
  | .word text =>
    if Text.upper text = "CASE" then .opening .case
    else if Text.upper text = "END" then .closing .case
    else .neither
  | _ => .neither

/-- The items of the innermost bracket that is open, and those in front of each open bracket from
the inside out. -/
structure Nesting where
  items : List Item := []
  outer : List (Bracket × List Item) := []

namespace Nesting

/-- Takes one symbol. -/
def step (nesting : Nesting) (symbol : Symbol) : Option Nesting :=
  match symbol.edge, nesting.outer with
  | .opening bracket, outer => some ⟨[], (bracket, nesting.items) :: outer⟩
  | .closing .parenthesis, (.parenthesis, before) :: outer =>
    some ⟨before ++ [.enclosed nesting.items], outer⟩
  | .closing .parenthesis, _ => none
  | .closing .case, (.case, before) :: outer => some ⟨before ++ [.choice nesting.items], outer⟩
  | _, outer => some ⟨nesting.items ++ [.ofSymbol symbol], outer⟩

/-- Takes symbols one after the other. -/
def run (nesting : Nesting) (symbols : List Symbol) : Option Nesting :=
  symbols.foldlM step nesting

end Nesting

/-- The items of a text, unless it is refused; at its end nothing may be open. -/
def items? (text : String) : Option (List Item) := do
  match ← Nesting.run {} (← symbols? text) with
  | ⟨items, []⟩ => some items
  | _ => none

/-- The chain that a condition writes, unless it is refused. -/
def Chain.ofText? (text : String) : Option Chain := do
  Item.chain? (← items? text)

/-- The outline that a condition writes, unless it is refused. -/
def Outline.ofText? (text : String) : Option Outline :=
  Chain.outline <$> Chain.ofText? text

end Sql

/-- The connective that joins the members of a group. -/
def Conjunction.connective : Conjunction → Sql.Connective
  | and => .and
  | or => .or

end Criteria
