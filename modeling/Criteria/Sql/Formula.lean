/-
Reading conditions.

The reader knows what a MySQL server makes of a condition: comparisons, IS,
LIKE, REGEXP and IN bind tighter than NOT, NOT tighter than AND, and AND
tighter than OR; parentheses group.  What it reads is a boolean tree over
atoms, and nothing is left of the spelling: letter case, blanks and the way a
literal is quoted are gone, and so are parentheses around a single formula.

A condition is taken apart into items: parentheses, conjunctions, NOT and
atoms, where an atom takes as many tokens as it needs.  A machine with a
stack of frames, one for each open parenthesis, takes one item after the
other.  A frame holds the members of an OR that are complete, the members so
far of the AND that is not, and the number of NOTs that wait for an operand.
-/
import Criteria.Sql.Token
import Criteria.Text.Case
import Criteria.Vocabulary.Conjunction
import Criteria.Vocabulary.Function
import Criteria.Vocabulary.Operator

namespace Criteria.Sql

/-- A column, maybe of a named table and with a function applied to it. -/
structure Operand where
  function : Option Function
  qualifier : Option String
  name : String
deriving DecidableEq

/-- A comparison with the contents of literals, or a truth value. -/
inductive Atom where
  | unary (operand : Operand) (operator : Operator)
  | binary (operand : Operand) (operator : Operator) (value : String)
  | list (operand : Operand) (operator : Operator) (values : List String)
  | inSet (operand : Operand) (set : String)
  | constant (holds : Bool)
deriving DecidableEq

/-- A boolean tree over atoms. -/
inductive Formula where
  | atom (atom : Atom)
  | negation (inner : Formula)
  | junction (conjunction : Conjunction) (members : List Formula)

namespace Formula

/-- The junction of formulas; a single one needs no junction. -/
def join (conjunction : Conjunction) : List Formula → Formula
  | [alone] => alone
  | members => .junction conjunction members

/-- The formula, negated as often as is said. -/
def negated : Nat → Formula → Formula
  | 0, φ => φ
  | n + 1, φ => negated n (.negation φ)

end Formula

/-! ## Atoms -/

namespace Reader

/-- The words that are not the name of a column. -/
def reserved : List String :=
  ["AND", "OR", "NOT", "IS", "IN", "LIKE", "REGEXP", "NULL", "TRUE", "FALSE"]

/-- The operators behind an operand, each with the tokens that write it. -/
def operators : List (List Token × Operator) :=
  [([.operator "="], .eq), ([.operator "!="], .ne), ([.operator "<>"], .neAngle),
    ([.operator "<=>"], .nullSafeEq), ([.operator ">"], .gt), ([.operator ">="], .gte),
    ([.operator "<"], .lt), ([.operator "<="], .lte),
    ([.word "LIKE"], .like), ([.word "NOT", .word "LIKE"], .notLike),
    ([.word "REGEXP"], .regexp), ([.word "NOT", .word "REGEXP"], .notRegexp),
    ([.word "IN"], .among), ([.word "NOT", .word "IN"], .notAmong),
    ([.word "IS", .word "NULL"], .isNull), ([.word "IS", .word "NOT", .word "NULL"], .isNotNull),
    ([.word "IS", .word "TRUE"], .isTrue), ([.word "IS", .word "NOT", .word "TRUE"], .isNotTrue),
    ([.word "IS", .word "FALSE"], .isFalse),
    ([.word "IS", .word "NOT", .word "FALSE"], .isNotFalse),
    ([.word "IS", .word "UNKNOWN"], .isUnknown),
    ([.word "IS", .word "NOT", .word "UNKNOWN"], .isNotUnknown)]

/-- The token in capitals, if it is a word. -/
def capital : Token → Token
  | .word text => .word (Text.upper text)
  | t => t

/-- Reads the name of a column; behind a point even a reserved word is one. -/
def column : List Token → Option ((Option String × String) × List Token)
  | .word first :: rest =>
    if reserved.contains (Text.upper first) then none
    else match rest with
    | .point :: .word name :: rest => some ((some first, name), rest)
    | rest => some ((none, first), rest)
  | _ => none

/-- Reads a column, or a function of one. -/
def operand : List Token → Option (Operand × List Token)
  | .word word :: .leftParen :: rest => do
    let function ← Function.all.find? (·.sql = Text.upper word)
    let ((qualifier, name), rest) ← column rest
    match rest with
    | .rightParen :: rest => some (⟨some function, qualifier, name⟩, rest)
    | _ => none
  | tokens => do
    let ((qualifier, name), rest) ← column tokens
    return (⟨none, qualifier, name⟩, rest)

/-- Reads an operator. -/
def operator (tokens : List Token) : Option (Operator × List Token) :=
  operators.findSome? fun (spelling, op) =>
    if (tokens.take spelling.length).map capital = spelling then
      some (op, tokens.drop spelling.length)
    else none

/-- Reads literals with commas between, and the parenthesis behind them. -/
def literals : List Token → Option (List String × List Token)
  | .literal content :: .comma :: rest => do
    let (contents, rest) ← literals rest
    return (content :: contents, rest)
  | .literal content :: .rightParen :: rest => some ([content], rest)
  | _ => none

/-- Reads what an operator is compared with. -/
def comparison (operand : Operand) (op : Operator) (tokens : List Token) :
    Option (Atom × List Token) :=
  match op.arity, tokens with
  | .unary, rest => some (.unary operand op, rest)
  | .binary, .literal content :: rest => some (.binary operand op content, rest)
  | .list, .leftParen :: rest => do
    let (contents, rest) ← literals rest
    return (.list operand op contents, rest)
  | _, _ => none

/-- Reads an atom. -/
def atom : List Token → Option (Atom × List Token)
  | .number "1" :: .operator "=" :: .number "1" :: rest => some (.constant true, rest)
  | .number "1" :: .operator "=" :: .number "0" :: rest => some (.constant false, rest)
  | .word word :: .leftParen :: .literal set :: .comma :: rest => do
    let (operand, rest) ← operand rest
    match rest with
    | .rightParen :: rest =>
      if Text.upper word = "FIND_IN_SET" then some (.inSet operand set, rest) else none
    | _ => none
  | tokens => do
    let (operand, rest) ← operand tokens
    let (op, rest) ← operator rest
    comparison operand op rest

/-! ## Items -/

/-- A part of a condition. -/
inductive Item where
  | opening
  | closing
  | conjunction (conjunction : Conjunction)
  | negation
  | atom (atom : Atom)

/-- Reads an item. -/
def item (tokens : List Token) : Option (Item × List Token) :=
  match tokens with
  | .leftParen :: rest => some (.opening, rest)
  | .rightParen :: rest => some (.closing, rest)
  | t :: rest =>
    if capital t = .word "AND" then some (.conjunction .and, rest)
    else if capital t = .word "OR" then some (.conjunction .or, rest)
    else if capital t = .word "NOT" then some (.negation, rest)
    else do
      let (atom, rest) ← atom tokens
      return (.atom atom, rest)
  | [] => none

section

variable {tokens rest : List Token}

theorem column_length {name : Option String × String} (h : column tokens = some (name, rest)) :
    rest.length < tokens.length := by
  unfold column at h
  grind

theorem operand_length {operand : Operand} (h : Reader.operand tokens = some (operand, rest)) :
    rest.length < tokens.length := by
  unfold Reader.operand at h
  split at h
  · simp only [Option.bind_eq_bind, Option.bind_eq_some_iff] at h
    obtain ⟨function, -, ⟨name, others⟩, hcolumn, h⟩ := h
    have := column_length hcolumn
    grind
  · simp only [Option.bind_eq_bind, Option.bind_eq_some_iff] at h
    obtain ⟨⟨name, others⟩, hcolumn, h⟩ := h
    have := column_length hcolumn
    grind

theorem operator_length {op : Operator} (h : operator tokens = some (op, rest)) :
    rest.length ≤ tokens.length := by
  obtain ⟨⟨spelling, _⟩, -, h⟩ := List.exists_of_findSome?_eq_some h
  grind

theorem literals_length {contents : List String} (h : literals tokens = some (contents, rest)) :
    rest.length < tokens.length := by
  fun_induction literals tokens generalizing contents rest with
  | case1 content rest' ih =>
      simp only [Option.bind_eq_bind, Option.bind_eq_some_iff] at h
      obtain ⟨⟨others, rest''⟩, hothers, h⟩ := h
      have := ih hothers
      grind
  | case2 content rest' => grind
  | case3 => grind

theorem comparison_length {operand : Operand} {op : Operator} {atom : Atom}
    (h : comparison operand op tokens = some (atom, rest)) : rest.length ≤ tokens.length := by
  unfold comparison at h
  split at h
  · grind
  · grind
  · simp only [Option.bind_eq_bind, Option.bind_eq_some_iff] at h
    obtain ⟨⟨contents, others⟩, hliterals, h⟩ := h
    have := literals_length hliterals
    grind
  · grind

theorem atom_length {a : Atom} (h : atom tokens = some (a, rest)) :
    rest.length < tokens.length := by
  unfold atom at h
  split at h
  · grind
  · grind
  · simp only [Option.bind_eq_bind, Option.bind_eq_some_iff] at h
    obtain ⟨⟨operand, others⟩, hoperand, h⟩ := h
    have := operand_length hoperand
    grind
  · simp only [Option.bind_eq_bind, Option.bind_eq_some_iff] at h
    obtain ⟨⟨operand, others⟩, hoperand, ⟨op, others'⟩, hoperator, h⟩ := h
    have := operand_length hoperand
    have := operator_length hoperator
    have := comparison_length h
    grind

theorem item_length {i : Item} (h : item tokens = some (i, rest)) :
    rest.length < tokens.length := by
  unfold item at h
  split at h
  · grind
  · grind
  · repeat' split at h
    all_goals try grind
    simp only [Option.bind_eq_bind, Option.bind_eq_some_iff] at h
    obtain ⟨⟨a, others⟩, hatom, h⟩ := h
    have := atom_length hatom
    grind
  · grind

end

/-! ## The machine -/

/-- What is known between an open parenthesis and the one that closes it. -/
structure Frame where
  disjuncts : List Formula := []
  conjuncts : List Formula := []
  negations : Nat := 0

namespace Frame

/-- An operand belongs to the AND that is not complete, negated as often as was said. -/
def add (frame : Frame) (φ : Formula) : Frame :=
  { frame with conjuncts := frame.conjuncts ++ [.negated frame.negations φ], negations := 0 }

/-- The AND is complete: it is a member of the OR. -/
def endConjuncts (frame : Frame) : Frame :=
  { disjuncts := frame.disjuncts ++ [.join .and frame.conjuncts] }

/-- All of the frame as one formula. -/
def formula (frame : Frame) : Formula :=
  .join .or frame.endConjuncts.disjuncts

end Frame

/-- What a reader waits for, in which frame, and the frames around it from the inside out: an
operand, or what may follow one. -/
inductive State where
  | expecting (frame : Frame) (outer : List Frame)
  | complete (frame : Frame) (outer : List Frame)

/-- Takes one item. -/
def step : State → Item → Option State
  | .expecting frame outer, .atom atom => some (.complete (frame.add (.atom atom)) outer)
  | .expecting frame outer, .negation =>
    some (.expecting { frame with negations := frame.negations + 1 } outer)
  | .expecting frame outer, .opening => some (.expecting {} (frame :: outer))
  | .complete frame outer, .conjunction .and => some (.expecting frame outer)
  | .complete frame outer, .conjunction .or => some (.expecting frame.endConjuncts outer)
  | .complete frame (around :: outer), .closing =>
    some (.complete (around.add frame.formula) outer)
  | _, _ => none

/-- Reads the rest of a condition; at the end no operand and no parenthesis may be missing. -/
def condition (state : State) (tokens : List Token) : Option Formula :=
  match tokens with
  | [] =>
    match state with
    | .complete frame [] => some frame.formula
    | _ => none
  | t :: rest =>
    match _h : item (t :: rest) with
    | none => none
    | some (i, others) =>
      match step state i with
      | none => none
      | some state => condition state others
termination_by tokens.length
decreasing_by exact item_length _h

end Reader

/-- The formula that a condition writes, unless it is refused. -/
def Formula.ofText? (text : String) : Option Formula := do
  Reader.condition (.expecting {} []) (← tokens? text)

end Criteria.Sql
