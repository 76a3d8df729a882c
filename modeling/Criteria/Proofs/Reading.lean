/-
# `Criteria.Proofs.Reading` — the text of a filter says what the filter says

## What is proved

The text of a filter without text of the caller's own, and without a
predicate that has the operator NOT, is read to its end as the boolean tree
of the filter, by the rules of precedence: comparisons before NOT, NOT
before AND, AND before OR.

## Why no parenthesis is missing

Compiling writes parentheses around the members of a junction when there are
two or more of them, and nowhere else.  What has to be seen is that the text
of a condition is one operand, wherever an operand may stand: behind any
number of NOTs, in the middle of an AND or an OR, and inside any number of
parentheses.  So the invariant (`Formula.ReadFrom`) quantifies over what the
reader has seen and over what follows:

    reading the lexemes of the condition, with a frame that waits for an
    operand, is the same as having the formula added to that frame.

A NOT in front keeps it because the negation waits in the frame with the
others; a junction keeps it because its parentheses open a frame of its own;
and a single member keeps it by itself.
-/
import Mathlib.Data.List.Forall2
import Criteria.Filter.Tree
import Criteria.Proofs.Lexemes
import Criteria.Proofs.Parts

namespace Criteria

open Outcome Sql

/-! ## Reading atoms -/

namespace Sql.Reader

variable {tokens rest : List Token}

/-- AND, OR and NOT are neither functions nor columns. -/
theorem operand_eq_none_of_conjunction {word : String}
    (h : Text.upper word ∈ ["AND", "OR", "NOT"]) : operand (.word word :: rest) = none := by
  simp only [List.mem_cons, List.not_mem_nil, or_false] at h
  have hfunction : Function.all.find? (·.sql = Text.upper word) = none := by
    rcases h with h | h | h <;> rw [h] <;> decide
  have hreserved : Text.upper word ∈ reserved := by
    rcases h with h | h | h <;> rw [h] <;> decide
  unfold operand
  split
  · next heq =>
      obtain ⟨hword, -⟩ := List.cons_eq_cons.mp heq
      obtain rfl := Token.word.inj hword
      simp [hfunction]
  · simp [column, hreserved]

theorem atom_eq_none_of_conjunction {word : String} (h : Text.upper word ∈ ["AND", "OR", "NOT"]) :
    atom (.word word :: rest) = none := by
  have hset : Text.upper word ≠ "FIND_IN_SET" := by
    intro hset
    rw [hset] at h
    exact absurd h (by decide)
  unfold atom
  split
  · next heq => exact absurd heq (by simp)
  · next heq => exact absurd heq (by simp)
  · next heq =>
      obtain ⟨hword, -⟩ := List.cons_eq_cons.mp heq
      obtain rfl := Token.word.inj hword
      simp only [Option.bind_eq_bind, Option.bind_eq_none_iff]
      intro x _
      split <;> simp [hset]
  · simp [operand_eq_none_of_conjunction h]

/-- An atom is an item. -/
theorem item_of_atom {a : Atom} (h : atom tokens = some (a, rest)) :
    item tokens = some (.atom a, rest) := by
  unfold item
  split
  · exact absurd h (by simp [atom, operand, column])
  · exact absurd h (by simp [atom, operand, column])
  · next t others hleft hright =>
      have hword : ∀ w ∈ ["AND", "OR", "NOT"], capital t ≠ .word w := by
        intro w hw hcapital
        cases t with
        | word word =>
            obtain rfl := Token.word.inj hcapital
            exact absurd h (by simp [atom_eq_none_of_conjunction hw])
        | _ => exact absurd hcapital (by simp [capital])
      simp [hword, h]
  · exact absurd h (by simp [atom, operand, column])

/-- What begins with an operand is a comparison. -/
theorem atom_of_operand {o : Operand} (h : operand tokens = some (o, rest)) :
    atom tokens = operator rest >>= fun (op, rest) => comparison o op rest := by
  unfold atom
  split
  · exact absurd h (by simp [operand, column])
  · exact absurd h (by simp [operand, column])
  · exact absurd h (by simp [operand, column])
  · simp [h]

end Sql.Reader

/-! ## Reading the parts of a comparison -/

/-- An operator begins with a token that no operand goes on with. -/
theorem Operator.tokens_eq_cons (op : Operator) :
    ∃ t ts, op.tokens = t :: ts ∧ t ≠ .point ∧ t ≠ .leftParen := by
  cases op <;> exact ⟨_, _, rfl, by decide, by decide⟩

theorem Operator.eq_of_arity_list {op : Operator} (h : op.arity = .list) :
    op = .among ∨ op = .notAmong := by
  cases op <;> simp_all [arity]

theorem Operator.read_tokens {op : Operator} (hnot : op ≠ .not) (hset : op.arity ≠ .set)
    (rest : List Token) : Reader.operator (op.tokens ++ rest) = some (op, rest) := by
  cases op with
  | not => exact absurd rfl hnot
  | findInSet => exact absurd rfl hset
  | _ => rfl

theorem Function.find?_sql (f : Function) :
    Function.all.find? (·.sql = Text.upper f.sql) = some f := by
  cases f <;> decide

theorem Identifier.upper_notMem_reserved (id : Identifier) :
    Text.upper id.text ∉ Reader.reserved := by
  obtain ⟨_, _, -, -, -, -, hkeyword⟩ := Identifier.fault?_eq_none_iff.mp id.faultless
  intro hreserved
  have hsub : ∀ w ∈ Reader.reserved, keywords.contains w := by decide
  exact hkeyword (hsub _ hreserved)

/-- The name of a column is read, where no point follows it. -/
theorem FieldName.read_tokens (field : FieldName) {t : Token} (rest : List Token)
    (ht : t ≠ .point) : Reader.column (field.tokens ++ t :: rest) =
      some ((field.qualifier.map Identifier.text, field.name.text), t :: rest) := by
  obtain ⟨qualifier, name⟩ := field
  cases qualifier with
  | none =>
      have hname := name.upper_notMem_reserved
      cases t <;> simp_all [tokens, Reader.column]
  | some qualifier =>
      have hqualifier := qualifier.upper_notMem_reserved
      simp [tokens, Reader.column, hqualifier]

/-- The operand that a target is. -/
def Target.operand (target : Target) : Operand where
  function := target.function
  qualifier := target.column.qualifier.map Identifier.text
  name := target.column.name.text

/-- A target is read, where neither a point nor a parenthesis follows it. -/
theorem Target.read_tokens (target : Target) {t : Token} (rest : List Token)
    (hpoint : t ≠ .point) (hparen : t ≠ .leftParen) :
    Reader.operand (target.tokens ++ t :: rest) = some (target.operand, t :: rest) := by
  obtain ⟨column, function⟩ := target
  cases function with
  | some function =>
      have hparen : Token.rightParen ≠ .point := by decide
      have hcolumn := column.read_tokens (t :: rest) hparen
      simp [tokens, Reader.operand, function.find?_sql, hcolumn, operand]
  | none =>
      have hcolumn := column.read_tokens rest hpoint
      unfold Reader.operand
      split
      · next word others heq =>
          obtain ⟨qualifier, name⟩ := column
          cases qualifier <;> simp_all [tokens, FieldName.tokens]
      · simp [tokens, hcolumn, operand]

/-- The literals of values are read, with the parenthesis behind them. -/
theorem Scalar.read_literals (values : List Scalar) (hne : values ≠ []) (rest : List Token) :
    Reader.literals ([Token.comma].intercalate (values.map fun v => [.literal v.literal]) ++
        .rightParen :: rest) = some (values.map Scalar.literal, rest) := by
  induction values with
  | nil => exact absurd rfl hne
  | cons v others ih =>
      cases others with
      | nil => simp [Reader.literals]
      | cons w others =>
          have ihOthers := ih (by simp)
          simp only [List.map_cons, List.intercalate_cons_cons, List.append_assoc] at ihOthers ⊢
          simp only [List.cons_append, List.nil_append, Reader.literals, ihOthers]
          rfl

/-- A target with an operator behind it is the left side of a comparison. -/
theorem Reader.atom_of_target {target : Target} {op : Operator} (hnot : op ≠ .not)
    (hset : op.arity ≠ .set) (rest : List Token) :
    Reader.atom (target.tokens ++ (op.tokens ++ rest)) =
      Reader.comparison target.operand op rest := by
  have hoperator := Operator.read_tokens hnot hset rest
  obtain ⟨t, ts, htokens, hpoint, hparen⟩ := op.tokens_eq_cons
  rw [htokens, List.cons_append] at hoperator ⊢
  have htarget := target.read_tokens (ts ++ rest) hpoint hparen
  rw [Reader.atom_of_operand htarget, hoperator]
  rfl

theorem Reader.comparison_list {o : Operand} {op : Operator} (harity : op.arity = .list)
    (rest : List Token) : Reader.comparison o op (.leftParen :: rest) =
      Reader.literals rest >>= fun (contents, rest) => some (.list o op contents, rest) := by
  simp [Reader.comparison, harity]

/-! ## Predicates -/

namespace Predicate

variable {p : Predicate}

theorem required_eq_ok {comparand : Comparand} :
    p.required = .ok comparand ↔ p.comparand = some comparand := by
  unfold required
  cases p.comparand <;> simp

/-- A column with the operator of the predicate behind it is the left side of a comparison. -/
theorem atom_of_operator (column : FieldName) (hnot : p.operator ≠ .not)
    (hset : p.operator.arity ≠ .set) (rest : List Token) :
    Reader.atom (Target.tokens ⟨column, p.function⟩ ++ (p.operator.tokens ++ rest)) =
      Reader.comparison (p.operand column) p.operator rest :=
  Reader.atom_of_target hnot hset rest

/-- The test that a predicate makes of a column is read as its comparison of the column. -/
theorem read_test {column : FieldName} {t : Test} (hnot : p.operator ≠ .not)
    (h : p.test column = .ok t) :
    ∃ a, p.atom column = some a ∧ ∀ rest,
      Reader.atom (t.lexemes.map (Lexeme.write .inline) ++ rest) = some (a, rest) := by
  unfold test at h
  unfold atom
  cases harity : p.operator.arity with
  | unary =>
      simp only [harity] at h
      obtain rfl := Except.ok.inj h
      refine ⟨_, rfl, fun rest => ?_⟩
      have hatom := atom_of_operator column hnot (by simp [harity]) rest
      simp [Test.lexemes, Function.comp_def, hatom, Reader.comparison, harity]
  | binary =>
      simp only [harity] at h
      obtain ⟨comparand, hcomparand, h⟩ := bind_eq_ok.mp h
      rw [required_eq_ok.mp hcomparand]
      cases comparand with
      | list values => exact absurd h (by simp)
      | single v =>
          obtain rfl := Except.ok.inj h
          refine ⟨_, rfl, fun rest => ?_⟩
          have hatom := atom_of_operator column hnot (by simp [harity])
            (.literal v.literal :: rest)
          simp [Test.lexemes, Function.comp_def, Lexeme.write, hatom, Reader.comparison, harity]
  | list =>
      simp only [harity] at h
      obtain ⟨comparand, hcomparand, h⟩ := bind_eq_ok.mp h
      rw [required_eq_ok.mp hcomparand]
      cases hvalues : comparand.values with
      | nil =>
          rw [hvalues] at h
          obtain rfl := Except.ok.inj h
          refine ⟨.constant (p.operator = .notAmong), by simp [hvalues], fun rest => ?_⟩
          rcases Operator.eq_of_arity_list harity with hop | hop <;>
            simp [Test.lexemes, hop, Reader.atom]
      | cons v others =>
          rw [hvalues] at h
          obtain rfl := Except.ok.inj h
          refine ⟨.list (p.operand column) p.operator ((v :: others).map Scalar.literal),
            by simp [hvalues], fun rest => ?_⟩
          have hliterals := Scalar.read_literals (v :: others) (by simp) rest
          have hatom := atom_of_operator column hnot (by simp [harity])
            (.leftParen :: ([Token.comma].intercalate
              ((v :: others).map fun v => [.literal v.literal]) ++ .rightParen :: rest))
          rw [Reader.comparison_list harity, hliterals] at hatom
          simpa [Test.lexemes, Parts.map_intercalate, Function.comp_def, Lexeme.write]
            using hatom
  | set =>
      simp only [harity] at h
      obtain ⟨comparand, hcomparand, h⟩ := bind_eq_ok.mp h
      rw [required_eq_ok.mp hcomparand]
      obtain rfl := Except.ok.inj h
      refine ⟨_, rfl, fun rest => ?_⟩
      have hpoint : Token.rightParen ≠ .point := by decide
      have hparen : Token.rightParen ≠ .leftParen := by decide
      have htarget := Target.read_tokens ⟨column, p.function⟩ rest hpoint hparen
      have hword : Text.upper "FIND_IN_SET" = "FIND_IN_SET" := by decide
      simp [Test.lexemes, Function.comp_def, Lexeme.write, Reader.atom, htarget, hword]
      rfl

end Predicate

/-! ## Operands in a frame -/

namespace Sql.Reader

variable {tokens rest : List Token} {state next : State} {i : Item}

@[simp] theorem Frame.add_unnegated (disjuncts conjuncts : List Formula) (φ : Formula) :
    Frame.add { disjuncts, conjuncts } φ = { disjuncts, conjuncts := conjuncts ++ [φ] } := rfl

theorem condition_step (hitem : item tokens = some (i, rest)) (hstep : step state i = some next) :
    condition state tokens = condition next rest := by
  cases tokens with
  | nil => exact absurd hitem (by simp [item])
  | cons t others =>
      rw [condition]
      split
      · next h => simp [hitem] at h
      · next j rest' h =>
          obtain ⟨rfl, rfl⟩ := Prod.mk.inj (Option.some.inj (hitem.symm.trans h))
          simp [hstep]

theorem item_conjunction (k : Conjunction) :
    item (.word k.sql :: rest) = some (.conjunction k, rest) := by
  cases k <;> rfl

end Sql.Reader

namespace Sql.Formula

/-- Wherever an operand may stand, the lexemes are read as the formula, and all of them are. -/
def ReadFrom (φ : Formula) (ls : List Lexeme) : Prop :=
  ∀ frame outer rest,
    Reader.condition (.expecting frame outer) (ls.map (Lexeme.write .inline) ++ rest) =
      Reader.condition (.complete (frame.add φ) outer) rest

/-- The formulas are read from the conditions, each from its own. -/
abbrev ReadFromEach (φs : List Formula) (cs : List Condition) : Prop :=
  List.Forall₂ (fun φ c => φ.ReadFrom c.lexemes) φs cs

variable {φ : Formula} {φs : List Formula} {ls : List Lexeme} {lss : List (List Lexeme)}

theorem ReadFrom.atom {a : Atom}
    (h : ∀ rest, Reader.atom (ls.map (Lexeme.write .inline) ++ rest) = some (a, rest)) :
    ReadFrom (.atom a) ls :=
  fun _ _ rest => Reader.condition_step (Reader.item_of_atom (h rest)) rfl

theorem ReadFrom.negation (h : ReadFrom φ ls) :
    ReadFrom (.negation φ) (.token (.word "NOT") :: ls) := by
  intro frame outer rest
  have hitem : Reader.item (.word "NOT" :: (ls.map (Lexeme.write .inline) ++ rest)) =
      some (.negation, ls.map (Lexeme.write .inline) ++ rest) := rfl
  exact (Reader.condition_step hitem rfl).trans (h _ outer rest)

/-- The members of an AND are added to the frame one after the other. -/
theorem condition_and (h : List.Forall₂ ReadFrom φs lss) (hne : φs ≠ [])
    (disjuncts conjuncts : List Formula) (outer : List Reader.Frame) (rest : List Token) :
    Reader.condition (.expecting { disjuncts, conjuncts } outer)
        (([Lexeme.token (.word "AND")].intercalate lss).map (Lexeme.write .inline) ++ rest) =
      Reader.condition (.complete { disjuncts, conjuncts := conjuncts ++ φs } outer) rest := by
  induction h generalizing conjuncts with
  | nil => exact absurd rfl hne
  | @cons φ ls φs lss hφ hφs ih =>
      cases hφs with
      | nil =>
          rw [List.intercalate_singleton]
          exact hφ _ outer rest
      | cons hψ hψs =>
          have hrest := ih (by simp) (conjuncts ++ [φ])
          simp only [List.intercalate_cons_cons, List.map_append, List.append_assoc]
          rw [hφ]
          refine (Reader.condition_step (Reader.item_conjunction .and) rfl).trans ?_
          simpa using hrest

/-- Each member of an OR but the last ends the AND that it was the only member of. -/
theorem condition_or (h : List.Forall₂ ReadFrom φs lss) (hne : φs ≠ [])
    (disjuncts : List Formula) (outer : List Reader.Frame) (rest : List Token) :
    ∃ frame, frame.formula = .join .or (disjuncts ++ φs) ∧
      Reader.condition (.expecting { disjuncts } outer)
          (([Lexeme.token (.word "OR")].intercalate lss).map (Lexeme.write .inline) ++ rest) =
        Reader.condition (.complete frame outer) rest := by
  induction h generalizing disjuncts with
  | nil => exact absurd rfl hne
  | @cons φ ls φs lss hφ hφs ih =>
      cases hφs with
      | nil =>
          refine ⟨{ disjuncts, conjuncts := [φ] }, rfl, ?_⟩
          rw [List.intercalate_singleton]
          exact hφ _ outer rest
      | cons hψ hψs =>
          obtain ⟨frame, hframe, hrest⟩ := ih (by simp) (disjuncts ++ [φ])
          refine ⟨frame, by simpa using hframe, ?_⟩
          simp only [List.intercalate_cons_cons, List.map_append, List.append_assoc]
          rw [hφ]
          exact (Reader.condition_step (Reader.item_conjunction .or) rfl).trans hrest

/-- What stands in parentheses is read in a frame of its own, and is then one operand. -/
theorem ReadFrom.enclosed
    (h : ∀ outer rest, ∃ frame : Reader.Frame, frame.formula = φ ∧
      Reader.condition (.expecting {} outer) (ls.map (Lexeme.write .inline) ++ rest) =
        Reader.condition (.complete frame outer) rest) :
    ReadFrom φ (.token .leftParen :: (ls ++ [.token .rightParen])) := by
  intro frame outer rest
  obtain ⟨inner, rfl, hinner⟩ := h (frame :: outer) (.rightParen :: rest)
  have hopen : Reader.item (.leftParen :: (ls.map (Lexeme.write .inline) ++ .rightParen :: rest)) =
      some (.opening, ls.map (Lexeme.write .inline) ++ .rightParen :: rest) := rfl
  have hclose : Reader.item (.rightParen :: rest) = some (.closing, rest) := rfl
  simp only [List.map_cons, List.map_append, List.cons_append, List.append_assoc]
  calc Reader.condition (.expecting frame outer)
        (.leftParen :: (ls.map (Lexeme.write .inline) ++ .rightParen :: rest))
      = Reader.condition (.expecting {} (frame :: outer))
          (ls.map (Lexeme.write .inline) ++ .rightParen :: rest) :=
        Reader.condition_step hopen rfl
    _ = Reader.condition (.complete inner (frame :: outer)) (.rightParen :: rest) := hinner
    _ = Reader.condition (.complete (frame.add inner.formula) outer) rest :=
        Reader.condition_step hclose rfl

/-- Members that are read one by one are read as their junction. -/
theorem ReadFrom.group (k : Conjunction) (h : List.Forall₂ ReadFrom φs lss) (hne : φs ≠ []) :
    ReadFrom (.join k φs) (Lexeme.group k.sql lss) := by
  have hmembers : ∀ outer rest, ∃ frame : Reader.Frame, frame.formula = .join k φs ∧
      Reader.condition (.expecting {} outer)
          (([Lexeme.token (.word k.sql)].intercalate lss).map (Lexeme.write .inline) ++ rest) =
        Reader.condition (.complete frame outer) rest := by
    intro outer rest
    cases k with
    | and => exact ⟨{ conjuncts := φs }, rfl, condition_and h hne [] [] outer rest⟩
    | or => exact condition_or h hne [] outer rest
  cases h with
  | nil => exact absurd rfl hne
  | cons hφ hφs =>
      cases hφs with
      | nil => exact hφ
      | cons hψ hψs => exact ReadFrom.enclosed hmembers

/-- The text that gives the lexemes is read as the formula. -/
theorem ReadFrom.ofText? {s : String} (h : ReadFrom φ ls)
    (hs : tokens? s = some (ls.map (Lexeme.write .inline))) : Formula.ofText? s = some φ := by
  have hread := h {} [] []
  rw [List.append_nil] at hread
  simp only [Formula.ofText?, hs, Option.bind_eq_bind, Option.bind_some]
  rw [hread, Reader.condition]
  rfl

end Sql.Formula

/-! ## Predicates and filters -/

theorem Condition.lexemes_join (k : Conjunction) (cs : List Condition) :
    (join k cs).lexemes = Lexeme.group k.sql (cs.map lexemes) := by
  match cs with
  | [] => simp [join, lexemes, lexemesOf_eq]
  | [c] => rfl
  | c :: d :: rest => simp [join, lexemes, lexemesOf_eq]

namespace Predicate

variable {p : Predicate}

theorem read_tests (hnot : p.operator ≠ .not) {columns : List FieldName} {tests : List Test}
    (h : columns.mapM p.test = .ok tests) :
    ∃ atoms, columns.mapM p.atom = some atoms ∧ atoms.length = columns.length ∧
      List.Forall₂ Formula.ReadFrom (atoms.map .atom) (tests.map Test.lexemes) := by
  induction columns generalizing tests with
  | nil =>
      obtain rfl := Except.ok.inj h
      exact ⟨[], rfl, rfl, .nil⟩
  | cons column rest ih =>
      rw [List.mapM_cons] at h
      obtain ⟨test, htest, h⟩ := bind_eq_ok.mp h
      obtain ⟨others, hothers, h⟩ := bind_eq_ok.mp h
      obtain rfl := Except.ok.inj h
      obtain ⟨a, ha, hread⟩ := read_test hnot htest
      obtain ⟨atoms, hatoms, hlength, hreads⟩ := ih hothers
      exact ⟨a :: atoms, by simp [ha, hatoms], by simp [hlength], .cons (.atom hread) hreads⟩

/-- The condition of a predicate is read as the OR of the comparisons of its columns. -/
theorem read_condition (hnot : p.operator ≠ .not) {r : Resolver} {c : Condition}
    (h : p.condition r = .ok c) : ∃ φ, p.formula r = some φ ∧ φ.ReadFrom c.lexemes := by
  obtain ⟨columns, hcolumns, h⟩ := bind_eq_ok.mp h
  obtain ⟨tests, htests, h⟩ := bind_eq_ok.mp h
  obtain rfl := Except.ok.inj h
  obtain ⟨rfl, hne⟩ := Resolver.columns_eq_ok.mp hcolumns
  obtain ⟨atoms, hatoms, hlength, hreads⟩ := read_tests hnot htests
  have hatoms_ne : atoms.map Formula.atom ≠ [] := by
    intro hnil
    obtain rfl := List.map_eq_nil_iff.mp hnil
    exact hne (List.length_eq_zero_iff.mp hlength.symm)
  refine ⟨.join .or (atoms.map .atom), by simp [formula, hatoms], ?_⟩
  have hlexemes : (Condition.join .or (tests.map .test)).lexemes =
      Lexeme.group Conjunction.or.sql (tests.map Test.lexemes) := by
    simp [Condition.lexemes_join, Condition.lexemes, Function.comp_def]
  rw [hlexemes]
  exact Formula.ReadFrom.group .or hreads hatoms_ne

end Predicate

namespace Filter

variable {r : Resolver}

/-- The members of a group agree one by one, and those that say nothing mean nothing. -/
theorem trees_readFrom {fs : List Filter} {cs : List Condition}
    (h : ∀ f ∈ fs, ∀ {m : Option Condition}, f.meaning r = .ok m →
      Formula.ReadFromEach (f.tree r).toList m.toList)
    (hcs : meanings r fs = .ok cs) :
    Formula.ReadFromEach (trees r fs) cs := by
  induction fs generalizing cs with
  | nil =>
      obtain rfl := Except.ok.inj hcs
      exact .nil
  | cons f rest ih =>
      obtain ⟨first, hfirst, hcs⟩ := bind_eq_ok.mp hcs
      obtain ⟨others, hothers, hcs⟩ := bind_eq_ok.mp hcs
      obtain rfl := Except.ok.inj hcs
      have hf := h f List.mem_cons_self hfirst
      have hrest := ih (fun g hg => h g (List.mem_cons_of_mem _ hg)) hothers
      exact List.rel_append hf hrest

/-- What a group says is read from what the group means. -/
theorem groupTree_readFrom (k : Conjunction) (negated : Bool) {φs : List Formula}
    {cs : List Condition} (h : Formula.ReadFromEach φs cs) :
    Formula.ReadFromEach (groupTree k negated φs).toList
      (meaningOfGroup k negated cs).toList := by
  cases h with
  | nil => exact .nil
  | @cons φ c φs cs hφ hφs =>
      have hlexemes := List.forall₂_map_right_iff.mpr (List.Forall₂.cons hφ hφs)
      have hjoined : (Formula.join k (φ :: φs)).ReadFrom (Condition.join k (c :: cs)).lexemes := by
        rw [Condition.lexemes_join]
        exact Formula.ReadFrom.group k hlexemes (by simp)
      cases negated with
      | false => exact .cons hjoined .nil
      | true => exact .cons hjoined.negation .nil

theorem predicatesOf_eq (fs : List Filter) : predicatesOf fs = fs.flatMap predicates := by
  induction fs with
  | nil => rfl
  | cons f rest ih => simp [predicatesOf, ih]

/-- A filter says a formula exactly when it means a condition, and the condition is read as the
formula. -/
theorem tree_readFrom (f : Filter) :
    (∀ p ∈ f.predicates, p.operator ≠ .not) → (∀ s ∈ f.ownTexts, s = "") →
      ∀ {m : Option Condition}, f.meaning r = .ok m →
        Formula.ReadFromEach (f.tree r).toList m.toList := by
  induction f with
  | empty active =>
      intro _ _ m h
      obtain rfl := Except.ok.inj h
      exact .nil
  | raw active s negated =>
      intro _ htexts m h
      obtain rfl : s = "" := htexts s (by simp [ownTexts])
      obtain rfl := Except.ok.inj h
      cases active with
      | false => exact .nil
      | true => exact .nil
  | predicate active p =>
      intro hnot _ m h
      cases active with
      | false =>
          obtain rfl := Except.ok.inj h
          exact .nil
      | true =>
          obtain ⟨c, hc, rfl⟩ := map_eq_ok.mp h
          obtain ⟨φ, hφ, hread⟩ := Predicate.read_condition (hnot p (by simp [predicates])) hc
          have htree : (Filter.predicate true p).tree r = some φ := hφ
          rw [htree]
          exact .cons hread .nil
  | group active k negated members ih =>
      intro hnot htexts m h
      cases active with
      | false =>
          obtain rfl := Except.ok.inj h
          exact .nil
      | true =>
          obtain ⟨cs, hcs, h⟩ := bind_eq_ok.mp h
          obtain rfl := Except.ok.inj h
          rw [predicates, predicatesOf_eq] at hnot
          rw [ownTexts, ownTextsOf_eq] at htexts
          refine groupTree_readFrom k negated (trees_readFrom (fun f hf => ?_) hcs)
          exact ih f hf (fun p hp => hnot p (List.mem_flatMap.mpr ⟨f, hf, hp⟩))
            (fun s hs => htexts s (List.mem_flatMap.mpr ⟨f, hf, hs⟩))

end Filter

/-- The text of a filter that has text is read, to its end, as the boolean tree of the filter. -/
theorem sql_reads_tree {f : Filter} {resolver : Resolver} {s : String}
    (hraw : ∀ text ∈ f.ownTexts, text = "") (hnot : ∀ p ∈ f.predicates, p.operator ≠ .not)
    (hsql : Expression.sql f ⟨.mysql, resolver⟩ = .ok s) (hs : s ≠ "") :
    ∃ φ, f.tree resolver = some φ ∧ Formula.ofText? s = some φ := by
  rw [Expression.sql_eq] at hsql
  obtain ⟨t, ht, rfl⟩ := map_eq_ok.mp hsql
  obtain ⟨m, hm, rfl⟩ := map_eq_ok.mp ht
  have htree := f.tree_readFrom hnot hraw hm
  cases m with
  | none => exact absurd rfl hs
  | some c =>
      have hreads := c.reads .mysql (f.ownTexts_eq_nil_of_meaning hraw hm)
      cases hφ : f.tree resolver with
      | none =>
          rw [hφ] at htree
          cases htree
      | some φ =>
          rw [hφ] at htree
          cases htree with
          | cons hread _ => exact ⟨φ, rfl, hread.ofText? (hreads.tokens?_sql .inline)⟩

/-- A negated group with one member, a group without any, and an empty list. -/
theorem sql_reads_tree_of_nested_groups :
    let name : FieldName := ⟨none, ⟨"name", by decide⟩⟩
    let title : FieldName := ⟨none, ⟨"title", by decide⟩⟩
    let f : Filter := .group true .and false
      [.group true .and true [.predicate true
        { fields := [name, title], operator := .like, comparand := some (.single (.text "a'b")) }],
        .group true .or true [.empty true],
        .predicate true { fields := [name], operator := .among, comparand := some (.list []) }]
    let s := "(NOT (name LIKE 'a''b' OR title LIKE 'a''b') AND 1=0)"
    Expression.sql f ⟨.mysql, .plain⟩ = .ok s ∧
      Formula.ofText? s = some (.junction .and
        [.negation (.junction .or
          [.atom (.binary ⟨none, none, "name"⟩ .like "a'b"),
            .atom (.binary ⟨none, none, "title"⟩ .like "a'b")]),
          .atom (.constant false)]) := by
  intro name title f s
  have hsql : Expression.sql f ⟨.mysql, .plain⟩ = .ok s := rfl
  obtain ⟨φ, htree, hread⟩ := sql_reads_tree (by simp [f, Filter.ownTexts, Filter.ownTextsOf])
    (by simp [f, Filter.predicates, Filter.predicatesOf]) hsql (by decide)
  obtain rfl := Option.some.inj htree
  exact ⟨hsql, hread⟩

end Criteria
