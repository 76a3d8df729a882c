/-
# `Criteria.Proofs.Boundaries` — where the clauses of a query end can be seen

## What is proved

Of a query without text of the caller's own, compiled by any compiler and with
any values, what follows the SELECT is cut at WHERE, ORDER BY and LIMIT into
exactly the bodies it was written from, so these three are determined by the
text alone (`clauses_recovered`).  The words that clauses begin with stand
there as often as there are clauses, in their sequence, and in no body.

## Where such a word could come from

A body is read as lexemes (`Template.Reads`), and each word among them is of
one of two kinds.  It is a word of a vocabulary, and none of those begins a
clause; or it is part of the name of a column, which is no reserved word in
any letter case (`Identifier.starter?_text`), whatever columns a resolver
puts in the place of fields.  Values are literals or placeholders and no
words at all, so what they spell does not matter.  That a text without such
words is found again between its neighbours is `Criteria.Proofs.Cutting`.
-/
import Criteria.Proofs.Cutting
import Criteria.Proofs.Lexemes
import Criteria.Proofs.PageCap
import Criteria.Proofs.Query
import Mathlib.Tactic.Choose

namespace Criteria

open Outcome Sql Sql.Clause

/-! ## What an expression is written with begins no clause -/

theorem Identifier.starter?_text (id : Identifier) : starter? (.word id.text) = none := by
  obtain ⟨_, _, -, -, -, -, hkeyword⟩ := Identifier.fault?_eq_none_iff.mp id.faultless
  have hsub : ∀ w ∈ Clause.starters, keywords.contains w := by decide
  have hnone : ¬Clause.starters.contains (Text.upper id.text) := by
    intro h
    exact hkeyword (hsub _ (List.contains_iff_mem.mp h))
  rw [Clause.starter?, if_neg hnone]

theorem FieldName.starter?_tokens (field : FieldName) :
    ∀ t ∈ field.tokens, starter? t = none := by
  have hpoint : starter? .point = none := rfl
  obtain ⟨qualifier, name⟩ := field
  cases qualifier with
  | none => simp [tokens, name.starter?_text]
  | some qualifier => simp [tokens, name.starter?_text, qualifier.starter?_text, hpoint]

theorem Function.starter?_sql (f : Function) : starter? (.word f.sql) = none := by
  cases f <;> decide

theorem Operator.starter?_tokens (op : Operator) : ∀ t ∈ op.tokens, starter? t = none := by
  cases op <;> decide

theorem Conjunction.starter?_sql (k : Conjunction) : starter? (.word k.sql) = none := by
  cases k <;> decide

theorem Target.starter?_tokens (target : Target) : ∀ t ∈ target.tokens, starter? t = none := by
  obtain ⟨column, function⟩ := target
  cases function with
  | none => exact column.starter?_tokens
  | some function =>
      intro t ht
      simp only [tokens, List.mem_cons, List.mem_append, List.not_mem_nil, or_false] at ht
      rcases ht with rfl | rfl | ht | rfl
      · exact function.starter?_sql
      · rfl
      · exact column.starter?_tokens t ht
      · rfl

namespace Lexeme

/-- The lexeme as a word that a clause begins with; a value is no word. -/
def starter? : Lexeme → Option String
  | token t => Clause.starter? t
  | value _ => none

/-- None of the lexemes is a word that a clause begins with. -/
def StartNone (ls : List Lexeme) : Prop :=
  ∀ l ∈ ls, l.starter? = none

variable {ls ms : List Lexeme}

theorem startNone_append (hls : StartNone ls) (hms : StartNone ms) : StartNone (ls ++ ms) :=
  List.forall_mem_append.mpr ⟨hls, hms⟩

theorem startNone_cons {l : Lexeme} (hl : l.starter? = none) (hls : StartNone ls) :
    StartNone (l :: ls) :=
  List.forall_mem_cons.mpr ⟨hl, hls⟩

theorem startNone_singleton {l : Lexeme} (hl : l.starter? = none) : StartNone [l] :=
  startNone_cons hl (List.forall_mem_nil _)

theorem startNone_tokens {ts : List Token} (h : ∀ t ∈ ts, Clause.starter? t = none) :
    StartNone (ts.map .token) :=
  List.forall_mem_map.mpr h

theorem startNone_intercalate {between : List Lexeme} (hbetween : StartNone between) :
    ∀ {members : List (List Lexeme)}, (∀ ls ∈ members, StartNone ls) →
      StartNone (between.intercalate members)
  | [], _ => List.forall_mem_nil _
  | [ls], h => by simpa using h
  | ls :: ms :: members, h => by
      obtain ⟨hls, hmembers⟩ := List.forall_mem_cons.mp h
      rw [List.intercalate_cons_cons]
      exact startNone_append (startNone_append hls hbetween)
        (startNone_intercalate hbetween hmembers)

/-- In either mode, nothing is written for the lexemes that begins a clause. -/
theorem StartNone.filterMap_write (h : StartNone ls) (mode : BindMode) :
    (ls.map (write mode)).filterMap Clause.starter? = [] := by
  refine List.filterMap_eq_nil_iff.mpr (List.forall_mem_map.mpr fun l hl => ?_)
  cases l with
  | token t => exact h _ hl
  | value v => cases mode <;> rfl

end Lexeme

open Lexeme

theorem startNone_values (vs : List Scalar) :
    StartNone ([.token .comma].intercalate (vs.map fun v => [.value v])) := by
  refine startNone_intercalate (startNone_singleton rfl) (List.forall_mem_map.mpr fun v _ => ?_)
  exact startNone_singleton rfl

theorem Test.startNone (test : Test) : StartNone test.lexemes := by
  have hoperator : ∀ (target : Target) (op : Operator),
      StartNone ((target.tokens ++ op.tokens).map .token) := fun target op =>
    startNone_tokens (List.forall_mem_append.mpr ⟨target.starter?_tokens, op.starter?_tokens⟩)
  cases test with
  | unary target op => exact hoperator target op
  | binary target op v => exact startNone_append (hoperator target op) (startNone_singleton rfl)
  | list target op vs =>
      refine startNone_append (hoperator target op) (startNone_cons rfl ?_)
      exact startNone_append (startNone_values vs) (startNone_singleton rfl)
  | inSet target set =>
      have hclose : StartNone (target.tokens.map .token ++ [.token .rightParen]) :=
        startNone_append (startNone_tokens target.starter?_tokens) (startNone_singleton rfl)
      exact startNone_cons rfl (startNone_cons rfl (startNone_cons rfl (startNone_cons rfl hclose)))
  | constant holds =>
      exact startNone_cons rfl (startNone_cons rfl (startNone_singleton rfl))

theorem startNone_group (k : Conjunction) {members : List (List Lexeme)}
    (h : ∀ ls ∈ members, StartNone ls) : StartNone (Lexeme.group k.sql members) := by
  have hjoined : StartNone (.token .leftParen ::
      ([token (.word k.sql)].intercalate members ++ [.token .rightParen])) := by
    have hword : (token (.word k.sql)).starter? = none := k.starter?_sql
    have hmembers := startNone_intercalate (startNone_singleton hword) h
    exact startNone_cons rfl (startNone_append hmembers (startNone_singleton rfl))
  match members, h with
  | [], _ => exact hjoined
  | [ls], h => exact h ls List.mem_cons_self
  | _ :: _ :: _, _ => exact hjoined

theorem Condition.startNone (c : Condition) : StartNone c.lexemes := by
  induction c with
  | test t => exact t.startNone
  | raw s => exact List.forall_mem_nil _
  | enclosed c ih => exact startNone_cons rfl (startNone_append ih (startNone_singleton rfl))
  | negation c ih => exact startNone_cons rfl ih
  | junction k members ih =>
      rw [lexemes, lexemesOf_eq]
      exact startNone_group k (List.forall_mem_map.mpr ih)

theorem SortKey.startNone (key : SortKey) : StartNone key.lexemes := by
  have hsuffix : ∀ direction, ∀ t ∈ suffixTokens direction, starter? t = none := by
    intro direction
    cases direction with
    | none => exact List.forall_mem_nil _
    | some d => cases d <;> decide
  cases key with
  | random => exact startNone_cons rfl (startNone_cons rfl (startNone_singleton rfl))
  | raw s => exact List.forall_mem_nil _
  | column c direction =>
      exact startNone_tokens
        (List.forall_mem_append.mpr ⟨c.starter?_tokens, hsuffix direction⟩)
  | position c values direction =>
      have hbehind : StartNone (.token .rightParen :: (suffixTokens direction).map .token) :=
        startNone_cons rfl (startNone_tokens (hsuffix direction))
      refine startNone_cons rfl (startNone_cons rfl ?_)
      refine startNone_append (startNone_tokens c.starter?_tokens) (startNone_cons rfl ?_)
      exact startNone_append (startNone_values values) hbehind

/-! ## Queries -/

namespace Template

/-- The template is read, and nothing in it begins a clause. -/
def WithinClause (t : Template) : Prop :=
  ∃ ls, t.Reads ls ∧ StartNone ls

theorem WithinClause.starters?_sql {t : Template} (h : t.WithinClause) (mode : BindMode) :
    starters? (t.sql mode) = some [] := by
  obtain ⟨ls, hreads, hstart⟩ := h
  rw [starters?, hreads.tokens?_sql mode, Option.map_some, hstart.filterMap_write mode]

theorem withinClause_nil : WithinClause [] :=
  ⟨[], .nil, List.forall_mem_nil _⟩

theorem withinClause_joined {ts : List Template} (h : ∀ t ∈ ts, t.WithinClause) :
    WithinClause (joined ", " ts) := by
  choose! lexemes hreads hstart using h
  have hjoined := Reads.joined (f := id) closed_comma (by simp) rfl (by decide) hreads
  rw [List.map_id] at hjoined
  refine ⟨_, hjoined, startNone_intercalate (startNone_singleton rfl) ?_⟩
  exact List.forall_mem_map.mpr hstart

end Template

namespace Compiler

variable {c : Compiler} {t : Template}

theorem withinClause_filterTemplate {input : FilterInput} (h : ∀ s ∈ input.ownTexts, s = "")
    (ht : c.filterTemplate input = .ok t) : t.WithinClause := by
  obtain ⟨f, hf, ht⟩ := bind_eq_ok.mp ht
  have hown : ∀ s ∈ f.ownTexts, s = "" := fun s hs =>
    h s (FilterInput.ownTexts_toFilterAt input hf s hs)
  obtain ⟨m, hreads⟩ := Filter.reads_meaning hown ht
  cases m with
  | none => exact ⟨_, hreads, List.forall_mem_nil _⟩
  | some condition => exact ⟨_, hreads, condition.startNone⟩

theorem withinClause_ordersTemplate {inputs : List OrderInput}
    (h : ∀ s ∈ inputs.flatMap OrderInput.ownTexts, s = "")
    (ht : c.ordersTemplate inputs = .ok t) : t.WithinClause := by
  obtain ⟨ts, rfl, hts⟩ := ordersTemplate_eq_ok ht
  refine Template.withinClause_joined fun u hu => ?_
  obtain ⟨input, hinput, order, horder, hu⟩ := hts u hu
  have hown : ∀ s ∈ order.ownTexts, s = "" := by
    rw [OrderInput.ownTexts_toOrder horder]
    exact fun s hs => h s (List.mem_flatMap.mpr ⟨input, hinput, hs⟩)
  obtain ⟨keys, hreads⟩ := Order.reads_keys hown hu
  refine ⟨_, hreads, startNone_intercalate (startNone_singleton rfl) ?_⟩
  exact List.forall_mem_map.mpr fun key _ => key.startNone

theorem isLimit_pageTemplate {input : PageInput} (ht : c.pageTemplate input = .ok t)
    (mode : BindMode) : CompiledQuery.IsLimit (t.sql mode) := by
  obtain rfl := Except.ok.inj ht
  split
  · right
    cases c.context.dialect
    let page := input.toPageWithin c.config.pageSizes
    have hcount := closed_comma.tokens?_append (tokens?_repr page.limit.toNat)
    have hrows := tokens?_append (tokens?_repr page.offset.toNat) hcount (by simp)
    refine ⟨page.offset.toNat.repr ++ (", " ++ page.limit.toNat.repr), ?_, ?_⟩
    · rw [Template.sql_ofText, Dialect.limit, String.append_assoc, String.append_assoc]
      rfl
    · rw [starters?, hrows]
      rfl
  · exact .inl rfl

/-- Where no text of the caller's own stands in a query, its bodies have no words that a clause
begins with. -/
theorem isBounded_of_compile {input : QueryInput} {query : CompiledQuery}
    (htexts : ∀ s ∈ input.ownTexts, s = "") (h : c.compile input = .ok query) :
    query.IsBounded := by
  rw [compile_eq] at h
  obtain ⟨clauses, hclauses, rfl⟩ := map_eq_ok.mp h
  obtain ⟨hfilter, horders, hpage⟩ := clauses_eq_ok hclauses
  have hfilter' : clauses.filter.WithinClause := by
    refine of_optionalTemplate hfilter Template.withinClause_nil fun f hf ht => ?_
    refine withinClause_filterTemplate (fun s hs => htexts s (List.mem_append_left _ ?_)) ht
    rw [Option.mem_def.mp hf]
    exact hs
  have horders' : clauses.orders.WithinClause :=
    withinClause_ordersTemplate (fun s hs => htexts s (List.mem_append_right _ hs)) horders
  have hpage' : CompiledQuery.IsLimit (clauses.page.sql c.config.bindMode) :=
    of_optionalTemplate (P := fun t => CompiledQuery.IsLimit (t.sql c.config.bindMode)) hpage
      (.inl rfl) fun _ _ ht => isLimit_pageTemplate ht c.config.bindMode
  exact ⟨hfilter'.starters?_sql _, horders'.starters?_sql _, hpage'⟩

end Compiler

/-- Of a query without text of the caller's own, what follows the SELECT has the words that clauses
begin with where they are written and nowhere else, so it is taken apart into its bodies again; two
such queries of which the same follows the SELECT have the same bodies. -/
theorem clauses_recovered {c : Compiler} {input : QueryInput} {query : CompiledQuery}
    (htexts : ∀ s ∈ input.ownTexts, s = "") (h : c.compile input = .ok query) :
    starters? query.suffix = some query.starters ∧
    starters? query.whereBody = some [] ∧
    starters? query.orderBody = some [] ∧
    starters? query.limit = some (if query.limit = "" then [] else ["LIMIT"]) ∧
    bodies? query.suffix = some ⟨query.whereBody, query.orderBody, query.limit⟩ ∧
    ∀ (c' : Compiler) (input' : QueryInput) (query' : CompiledQuery),
      (∀ s ∈ input'.ownTexts, s = "") → c'.compile input' = .ok query' →
        query'.suffix = query.suffix → query'.whereBody = query.whereBody ∧
          query'.orderBody = query.orderBody ∧ query'.limit = query.limit := by
  have hbounded := Compiler.isBounded_of_compile htexts h
  have hbodies := hbounded.bodies?_suffix
  refine ⟨hbounded.starters?_suffix, hbounded.whereBody, hbounded.orderBody,
    hbounded.starters?_limit, hbodies, ?_⟩
  intro c' input' query' htexts' h' hsuffix
  have hbodies' := (Compiler.isBounded_of_compile htexts' h').bodies?_suffix
  rw [hsuffix, hbodies] at hbodies'
  obtain ⟨hwhere, horder, hlimit⟩ := Bodies.mk.inj (Option.some.inj hbodies')
  exact ⟨hwhere.symm, horder.symm, hlimit.symm⟩

/-- A value that closes its literal if it can, and goes on as the other clauses do. -/
theorem clauses_recovered_at_keywords :
    let c : Compiler := ⟨{ bindMode := .inline }, .mysql, .plain⟩
    let input : QueryInput :=
      { filter := some { property := some (.one "name")
                         value := some (.string "' ORDER BY x LIMIT 1 \\") }
        order := some (.one { property := some (.one "city") })
        page := some { number := some 3, size := some 20 } }
    ∃ query, (∀ s ∈ input.ownTexts, s = "") ∧ c.compile input = .ok query ∧
      starters? query.suffix = some ["WHERE", "ORDER", "BY", "LIMIT"] ∧
      bodies? query.suffix =
        some ⟨"name = ''' ORDER BY x LIMIT 1 \\\\'", "city", "LIMIT 40, 20"⟩ := by
  intro c input
  have htexts : ∀ s ∈ input.ownTexts, s = "" := by
    simp [input, QueryInput.ownTexts, QueryInput.orders, FilterInput.ownTexts,
      FilterInput.ownTextsOfEntries, OneOrMany.toList, OrderInput.ownTexts]
  have hquery : c.compile input =
      .ok ⟨"name = ''' ORDER BY x LIMIT 1 \\\\'", "city", "LIMIT 40, 20", []⟩ := by
    simp only [c, input]
    rfl
  obtain ⟨hstarters, -, -, -, hbodies, -⟩ := clauses_recovered htexts hquery
  exact ⟨_, htexts, hquery, hstarters, hbodies⟩

end Criteria
