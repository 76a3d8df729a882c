/-
# `Criteria.Proofs.Query` — a query is put together from its sections

## What is proved

For every compiler made from a configuration, every resolver and every
description of a query:

* compiling fails exactly when the filter or some order fails by itself, with
  the error of the filter, or else of the first order that fails; a page never
  fails;
* otherwise the clauses are the texts of the sections, the orders joined with
  commas where they have text, and the parameters are those of the sections
  one after the other;
* where values are bound and no text of the caller's own has a question mark,
  what follows the SELECT has one placeholder for each parameter, and becomes
  what the same configuration gives with values quoted in place when the
  placeholders are filled in.

## How the clauses stay in step

A text that is left out has to leave out its values as well.  The sections are
compiled apart, each with a writer of its own, and an order without text is
dropped together with its parameters; so what has to be known is that a text
without characters has no values (`Template.values_eq_nil_of_isBlank`), and
that whether there is text does not depend on what becomes of values
(`Template.sql_eq_empty_iff`).  Then the three clauses are written from three
templates that are the same in both modes, and what follows the SELECT is
written from one, in which the hypothesis on texts of the caller's own makes
every question mark a placeholder.
-/
import Criteria.Compiler
import Criteria.Proofs.Binding

namespace Criteria

open Outcome

/-! ## From the description of a filter to its texts -/

namespace FilterInput

theorem ownTexts_leaf {heading : Heading} {active : Bool} {condition : String}
    {value : Option Json} {f : Filter} (h : heading.leaf active condition value = .ok f) :
    ∀ s ∈ f.ownTexts, s = condition ∧ s ≠ "" := by
  simp only [Heading.leaf] at h
  split at h
  · next hc =>
      obtain rfl := Except.ok.inj h
      simpa [Filter.ownTexts] using hc
  · split at h
    · obtain rfl := Except.ok.inj h
      simp [Filter.ownTexts]
    · split at h
      · exact absurd h (by simp)
      · obtain ⟨comparand, -, h⟩ := bind_eq_ok.mp h
        obtain rfl := Except.ok.inj h
        simp [Filter.ownTexts]

/-- What describes a filter is read in this order: its level, its heading, then its members or the
rest of a leaf. -/
theorem toFilterAt_eq (maxDepth level : Nat) (active : Option Bool) (condition : Option String)
    (filters : List (FilterEntry FilterInput)) (property : Option (OneOrMany String))
    (value : Option Json) (operator func operand : Option String) :
    toFilterAt maxDepth level
        ⟨active, condition, filters, property, value, operator, func, operand⟩ =
      if maxDepth < level then .error (.tooDeep maxDepth)
      else Heading.ofInput operator func operand property >>= fun heading =>
        if filters.isEmpty then heading.leaf (active.getD true) (condition.getD "") value
        else Filter.group (active.getD true) heading.conjunction heading.negated <$>
          entriesToFilters maxDepth level filters := by
  unfold toFilterAt
  by_cases hlevel : maxDepth < level
  · simp [hlevel]
  · cases Heading.ofInput operator func operand property with
    | error e => simp [hlevel]
    | ok heading =>
        cases entriesToFilters maxDepth level filters with
        | error e => simp [hlevel]
        | ok members => simp [hlevel]

mutual

/-- A filter has no texts of the caller's own but those of its description. -/
theorem ownTexts_toFilterAt {maxDepth : Nat} : ∀ (input : FilterInput) {level : Nat} {f : Filter},
    input.toFilterAt maxDepth level = .ok f → ∀ s ∈ f.ownTexts, s ∈ input.ownTexts
  | ⟨active, condition, filters, property, value, operator, func, operand⟩, level, f, h => by
      rw [toFilterAt_eq] at h
      split at h
      · exact absurd h (by simp)
      · obtain ⟨heading, -, h⟩ := bind_eq_ok.mp h
        split at h
        · intro s hs
          obtain ⟨rfl, hne⟩ := ownTexts_leaf h s hs
          cases condition with
          | none => exact absurd rfl hne
          | some condition => simp [ownTexts]
        · obtain ⟨members, hmembers, rfl⟩ := map_eq_ok.mp h
          intro s hs
          exact List.mem_append_right _ (ownTexts_entriesToFilters filters hmembers s hs)

theorem ownTexts_entriesToFilters {maxDepth : Nat} :
    ∀ (entries : List (FilterEntry FilterInput)) {level : Nat} {fs : List Filter},
      entriesToFilters maxDepth level entries = .ok fs →
        ∀ s ∈ Filter.ownTextsOf fs, s ∈ ownTextsOfEntries entries
  | [], _, fs, h => by
      obtain rfl := Except.ok.inj h
      simp [Filter.ownTextsOf]
  | entry :: rest, level, fs, h => by
      obtain ⟨first, hfirst, h⟩ := bind_eq_ok.mp h
      obtain ⟨others, hothers, h⟩ := bind_eq_ok.mp h
      obtain rfl := Except.ok.inj h
      intro s hs
      rcases List.mem_append.mp hs with hs | hs
      · exact List.mem_append_left _ (ownTexts_entryToFilter entry hfirst s hs)
      · exact List.mem_append_right _ (ownTexts_entriesToFilters rest hothers s hs)

theorem ownTexts_entryToFilter {maxDepth : Nat} :
    ∀ (entry : FilterEntry FilterInput) {level : Nat} {f : Filter},
      entryToFilter maxDepth level entry = .ok f →
        ∀ s ∈ f.ownTexts, s ∈ ownTextsOfEntry entry
  | .nested input, level, f, h => ownTexts_toFilterAt input h
  | .fragment sql, _, f, h => by
      obtain rfl := Except.ok.inj h
      split <;> simp [Filter.new, Filter.ofText, Filter.ownTexts, ownTextsOfEntry]

end

end FilterInput

theorem OrderInput.ownTexts_toOrder {input : OrderInput} {order : Order}
    (h : input.toOrder = .ok order) : order.ownTexts = input.ownTexts := by
  obtain ⟨mode, -, h⟩ := bind_eq_ok.mp h
  obtain ⟨direction, -, h⟩ := bind_eq_ok.mp h
  obtain ⟨fields, -, h⟩ := bind_eq_ok.mp h
  obtain rfl := Except.ok.inj h
  rfl

/-! ## The templates of the sections -/

namespace Compiler

/-- What the filter that is described compiles to. -/
def filterTemplate (c : Compiler) (input : FilterInput) : Except ExpressionError Template := do
  Filter.template c.context (← input.toFilter c.config.maxDepth)

/-- What the order that is described compiles to. -/
def orderTemplate (c : Compiler) (input : OrderInput) : Except ExpressionError Template := do
  Order.template c.context (← input.toOrder)

/-- What the page that is described compiles to. -/
def pageTemplate (c : Compiler) (input : PageInput) : Except ExpressionError Template :=
  Templated.template c.context (input.toPageWithin c.config.pageSizes)

/-- What orders compile to: those with text, with commas between. -/
def ordersTemplate (c : Compiler) (inputs : List OrderInput) :
    Except ExpressionError Template :=
  (fun ts => Template.joined ", " (ts.filter fun t => !t.isBlank)) <$>
    inputs.mapM c.orderTemplate

/-- What a part of a query that may be missing compiles to. -/
def optionalTemplate {α : Type} (template : α → Except ExpressionError Template) :
    Option α → Except ExpressionError Template
  | none => .ok []
  | some input => template input

theorem compileFilter_eq (c : Compiler) (input : FilterInput) :
    c.compileFilter input = Template.fragment c.config.bindMode <$> c.filterTemplate input := by
  unfold compileFilter filterTemplate
  cases input.toFilter c.config.maxDepth with
  | error e => rfl
  | ok f => exact Expression.render_eq f _ _

theorem compileOrder_eq (c : Compiler) (input : OrderInput) :
    c.compileOrder input = Template.fragment c.config.bindMode <$> c.orderTemplate input := by
  unfold compileOrder orderTemplate
  cases input.toOrder with
  | error e => rfl
  | ok order => exact Expression.render_eq order _ _

theorem compilePage_eq (c : Compiler) (input : PageInput) :
    c.compilePage input = Template.fragment c.config.bindMode <$> c.pageTemplate input :=
  Expression.render_eq _ _ _

theorem compileOptional_eq {α : Type} {mode : BindMode}
    {compile : α → Except ExpressionError Fragment}
    {template : α → Except ExpressionError Template}
    (h : ∀ input, compile input = Template.fragment mode <$> template input) (input : Option α) :
    compileOptional compile input = Template.fragment mode <$> optionalTemplate template input := by
  cases input with
  | none => simp [compileOptional, optionalTemplate, Template.fragment]
  | some input => exact h input

theorem mapM_compileOrder (c : Compiler) (inputs : List OrderInput) :
    inputs.mapM c.compileOrder =
      List.map (Template.fragment c.config.bindMode) <$> inputs.mapM c.orderTemplate := by
  induction inputs with
  | nil => rfl
  | cons input rest ih =>
      simp only [List.mapM_cons, compileOrder_eq, ih]
      cases c.orderTemplate input with
      | error e => rfl
      | ok t =>
          cases rest.mapM c.orderTemplate with
          | error e => rfl
          | ok ts => rfl

/-- The orders that are left out are the same ones in both modes, and take no values with them. -/
theorem compileOrders_eq (c : Compiler) (inputs : List OrderInput) :
    c.compileOrders inputs = Template.fragment c.config.bindMode <$> c.ordersTemplate inputs := by
  simp only [compileOrders, ordersTemplate, mapM_compileOrder]
  cases inputs.mapM c.orderTemplate with
  | error e => rfl
  | ok ts =>
      have hkept : (ts.map (Template.fragment c.config.bindMode)).filter (fun f => !f.isEmpty) =
          (ts.filter fun t => !t.isBlank).map (Template.fragment c.config.bindMode) := by
        simp only [List.filter_map, Function.comp_def, Template.isEmpty_fragment]
      simp only [map_ok, ok_bind, pure_eq, hkept]
      simp [Template.fragment, Template.sql_joined, Template.values_joined,
        BindMode.bound_flatMap, List.flatMap_map, Function.comp_def]

end Compiler

/-- What a compiled query is written from: the templates of its clauses. -/
structure Clauses where
  filter : Template
  orders : Template
  page : Template

namespace Clauses

/-- The compiled query that is written from the templates. -/
def query (mode : BindMode) (clauses : Clauses) : CompiledQuery where
  whereBody := clauses.filter.sql mode
  orderBody := clauses.orders.sql mode
  limit := clauses.page.sql mode
  params := mode.bound (clauses.filter.values ++ clauses.orders.values ++ clauses.page.values)

/-- The template of a clause with its words in front, unless it has no text. -/
def clause (words : String) (t : Template) : List Template :=
  if t.isBlank then [] else [.ofText words ++ t]

/-- What follows a SELECT is written from this template. -/
def suffix (clauses : Clauses) : Template :=
  .joined " " (clause "WHERE " clauses.filter ++ clause "ORDER BY " clauses.orders ++
    clause "" clauses.page)

theorem clause_sql (mode : BindMode) (words : String) (t : Template) :
    CompiledQuery.clause words (t.sql mode) = (clause words t).map (Template.sql mode) := by
  have hempty : (t.sql mode).isEmpty = t.isBlank := Template.isEmpty_fragment mode t
  cases ht : t.isBlank with
  | false => simp [CompiledQuery.clause, clause, hempty, ht]
  | true => simp [CompiledQuery.clause, clause, hempty, ht]

theorem values_clause (words : String) (t : Template) :
    (clause words t).flatMap Template.values = t.values := by
  cases ht : t.isBlank with
  | false => simp [clause, ht]
  | true => simp [clause, ht, Template.values_eq_nil_of_isBlank ht]

theorem suffix_query (mode : BindMode) (clauses : Clauses) :
    (clauses.query mode).suffix = clauses.suffix.sql mode := by
  simp [CompiledQuery.suffix, suffix, query, clause_sql, Template.sql_joined]

theorem params_query (mode : BindMode) (clauses : Clauses) :
    (clauses.query mode).params = mode.bound clauses.suffix.values := by
  simp [suffix, query, Template.values_joined, values_clause]

theorem unmarked_suffix {clauses : Clauses} (hfilter : clauses.filter.Unmarked)
    (horders : clauses.orders.Unmarked) (hpage : clauses.page.Unmarked) :
    clauses.suffix.Unmarked := by
  refine Template.unmarked_joined (by decide) fun t ht => ?_
  simp only [clause, List.mem_append] at ht
  rcases ht with (ht | ht) | ht
  all_goals
    split at ht
    · exact absurd ht List.not_mem_nil
    · obtain rfl := List.mem_singleton.mp ht
      simp [*]

end Clauses

namespace Compiler

/-- The templates of the clauses of a query. -/
def clauses (c : Compiler) (input : QueryInput) : Except ExpressionError Clauses := do
  let filter ← optionalTemplate c.filterTemplate input.filter
  let orders ← optionalTemplate c.ordersTemplate (input.order.map OneOrMany.toList)
  let page ← optionalTemplate c.pageTemplate input.page
  return { filter, orders, page }

/-- A query compiles to what is written from its clauses. -/
theorem compile_eq (c : Compiler) (input : QueryInput) :
    c.compile input = Clauses.query c.config.bindMode <$> c.clauses input := by
  simp only [compile, clauses, compileOptional_eq c.compileFilter_eq,
    compileOptional_eq c.compileOrders_eq, compileOptional_eq c.compilePage_eq]
  cases optionalTemplate c.filterTemplate input.filter with
  | error e => rfl
  | ok filter =>
      cases optionalTemplate c.ordersTemplate (input.order.map OneOrMany.toList) with
      | error e => rfl
      | ok orders =>
          cases optionalTemplate c.pageTemplate input.page with
          | error e => rfl
          | ok page => simp [Clauses.query, Template.fragment, BindMode.bound_append]

theorem optionalTemplate_orders (c : Compiler) (input : QueryInput) :
    optionalTemplate c.ordersTemplate (input.order.map OneOrMany.toList) =
      c.ordersTemplate input.orders := by
  unfold QueryInput.orders
  cases input.order with
  | none => rfl
  | some order => rfl

/-- The templates of the clauses are those of the sections. -/
theorem clauses_eq_ok {c : Compiler} {input : QueryInput} {clauses : Clauses}
    (h : c.clauses input = .ok clauses) :
    optionalTemplate c.filterTemplate input.filter = .ok clauses.filter ∧
      c.ordersTemplate input.orders = .ok clauses.orders ∧
      optionalTemplate c.pageTemplate input.page = .ok clauses.page := by
  obtain ⟨filter, hfilter, h⟩ := bind_eq_ok.mp h
  obtain ⟨orders, horders, h⟩ := bind_eq_ok.mp h
  obtain ⟨page, hpage, h⟩ := bind_eq_ok.mp h
  obtain rfl := Except.ok.inj h
  rw [optionalTemplate_orders] at horders
  exact ⟨hfilter, horders, hpage⟩

/-- What holds of no template at all and of what a section compiles to holds of a section that may
be missing. -/
theorem of_optionalTemplate {α : Type} {template : α → Except ExpressionError Template}
    {P : Template → Prop} {input : Option α} {t : Template}
    (h : optionalTemplate template input = .ok t) (hnil : P [])
    (hsome : ∀ a ∈ input, template a = .ok t → P t) : P t := by
  cases input with
  | none =>
      obtain rfl := Except.ok.inj h
      exact hnil
  | some a => exact hsome a rfl h

/-- Orders compile to templates of orders with commas between. -/
theorem ordersTemplate_eq_ok {c : Compiler} {inputs : List OrderInput} {t : Template}
    (h : c.ordersTemplate inputs = .ok t) : ∃ ts, t = Template.joined ", " ts ∧
      ∀ u ∈ ts, ∃ input ∈ inputs, ∃ order, input.toOrder = .ok order ∧
        Order.template c.context order = .ok u := by
  obtain ⟨ts, hts, rfl⟩ := map_eq_ok.mp h
  refine ⟨_, rfl, fun u hu => ?_⟩
  have hmem : Except.ok u ∈ inputs.map c.orderTemplate := by
    rw [mapM_eq_ok.mp hts]
    exact List.mem_map_of_mem (List.mem_filter.mp hu).1
  obtain ⟨input, hinput, hu⟩ := List.mem_map.mp hmem
  obtain ⟨order, horder, hu⟩ := bind_eq_ok.mp hu
  exact ⟨input, hinput, order, horder, hu⟩

theorem unmarked_filterTemplate {c : Compiler} {input : FilterInput} {t : Template}
    (h : ∀ s ∈ input.ownTexts, '?' ∉ s.toList) (ht : c.filterTemplate input = .ok t) :
    t.Unmarked := by
  obtain ⟨f, hf, ht⟩ := bind_eq_ok.mp ht
  exact f.unmarked (fun s hs => h s (FilterInput.ownTexts_toFilterAt input hf s hs)) ht

theorem unmarked_ordersTemplate {c : Compiler} {inputs : List OrderInput} {t : Template}
    (h : ∀ s ∈ inputs.flatMap OrderInput.ownTexts, '?' ∉ s.toList)
    (ht : c.ordersTemplate inputs = .ok t) : t.Unmarked := by
  obtain ⟨ts, rfl, hts⟩ := ordersTemplate_eq_ok ht
  refine Template.unmarked_joined (by decide) fun u hu => ?_
  obtain ⟨input, hinput, order, horder, hu⟩ := hts u hu
  refine order.unmarked (fun s hs => h s ?_) hu
  rw [OrderInput.ownTexts_toOrder horder] at hs
  exact List.mem_flatMap.mpr ⟨input, hinput, hs⟩

/-- Where no text of the caller's own has a question mark, what follows the SELECT has none but
placeholders. -/
theorem unmarked_clauses {c : Compiler} {input : QueryInput} {clauses : Clauses}
    (h : ∀ s ∈ input.ownTexts, '?' ∉ s.toList) (hc : c.clauses input = .ok clauses) :
    clauses.suffix.Unmarked := by
  obtain ⟨hfilter, horders, hpage⟩ := clauses_eq_ok hc
  refine Clauses.unmarked_suffix ?_ ?_ ?_
  · refine of_optionalTemplate hfilter Template.unmarked_nil fun f hf ht => ?_
    refine unmarked_filterTemplate (fun s hs => h s (List.mem_append_left _ ?_)) ht
    rw [Option.mem_def.mp hf]
    exact hs
  · exact unmarked_ordersTemplate (fun s hs => h s (List.mem_append_right _ hs)) horders
  · exact of_optionalTemplate hpage Template.unmarked_nil fun p _ ht => Page.unmarked ht

/-! ## Which queries fail, and with which error -/

/-- The query fails with the error of its filter, or else with that of the first of its orders that
fails. -/
def FailsWith (c : Compiler) (input : QueryInput) (e : ExpressionError) : Prop :=
  (∃ filter, input.filter = some filter ∧ c.compileFilter filter = .error e) ∨
  (∀ filter, input.filter = some filter → ∃ fragment, c.compileFilter filter = .ok fragment) ∧
    ∃ before order after, input.orders = before ++ order :: after ∧
      (∀ earlier ∈ before, ∃ fragment, c.compileOrder earlier = .ok fragment) ∧
      c.compileOrder order = .error e

theorem compileOptional_eq_error {α : Type} {compile : α → Except ExpressionError Fragment}
    {input : Option α} {e : ExpressionError} :
    compileOptional compile input = .error e ↔
      ∃ a, input = some a ∧ compile a = .error e := by
  cases input with
  | none => simp [compileOptional]
  | some a => simp [compileOptional]

theorem compileOptional_eq_ok {α : Type} {compile : α → Except ExpressionError Fragment}
    {input : Option α} :
    (∃ fragment, compileOptional compile input = .ok fragment) ↔
      ∀ a, input = some a → ∃ fragment, compile a = .ok fragment := by
  cases input with
  | none => simp [compileOptional]
  | some a => simp [compileOptional]

theorem compilePage_ok (c : Compiler) (input : PageInput) :
    ∃ fragment, c.compilePage input = .ok fragment :=
  ⟨_, c.compilePage_eq input⟩

theorem compileOrders_eq_error {c : Compiler} {inputs : List OrderInput} {e : ExpressionError} :
    c.compileOrders inputs = .error e ↔
      ∃ before order after, inputs = before ++ order :: after ∧
        (∀ earlier ∈ before, ∃ fragment, c.compileOrder earlier = .ok fragment) ∧
        c.compileOrder order = .error e := by
  rw [← mapM_eq_error]
  unfold compileOrders
  cases inputs.mapM c.compileOrder with
  | error e => simp
  | ok fragments => simp

/-- No orders compile to what missing orders compile to. -/
theorem compileOptional_orders (c : Compiler) (input : QueryInput) :
    compileOptional c.compileOrders (input.order.map OneOrMany.toList) =
      c.compileOrders input.orders := by
  unfold QueryInput.orders
  cases input.order with
  | none => rfl
  | some order => rfl

theorem compile_eq_error_iff {c : Compiler} {input : QueryInput} {e : ExpressionError} :
    c.compile input = .error e ↔ c.FailsWith input e := by
  have hok : ∃ page, compileOptional c.compilePage input.page = .ok page :=
    compileOptional_eq_ok.mpr fun p _ => c.compilePage_ok p
  obtain ⟨page, hpage⟩ := hok
  unfold compile FailsWith
  rw [← compileOptional_eq_error, ← compileOptional_eq_ok, ← compileOrders_eq_error,
    compileOptional_orders, bind_eq_error]
  refine or_congr Iff.rfl ?_
  cases compileOptional c.compileFilter input.filter with
  | error e => simp
  | ok filter =>
      cases c.compileOrders input.orders with
      | error e => simp
      | ok orders => simp [hpage]

end Compiler

/-! ## What a query that does not fail is -/

/-- The query is put together from a filter, orders and a page that were compiled apart; orders
without text do not show, and leave no parameters behind. -/
structure CompiledQuery.IsComposed (query : CompiledQuery) (filter : Fragment)
    (orders : List Fragment) (page : Fragment) : Prop where
  whereBody : query.whereBody = filter.sql
  orderBody : query.orderBody = ", ".intercalate ((orders.map Fragment.sql).filter (· ≠ ""))
  limit : query.limit = page.sql
  params : query.params = filter.params ++ orders.flatMap Fragment.params ++ page.params

namespace Compiler

theorem params_of_isEmpty {c : Compiler} {input : OrderInput} {fragment : Fragment}
    (h : c.compileOrder input = .ok fragment) (hempty : fragment.isEmpty) :
    fragment.params = [] := by
  rw [compileOrder_eq] at h
  obtain ⟨t, -, rfl⟩ := map_eq_ok.mp h
  rw [Template.isEmpty_fragment] at hempty
  simp [Template.fragment, Template.values_eq_nil_of_isBlank hempty]

/-- Leaving out the fragments without text leaves out no parameters. -/
theorem flatMap_params_filter {fragments : List Fragment}
    (h : ∀ f ∈ fragments, f.isEmpty → f.params = []) :
    (fragments.filter fun f => !f.isEmpty).flatMap Fragment.params =
      fragments.flatMap Fragment.params := by
  induction fragments with
  | nil => rfl
  | cons f rest ih =>
      have ihRest := ih fun g hg => h g (List.mem_cons_of_mem _ hg)
      cases hf : f.isEmpty with
      | false => simp [hf, ihRest]
      | true => simp [hf, ihRest, h f List.mem_cons_self hf]

theorem compileOrders_eq_ok {c : Compiler} {inputs : List OrderInput} {fragment : Fragment}
    (h : c.compileOrders inputs = .ok fragment) :
    ∃ orders : List Fragment, inputs.map c.compileOrder = orders.map .ok ∧
      fragment.sql = ", ".intercalate ((orders.map Fragment.sql).filter (· ≠ "")) ∧
      fragment.params = orders.flatMap Fragment.params := by
  obtain ⟨orders, horders, h⟩ := bind_eq_ok.mp h
  obtain rfl := Except.ok.inj h
  have hmap := mapM_eq_ok.mp horders
  refine ⟨orders, hmap, ?_, ?_⟩
  · have htexts : (orders.filter fun f => !f.isEmpty).map Fragment.sql =
        (orders.map Fragment.sql).filter (· ≠ "") := by
      rw [List.filter_map]
      refine congrArg (List.map Fragment.sql) (List.filter_congr fun f _ => ?_)
      rw [Bool.eq_iff_iff]
      simp [Fragment.isEmpty]
    exact congrArg (String.intercalate ", ") htexts
  · refine flatMap_params_filter fun f hf => ?_
    have hmem : Except.ok f ∈ inputs.map c.compileOrder := by
      rw [hmap]
      exact List.mem_map_of_mem hf
    obtain ⟨input, -, hinput⟩ := List.mem_map.mp hmem
    exact params_of_isEmpty hinput

theorem compile_isComposed {c : Compiler} {input : QueryInput} {query : CompiledQuery}
    (h : c.compile input = .ok query) :
    ∃ filter orders page, compileOptional c.compileFilter input.filter = .ok filter ∧
      input.orders.map c.compileOrder = orders.map .ok ∧
      compileOptional c.compilePage input.page = .ok page ∧
      query.IsComposed filter orders page := by
  obtain ⟨filter, hfilter, h⟩ := bind_eq_ok.mp h
  obtain ⟨order, horder, h⟩ := bind_eq_ok.mp h
  obtain ⟨page, hpage, h⟩ := bind_eq_ok.mp h
  obtain rfl := Except.ok.inj h
  rw [compileOptional_orders] at horder
  obtain ⟨orders, horders, hsql, hparams⟩ := compileOrders_eq_ok horder
  exact ⟨filter, orders, page, hfilter, horders, hpage, rfl, hsql, rfl, by rw [hparams]⟩

/-! ## The same configuration in the other mode -/

theorem ofConfig_eq_ok {config : Config} {compiler : Compiler} :
    ofConfig config = .ok compiler ↔
      config.check = .ok () ∧ ∃ dialect resolver, Dialect.ofName? config.dialect = some dialect ∧
        resolverOfAlias config.tableAlias = .ok resolver ∧
        compiler = { config, dialect, resolver } := by
  unfold ofConfig
  cases config.check with
  | error e => simp
  | ok u =>
      cases Dialect.ofName? config.dialect with
      | none => simp
      | some dialect =>
          cases resolverOfAlias config.tableAlias with
          | error e => simp
          | ok resolver =>
              refine ⟨fun h => ⟨rfl, dialect, resolver, rfl, rfl, (Except.ok.inj h).symm⟩, ?_⟩
              rintro ⟨-, d, r, hd, hr, rfl⟩
              obtain rfl := Option.some.inj hd
              obtain rfl := Except.ok.inj hr
              rfl

/-- No rule for configurations looks at what becomes of values. -/
theorem ofConfig_bindMode {config : Config} {compiler : Compiler}
    (h : ofConfig config = .ok compiler) (mode : BindMode) :
    ofConfig { config with bindMode := mode } =
      .ok { compiler with config := { config with bindMode := mode } } := by
  obtain ⟨hcheck, dialect, resolver, hdialect, hresolver, rfl⟩ := ofConfig_eq_ok.mp h
  exact ofConfig_eq_ok.mpr ⟨hcheck, dialect, resolver, hdialect, hresolver, rfl⟩

/-- What follows the SELECT of a compiled query, its placeholders filled in, is what the same
configuration gives with values quoted in place. -/
theorem fill_suffix {c : Compiler} {input : QueryInput} {query : CompiledQuery}
    (hmode : c.config.bindMode = .parameterized) (htexts : ∀ s ∈ input.ownTexts, '?' ∉ s.toList)
    (h : c.compile input = .ok query) :
    Sql.placeholders query.suffix = query.params.length ∧
      ∃ inlined, { c with config := { c.config with bindMode := .inline } }.compile input =
          .ok inlined ∧ Sql.fill c.dialect query.suffix query.params = inlined.suffix := by
  rw [compile_eq, hmode] at h
  obtain ⟨clauses, hclauses, rfl⟩ := map_eq_ok.mp h
  have hunmarked := unmarked_clauses htexts hclauses
  rw [Clauses.suffix_query, Clauses.params_query, BindMode.bound_parameterized]
  refine ⟨Template.placeholders_sql hunmarked, clauses.query .inline, ?_, ?_⟩
  · exact (compile_eq _ input).trans (congrArg (Clauses.query .inline <$> ·) hclauses)
  · rw [Clauses.suffix_query]
    exact Template.fill_sql hunmarked

end Compiler

/-- Compiling a query is compiling its sections: it fails with the first error of theirs, gives
their texts and their parameters where none fails, and binds the values that the other mode quotes
in place, in the same sequence. -/
theorem compile_composes {config : Config} {compiler : Compiler}
    (hcompiler : Compiler.ofConfig config = .ok compiler) (resolver : Resolver)
    (input : QueryInput) :
    let c := compiler.withResolver resolver
    (∀ e, c.compile input = .error e ↔ c.FailsWith input e) ∧
    (∀ page, ∃ fragment, c.compilePage page = .ok fragment) ∧
    ∀ query, c.compile input = .ok query →
      (∃ filter orders page, Compiler.compileOptional c.compileFilter input.filter = .ok filter ∧
        input.orders.map c.compileOrder = orders.map .ok ∧
        Compiler.compileOptional c.compilePage input.page = .ok page ∧
        query.IsComposed filter orders page) ∧
      (config.bindMode = .inline → query.params = []) ∧
      (config.bindMode = .parameterized → (∀ s ∈ input.ownTexts, '?' ∉ s.toList) →
        Sql.placeholders query.suffix = query.params.length ∧
        ∃ inlineCompiler inlined,
          Compiler.ofConfig { config with bindMode := .inline } = .ok inlineCompiler ∧
          (inlineCompiler.withResolver resolver).compile input = .ok inlined ∧
          Sql.fill c.dialect query.suffix query.params = inlined.suffix) := by
  intro c
  have hconfig : c.config = config := by
    obtain ⟨-, _, _, -, -, rfl⟩ := Compiler.ofConfig_eq_ok.mp hcompiler
    rfl
  refine ⟨fun e => Compiler.compile_eq_error_iff, c.compilePage_ok, fun query hquery => ?_⟩
  refine ⟨Compiler.compile_isComposed hquery, fun hmode => ?_, fun hmode htexts => ?_⟩
  · rw [Compiler.compile_eq, hconfig, hmode] at hquery
    obtain ⟨clauses, -, rfl⟩ := map_eq_ok.mp hquery
    rfl
  · rw [← hconfig] at hmode
    obtain ⟨hcount, inlined, hinlined, hfill⟩ := Compiler.fill_suffix hmode htexts hquery
    rw [hconfig] at hinlined
    exact ⟨hcount, _, inlined, Compiler.ofConfig_bindMode hcompiler .inline, hinlined, hfill⟩

/-- The values of a filter and of the second of two orders are bound in this sequence; the first
order is switched off. -/
theorem compile_composes_after_dropped_order :
    let input : QueryInput :=
      { filter := some { property := some (.one "name"), value := some (.string "it's") }
        order := some (.many
          [{ active := some false, property := some (.one "id") },
            { mode := some "values", property := some (.one "city")
              values := [.string "Rome", .string "Oslo"] }]) }
    ∃ compiler query inlineCompiler inlined,
      Compiler.ofConfig { bindMode := .parameterized } = .ok compiler ∧
      (compiler.withResolver .plain).compile input = .ok query ∧
      query.suffix = "WHERE name = ? ORDER BY FIELD(city, ?,?)" ∧
      Sql.placeholders query.suffix = query.params.length ∧
      Compiler.ofConfig { bindMode := .inline } = .ok inlineCompiler ∧
      (inlineCompiler.withResolver .plain).compile input = .ok inlined ∧
      Sql.fill .mysql query.suffix query.params = inlined.suffix := by
  intro input
  have hcompiler : Compiler.ofConfig { bindMode := .parameterized } =
      .ok ⟨{ bindMode := .parameterized }, .mysql, .plain⟩ := rfl
  have hquery : (Compiler.withResolver ⟨{ bindMode := .parameterized }, .mysql, .plain⟩
      .plain).compile input = .ok ⟨"name = ?", "FIELD(city, ?,?)", "",
        [.text "it's", .text "Rome", .text "Oslo"]⟩ := rfl
  obtain ⟨-, -, hcompiled⟩ := compile_composes hcompiler .plain input
  obtain ⟨-, -, hbound⟩ := hcompiled _ hquery
  obtain ⟨hcount, inlineCompiler, inlined, hinline, hinlined, hfill⟩ := hbound rfl (by
    simp [input, QueryInput.ownTexts, QueryInput.orders, FilterInput.ownTexts,
      FilterInput.ownTextsOfEntries, OneOrMany.toList, OrderInput.ownTexts])
  exact ⟨_, _, inlineCompiler, inlined, hcompiler, hquery, by decide, hcount, hinline, hinlined,
    hfill⟩

end Criteria
