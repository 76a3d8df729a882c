/-
# `Criteria.Proofs.Noninterference` — bound text does not depend on values

## What is proved

Take two descriptions of a query that differ in nothing but the scalars that
fields are compared with or sorted by.  Where values are bound, compiling
fails on both with the same error, or gives the same three clauses on both,
and as many parameters.

"Differ in nothing but scalars" is said with `QueryInput.blanked`, which puts
one and the same scalar in the place of all: the two are alike when they are
equal once they are blanked.

## How it is proved

Blanking is carried along the way of a description to its text, and commutes
with each step: with the translation to a filter or an order, with resolving
it to a condition or to sort keys, and with writing those as a template.  Then
the template of a blanked description is the blanked template, and the bound
text of a template is the same as that of the blanked one, because a value
becomes a question mark whatever it is.

One step is in the way.  A list that a set column is tested for becomes one
text, with commas, so blanking the list and blanking the text are not the
same; they only write the same template once that is blanked too.  From there
on the equations are about what is left of both sides (`Condition.outline`),
and go through computations that may fail by `Outcome.map_bind_congr`.
-/
import Criteria.Blanked
import Criteria.Proofs.Query

namespace Criteria

open Outcome

/-! ## Templates without their values -/

namespace Template

/-- The template with one and the same scalar for all values. -/
def blanked (t : Template) : Template :=
  t.map fun
    | .text s => .text s
    | .value _ => .value (.text "")

variable {t u : Template}

@[simp] theorem blanked_append : blanked (t ++ u) = blanked t ++ blanked u :=
  List.map_append

@[simp] theorem blanked_ofText (s : String) : blanked (ofText s) = ofText s := rfl

@[simp] theorem blanked_ofValue (v : Scalar) : blanked (ofValue v) = ofValue (.text "") := rfl

@[simp] theorem blanked_blanked : blanked (blanked t) = blanked t := by
  rw [blanked, blanked, List.map_map]
  refine List.map_congr_left fun p _ => ?_
  cases p <;> rfl

theorem blanked_joined (between : String) (ts : List Template) :
    blanked (joined between ts) = joined between (ts.map blanked) := by
  induction ts with
  | nil => rfl
  | cons t rest ih =>
      cases rest with
      | nil => simp [joined]
      | cons u rest =>
          rw [joined_cons_cons, blanked_append, blanked_append, ih]
          simp [joined_cons_cons]

theorem blanked_group (word : String) (ts : List Template) :
    blanked (group word ts) = group word (ts.map blanked) := by
  match ts with
  | [] => simp [group, blanked_joined]
  | [t] => rfl
  | t :: u :: rest => simp [group, blanked_joined]

@[simp] theorem isBlank_blanked : isBlank (blanked t) = isBlank t := by
  simp only [isBlank, blanked, List.all_map]
  congr 1
  funext p
  cases p <;> rfl

theorem sql_blanked (t : Template) : sql .parameterized (blanked t) = sql .parameterized t := by
  simp only [sql, chars, blanked, List.flatMap_map]
  congr 2
  funext p
  cases p <;> rfl

theorem length_values_blanked (t : Template) : (values (blanked t)).length = (values t).length := by
  induction t with
  | nil => rfl
  | cons p rest ih => cases p <;> simp_all [values, blanked]

end Template

/-! ## Filters -/

/-- The values of a comparison, each replaced by one and the same. -/
def Comparand.blanked : Comparand → Comparand
  | single _ => single (.text "")
  | list values => list (values.map fun _ => .text "")

theorem Comparand.values_blanked (comparand : Comparand) :
    comparand.blanked.values = comparand.values.map fun _ => .text "" := by
  cases comparand <;> rfl

/-- A predicate that compares with blanked values. -/
def Predicate.blanked (p : Predicate) : Predicate :=
  { p with comparand := p.comparand.map Comparand.blanked }

/-- What a test compiles to, without its values. -/
def Test.outline (dialect : Dialect) (t : Test) : Template :=
  (t.template dialect).blanked

theorem Test.outline_inSet (dialect : Dialect) (target : Target) (s t : Scalar) :
    (inSet target s).outline dialect = (inSet target t).outline dialect := by
  cases dialect
  rfl

theorem Test.outline_list (dialect : Dialect) (target : Target) (operator : Operator)
    (values : List Scalar) :
    (list target operator (values.map fun _ => .text "")).outline dialect =
      (list target operator values).outline dialect := by
  simp [outline, template, Template.blanked_joined, Function.comp_def]

/-- What a condition compiles to, without its values. -/
def Condition.outline (dialect : Dialect) (c : Condition) : Template :=
  (c.template dialect).blanked

namespace Condition

theorem outline_join (dialect : Dialect) (k : Conjunction) (cs : List Condition) :
    (join k cs).outline dialect = Template.group k.sql (cs.map (outline dialect)) := by
  simp only [outline, template_join, Template.blanked_group, List.map_map]
  rfl

theorem outline_negatedIf (dialect : Dialect) (negated : Bool) (c : Condition) :
    (negatedIf negated c).outline dialect =
      (if negated then Template.ofText (dialect.negation ++ " ") else []) ++
        c.outline dialect := by
  cases negated <;> simp [outline, template_negatedIf]

end Condition

namespace Predicate

theorem required_blanked (p : Predicate) :
    p.blanked.required = Comparand.blanked <$> p.required := by
  simp only [required, blanked]
  cases p.comparand <;> rfl

/-- The tests of a column differ in their values only, whether or not these are blanked before
they become a set. -/
theorem outline_test (dialect : Dialect) (p : Predicate) (column : FieldName) :
    Test.outline dialect <$> p.blanked.test column = Test.outline dialect <$> p.test column := by
  have hoperator : p.blanked.operator = p.operator := rfl
  have hfunction : p.blanked.function = p.function := rfl
  simp only [test, hoperator, hfunction, required_blanked]
  cases p.operator.arity with
  | unary => rfl
  | set =>
      cases p.required with
      | error e => rfl
      | ok comparand => exact congrArg Except.ok (Test.outline_inSet dialect _ _ _)
  | list =>
      cases p.required with
      | error e => rfl
      | ok comparand =>
          simp only [map_ok, ok_bind, comparand.values_blanked]
          cases comparand.values with
          | nil => rfl
          | cons v values => exact congrArg Except.ok (Test.outline_list dialect _ _ (v :: values))
  | binary =>
      cases p.required with
      | error e => rfl
      | ok comparand =>
          cases comparand with
          | single v => rfl
          | list values => rfl

theorem outline_condition (dialect : Dialect) (p : Predicate) (r : Resolver) :
    Condition.outline dialect <$> p.blanked.condition r =
      Condition.outline dialect <$> p.condition r := by
  have hfields : p.blanked.fields = p.fields := rfl
  simp only [condition, hfields]
  refine map_bind_congr (h := id) rfl ?_
  rintro columns _ rfl
  refine map_bind_congr (map_mapM_congr columns fun c _ => p.outline_test dialect c) ?_
  intro tests tests' htests
  have houtlines : (tests.map Condition.test).map (Condition.outline dialect) =
      (tests'.map Condition.test).map (Condition.outline dialect) := by
    rw [List.map_map, List.map_map]
    exact htests
  simp [Condition.outline_join, houtlines]

end Predicate

namespace Filter

mutual

/-- A filter that compares with blanked values. -/
def blanked : Filter → Filter
  | .empty active => .empty active
  | .group active conjunction negated members =>
    .group active conjunction negated (blankedMembers members)
  | .raw active text negated => .raw active text negated
  | .predicate active p => .predicate active p.blanked

/-- Filters that compare with blanked values. -/
def blankedMembers : List Filter → List Filter
  | [] => []
  | f :: rest => blanked f :: blankedMembers rest

end

theorem blankedMembers_eq (fs : List Filter) : blankedMembers fs = fs.map blanked := by
  induction fs with
  | nil => rfl
  | cons f rest ih => simp [blankedMembers, ih]

variable (dialect : Dialect) (r : Resolver)

theorem outline_meaningOfGroup (k : Conjunction) (negated : Bool) {cs ds : List Condition}
    (h : cs.map (Condition.outline dialect) = ds.map (Condition.outline dialect)) :
    (meaningOfGroup k negated cs).map (Condition.outline dialect) =
      (meaningOfGroup k negated ds).map (Condition.outline dialect) := by
  cases cs with
  | nil =>
      obtain rfl := List.map_eq_nil_iff.mp h.symm
      rfl
  | cons c cs =>
      cases ds with
      | nil => exact absurd h (by simp)
      | cons d ds =>
          simp only [meaningOfGroup, Option.map_some, Condition.outline_negatedIf,
            Condition.outline_join, h]

theorem outline_meanings {fs : List Filter}
    (h : ∀ f ∈ fs, Option.map (Condition.outline dialect) <$> f.blanked.meaning r =
      Option.map (Condition.outline dialect) <$> f.meaning r) :
    List.map (Condition.outline dialect) <$> meanings r (fs.map blanked) =
      List.map (Condition.outline dialect) <$> meanings r fs := by
  induction fs with
  | nil => rfl
  | cons f rest ih =>
      refine map_bind_congr (h f List.mem_cons_self) fun m n hm => ?_
      refine map_bind_congr (ih fun g hg => h g (List.mem_cons_of_mem _ hg)) fun cs ds hcs => ?_
      cases m <;> cases n <;> simp_all

/-- Blanking the values of a filter changes nothing in what it compiles to but values. -/
theorem outline_meaning (f : Filter) :
    Option.map (Condition.outline dialect) <$> f.blanked.meaning r =
      Option.map (Condition.outline dialect) <$> f.meaning r := by
  induction f with
  | empty active => rfl
  | raw active s negated => rfl
  | predicate active p =>
      cases active with
      | false => rfl
      | true =>
          have h := congrArg (some <$> ·) (p.outline_condition dialect r)
          simp only [Functor.map_map] at h
          simpa only [blanked, meaning, if_true, Functor.map_map, Option.map_some] using h
  | group active k negated members ih =>
      cases active with
      | false => rfl
      | true =>
          simp only [blanked, blankedMembers_eq, meaning, if_true]
          refine map_bind_congr (outline_meanings dialect r ih) fun cs ds hcs => ?_
          simp [outline_meaningOfGroup dialect k negated hcs]

theorem blanked_template (context : Context) (f : Filter) :
    Template.blanked <$> f.blanked.template context = Template.blanked <$> f.template context := by
  have helim : ∀ m : Option Condition,
      Template.blanked (m.elim [] (Condition.template context.dialect)) =
        (m.map (Condition.outline context.dialect)).getD [] := by
    intro m
    cases m <;> rfl
  have h := congrArg ((·.getD []) <$> ·) (f.outline_meaning context.dialect context.resolver)
  simp only [Functor.map_map] at h
  simpa only [template, Functor.map_map, helim] using h

end Filter

namespace FilterInput

theorem scalar_blankScalar (v : Json) :
    scalar v.blankScalar = (fun _ => Scalar.text "") <$> scalar v := by
  cases v <;> rfl

theorem comparand_blankValue (value : Option Json) :
    comparand (value.map Json.blankValue) = Option.map Comparand.blanked <$> comparand value := by
  cases value with
  | none => rfl
  | some v =>
      cases v with
      | list items =>
          simp only [Option.map_some, Json.blankValue, comparand,
            mapM_map_comm scalar_blankScalar items]
          cases items.mapM scalar <;> rfl
      | _ => rfl

theorem leaf_blankValue (heading : Heading) (active : Bool) (condition : String)
    (value : Option Json) :
    heading.leaf active condition (value.map Json.blankValue) =
      Filter.blanked <$> heading.leaf active condition value := by
  simp only [Heading.leaf, comparand_blankValue]
  split
  · rfl
  · split
    · rfl
    · split
      · rfl
      · cases comparand value <;> rfl

theorem isEmpty_blankedEntries (entries : List (FilterEntry FilterInput)) :
    (blankedEntries entries).isEmpty = entries.isEmpty := by
  cases entries <;> rfl

mutual

theorem toFilterAt_blanked (maxDepth : Nat) : ∀ (input : FilterInput) (level : Nat),
    toFilterAt maxDepth level input.blanked = Filter.blanked <$> toFilterAt maxDepth level input
  | ⟨active, condition, filters, property, value, operator, func, operand⟩, level => by
      rw [blanked, toFilterAt_eq, toFilterAt_eq]
      split
      · rfl
      · cases Heading.ofInput operator func operand property with
        | error e => rfl
        | ok heading =>
            simp only [ok_bind, isEmpty_blankedEntries]
            split
            · exact leaf_blankValue heading _ _ value
            · rw [entriesToFilters_blanked maxDepth filters level]
              simp only [Functor.map_map, Filter.blanked, Filter.blankedMembers_eq]

theorem entriesToFilters_blanked (maxDepth : Nat) :
    ∀ (entries : List (FilterEntry FilterInput)) (level : Nat),
      entriesToFilters maxDepth level (blankedEntries entries) =
        List.map Filter.blanked <$> entriesToFilters maxDepth level entries
  | [], _ => rfl
  | entry :: rest, level => by
      simp only [blankedEntries, entriesToFilters, entryToFilter_blanked maxDepth entry level,
        entriesToFilters_blanked maxDepth rest level]
      cases entryToFilter maxDepth level entry with
      | error e => rfl
      | ok f => cases entriesToFilters maxDepth level rest <;> rfl

theorem entryToFilter_blanked (maxDepth : Nat) :
    ∀ (entry : FilterEntry FilterInput) (level : Nat),
      entryToFilter maxDepth level (blankedEntry entry) =
        Filter.blanked <$> entryToFilter maxDepth level entry
  | .nested input, level => toFilterAt_blanked maxDepth input (level + 1)
  | .fragment sql, level => by
      simp only [blankedEntry, entryToFilter, map_ok]
      split <;> rfl

end

end FilterInput

/-! ## Orders -/

/-- A sort key whose values are blanked. -/
def SortKey.blanked : SortKey → SortKey
  | .position c values direction => .position c (values.map fun _ => .text "") direction
  | key => key

theorem SortKey.blanked_template (dialect : Dialect) (key : SortKey) :
    key.blanked.template dialect = (key.template dialect).blanked := by
  cases dialect
  cases key with
  | position c values direction =>
      simp [blanked, template, Dialect.fieldOrder, Template.blanked_joined, Function.comp_def]
  | _ => rfl

/-- An order whose values are blanked. -/
def Order.blanked (order : Order) : Order :=
  { order with values := order.values.map fun _ => .text "" }

namespace Order

theorem valueKeys_blanked (order : Order) (r : Resolver) :
    order.blanked.valueKeys r = List.map SortKey.blanked <$> order.valueKeys r := by
  simp only [valueKeys, blanked, List.isEmpty_map]
  by_cases hfields : order.fields.isEmpty
  · simp [hfields]
  · by_cases hvalues : order.values.isEmpty
    · simp [hfields, hvalues]
    · simp only [hfields, hvalues]
      cases r.columns order.fields with
      | error e => rfl
      | ok columns => simp [SortKey.blanked, direction]

theorem fieldKeys_blanked (order : Order) (r : Resolver) :
    order.blanked.fieldKeys r = List.map SortKey.blanked <$> order.fieldKeys r := by
  simp only [fieldKeys, blanked]
  cases r.columns order.fields with
  | error e => rfl
  | ok columns => simp [SortKey.blanked, direction]

theorem customKeys_blanked (order : Order) :
    order.blanked.customKeys = List.map SortKey.blanked <$> order.customKeys := by
  have htext : order.blanked.ownText? = order.ownText? := rfl
  simp only [customKeys, htext]
  cases order.ownText? <;> rfl

theorem keys_blanked (order : Order) (r : Resolver) :
    order.blanked.keys r = List.map SortKey.blanked <$> order.keys r := by
  have hactive : order.blanked.active = order.active := rfl
  have hmode : order.blanked.mode = order.mode := rfl
  have htext : order.blanked.ownText? = order.ownText? := rfl
  have hvalues : order.blanked.values.isEmpty = order.values.isEmpty := List.isEmpty_map
  have hfields : order.blanked.fields = order.fields := rfl
  simp only [keys, hactive, hmode, htext, hvalues, hfields, valueKeys_blanked, fieldKeys_blanked,
    customKeys_blanked]
  repeat' split
  all_goals rfl

theorem blanked_template (context : Context) (order : Order) :
    order.blanked.template context = Template.blanked <$> order.template context := by
  simp only [template, keys_blanked, Functor.map_map, Template.blanked_joined, List.map_map,
    Function.comp_def, SortKey.blanked_template]

end Order

theorem OrderInput.toOrder_blanked (input : OrderInput) :
    input.blanked.toOrder = Order.blanked <$> input.toOrder := by
  have hvalues : Scalar.listOfJson (input.values.map Json.blankScalar) =
      (Scalar.listOfJson input.values).map fun _ => .text "" := by
    have hscalar : ∀ v : Json, Scalar.ofJson? v.blankScalar =
        (Scalar.ofJson? v).map fun _ => .text "" := by
      intro v
      cases v <;> rfl
    simp only [Scalar.listOfJson, List.filterMap_map, List.map_filterMap, Function.comp_def,
      hscalar]
  simp only [toOrder, blanked, hvalues]
  cases Input.token OrderMode.ofToken? .unknownMode input.mode with
  | error e => rfl
  | ok mode =>
      cases Input.token Direction.ofToken? .unknownDirection input.direction with
      | error e => rfl
      | ok direction => cases Input.fields input.property <;> rfl

/-! ## Queries -/

namespace Compiler

variable (c : Compiler)

theorem blanked_filterTemplate (input : FilterInput) :
    Template.blanked <$> c.filterTemplate input.blanked =
      Template.blanked <$> c.filterTemplate input := by
  simp only [filterTemplate, FilterInput.toFilter, FilterInput.toFilterAt_blanked]
  cases input.toFilterAt c.config.maxDepth 1 with
  | error e => rfl
  | ok f => exact f.blanked_template c.context

theorem blanked_orderTemplate (input : OrderInput) :
    c.orderTemplate input.blanked = Template.blanked <$> c.orderTemplate input := by
  simp only [orderTemplate, input.toOrder_blanked]
  cases input.toOrder with
  | error e => rfl
  | ok order => exact order.blanked_template c.context

theorem blanked_ordersTemplate (inputs : List OrderInput) :
    c.ordersTemplate (inputs.map OrderInput.blanked) =
      Template.blanked <$> c.ordersTemplate inputs := by
  have hkept : ∀ ts : List Template, (ts.map Template.blanked).filter (fun t => !t.isBlank) =
      (ts.filter fun t => !t.isBlank).map Template.blanked := by
    intro ts
    simp only [List.filter_map, Function.comp_def, Template.isBlank_blanked]
  simp only [ordersTemplate, mapM_map_comm c.blanked_orderTemplate, Functor.map_map, hkept,
    Template.blanked_joined]

theorem blanked_optionalTemplate {α : Type} {template : α → Except ExpressionError Template}
    {blanked : α → α}
    (h : ∀ input, Template.blanked <$> template (blanked input) =
      Template.blanked <$> template input) (input : Option α) :
    Template.blanked <$> optionalTemplate template (input.map blanked) =
      Template.blanked <$> optionalTemplate template input := by
  cases input with
  | none => rfl
  | some input => exact h input

end Compiler

/-- The clauses of a query without their values. -/
def Clauses.blanked (clauses : Clauses) : Clauses where
  filter := clauses.filter.blanked
  orders := clauses.orders.blanked
  page := clauses.page.blanked

namespace Clauses

/-- In bound text nothing is left of the values. -/
theorem bound_query_of_blanked {a b : Clauses} (h : a.blanked = b.blanked) :
    (a.query .parameterized).whereBody = (b.query .parameterized).whereBody ∧
      (a.query .parameterized).orderBody = (b.query .parameterized).orderBody ∧
      (a.query .parameterized).limit = (b.query .parameterized).limit ∧
      (a.query .parameterized).params.length = (b.query .parameterized).params.length := by
  obtain ⟨hfilter, horders, hpage⟩ := Clauses.mk.inj h
  have hsql : ∀ {t u : Template}, t.blanked = u.blanked →
      t.sql .parameterized = u.sql .parameterized ∧ t.values.length = u.values.length := by
    intro t u htu
    rw [← t.sql_blanked, ← t.length_values_blanked, htu, u.sql_blanked, u.length_values_blanked]
    exact ⟨rfl, rfl⟩
  simp [Clauses.query, hsql hfilter, hsql horders, hsql hpage]

end Clauses

namespace Compiler

variable (c : Compiler)

/-- Blanking the values of a query changes nothing in its clauses but values. -/
theorem blanked_clauses (input : QueryInput) :
    Clauses.blanked <$> c.clauses input.blanked = Clauses.blanked <$> c.clauses input := by
  have horders : Template.blanked <$> c.ordersTemplate input.blanked.orders =
      Template.blanked <$> c.ordersTemplate input.orders := by
    have hlist : input.blanked.orders = input.orders.map OrderInput.blanked := by
      simp only [QueryInput.orders, QueryInput.blanked]
      cases input.order with
      | none => rfl
      | some order => cases order <;> rfl
    simp only [hlist, blanked_ordersTemplate, Functor.map_map, Template.blanked_blanked]
  simp only [clauses, optionalTemplate_orders]
  refine map_bind_congr (blanked_optionalTemplate c.blanked_filterTemplate input.filter) ?_
  intro filter filter' hfilter
  refine map_bind_congr horders ?_
  intro orders orders' horders
  refine map_bind_congr (h := id) rfl ?_
  rintro page _ rfl
  simp [Clauses.blanked, hfilter, horders]

end Compiler

/-- Two queries that differ in nothing but scalars fail with the same error where values are bound,
or give the same clauses and the same number of parameters. -/
theorem bound_text_ignores_values {c : Compiler} (hmode : c.config.bindMode = .parameterized)
    {a b : QueryInput} (h : a.blanked = b.blanked) :
    (∃ error, c.compile a = .error error ∧ c.compile b = .error error) ∨
      ∃ qa qb, c.compile a = .ok qa ∧ c.compile b = .ok qb ∧ qa.whereBody = qb.whereBody ∧
        qa.orderBody = qb.orderBody ∧ qa.limit = qb.limit ∧
        qa.params.length = qb.params.length := by
  have hclauses : Clauses.blanked <$> c.clauses a = Clauses.blanked <$> c.clauses b := by
    rw [← c.blanked_clauses a, h, c.blanked_clauses b]
  rw [c.compile_eq, c.compile_eq, hmode]
  rcases map_eq_map_iff.mp hclauses with ⟨e, ha, hb⟩ | ⟨clauses, clauses', ha, hb, halike⟩
  · rw [ha, hb]
    exact .inl ⟨e, rfl, rfl⟩
  · rw [ha, hb]
    exact .inr ⟨_, _, rfl, rfl, Clauses.bound_query_of_blanked halike⟩

/-- A value that would end its literal takes the place of a truth value in a list. -/
theorem bound_text_ignores_values_in_list :
    let c : Compiler := ⟨{ bindMode := .parameterized }, .mysql, .plain⟩
    let query (v w : Json) : QueryInput :=
      { filter := some
          { property := some (.one "name"), operator := some "in", value := some (.list [v, w]) }
        order := some (.one { property := some (.one "city"), values := [w, .null] }) }
    let plain := query (.string "x") (.bool true)
    let hostile := query (.string "x") (.string "') OR 1=1")
    c.config.bindMode = .parameterized ∧ plain.blanked = hostile.blanked ∧
      c.compile plain =
        .ok ⟨"name IN (?,?)", "FIELD(city, ?)", "", [.text "x", .bool true, .bool true]⟩ ∧
      ∃ compiled, c.compile hostile = .ok compiled ∧ compiled.whereBody = "name IN (?,?)" ∧
        compiled.orderBody = "FIELD(city, ?)" ∧ compiled.limit = "" ∧
        compiled.params.length = 3 := by
  intro c query plain hostile
  have hmode : c.config.bindMode = .parameterized := rfl
  have hblanked : plain.blanked = hostile.blanked := rfl
  have hplain : c.compile plain =
      .ok ⟨"name IN (?,?)", "FIELD(city, ?)", "", [.text "x", .bool true, .bool true]⟩ := rfl
  refine ⟨hmode, hblanked, hplain, ?_⟩
  rcases bound_text_ignores_values hmode hblanked with
    ⟨error, herror, -⟩ | ⟨qa, qb, hqa, hqb, hwhere, horder, hlimit, hparams⟩
  · exact absurd (hplain.symm.trans herror) (by simp)
  · obtain rfl := Except.ok.inj (hplain.symm.trans hqa)
    exact ⟨qb, hqb, hwhere.symm, horder.symm, hlimit.symm, hparams.symm⟩

end Criteria
