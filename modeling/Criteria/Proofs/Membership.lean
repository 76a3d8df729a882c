/-
# `Criteria.Proofs.Membership` — FIND_IN_SET finds the only value of a list

## What is proved

A test of a set column for a list of values compiles, to a text that is read as
one FIND_IN_SET for each column of the field (`Filter.read_findInSet`).  On a row
it holds exactly when the list has one value and the set of a column has the
value among its elements; so "any of the values is an element" is what it says
exactly when the list has one value (`Filter.findInSet_holds_of_any_iff_single`).

## Why no list of two is found

What is looked for is one text, the texts of the values with commas between.  An
element of a set has no comma, because a comma ends it
(`comma_notMem_of_mem_elements`), and the text of two values has one
(`comma_mem_intercalate`).  So the test of two values holds on no row at all,
and a set with just the first of them tells it from what is asked for
(`Filter.findInSet_misses_first_of_two`).

A set whose content is NULL has no elements; the test is unknown there, and does
not hold.
-/
import Criteria.Filter.OfInput
import Criteria.Proofs.Binding
import Criteria.Proofs.Precedence
import Criteria.Proofs.Reading
import Criteria.Sql.Row

namespace Criteria

open Outcome Sql

/-! ## Elements of sets -/

namespace Sql

variable {text set : String}

/-- An element has no comma in it, for a comma would divide it. -/
theorem comma_notMem_of_mem_elements (h : text ∈ elements set) : ',' ∉ text.toList := by
  unfold elements at h
  split at h
  · exact absurd h List.not_mem_nil
  · obtain ⟨part, hpart, rfl⟩ := List.mem_map.mp h
    rw [String.toList_ofList]
    intro hcomma
    exact absurd (Parts.eq_false_of_mem_splitOnP hpart ',' hcomma) (by decide)

/-- A text without commas is a set of one element. -/
theorem elements_of_comma_notMem (hne : text ≠ "") (hcomma : ',' ∉ text.toList) :
    elements text = [text] := by
  have hempty : text.isEmpty = false := by
    rw [← Bool.not_eq_true, String.isEmpty_iff]
    exact hne
  have hparts : text.toList.splitOn ',' = [text.toList] := by
    refine List.splitOnP_eq_singleton fun c hc => ?_
    exact beq_eq_false_iff_ne.mpr fun h => hcomma (h ▸ hc)
  rw [elements, hempty, hparts]
  simp

/-- Two texts or more with commas between have a comma. -/
theorem comma_mem_intercalate (a b : String) (rest : List String) :
    ',' ∈ (",".intercalate (a :: b :: rest)).toList := by
  rw [String.toList_intercalate]
  simp

/-! ## Truth of an OR -/

theorem Connective.combineAll_or_eq_true {xs : List Truth} :
    Connective.or.combineAll xs = some true ↔ some true ∈ xs := by
  induction xs with
  | nil => simp [unit]
  | cons x xs ih =>
      have hcombine : ∀ b, Connective.or.combine x b = some true ↔
          x = some true ∨ b = some true := by
        intro b
        rcases x with _ | _ | _ <;> rcases b with _ | _ | _ <;> decide
      rw [combineAll_cons, hcombine, ih, List.mem_cons, eq_comm]

namespace Formula

variable {value : Atom → Truth} {φs : List Formula}

theorem truths_eq : truths value φs = φs.map (truth value) := by
  induction φs with
  | nil => rfl
  | cons φ rest ih => rw [truths, ih, List.map_cons]

theorem truth_junction {k : Conjunction} :
    (junction k φs).truth value = k.connective.combineAll (φs.map (truth value)) := by
  rw [truth, truths_eq]

theorem truth_join {k : Conjunction} :
    (join k φs).truth value = k.connective.combineAll (φs.map (truth value)) := by
  match φs with
  | [] => exact truth_junction
  | [φ] => simp [join]
  | φ :: ψ :: rest => exact truth_junction

/-- An OR holds where one of its members does. -/
theorem truth_join_or :
    (join .or φs).truth value = some true ↔ ∃ φ ∈ φs, φ.truth value = some true := by
  rw [truth_join]
  exact Connective.combineAll_or_eq_true.trans List.mem_map

end Formula

namespace Row

variable {row : Row} {operand : Operand}

theorem value_inSet : row.value (.inSet operand text) = some true ↔ row.Has operand text := by
  rw [value, Has]
  cases row.content operand with
  | none => simp
  | some set => simp

end Row

end Sql

/-! ## The test of a list of values -/

section

variable {field : FieldName} {resolver : Resolver} {values : List Scalar} {row : Row}

namespace Predicate

/-- The comparison of a field that tests its set for a list of values. -/
def findInSet (field : FieldName) (values : List Scalar) : Predicate where
  fields := [field]
  operator := .findInSet
  comparand := some (.list values)

/-- The comparison means a test for one text in each column. -/
theorem condition_findInSet (hcolumns : resolver.resolve field ≠ []) :
    (findInSet field values).condition resolver = .ok (Condition.join .or
      ((resolver.resolve field).map fun column =>
        .test (.inSet ⟨column, none⟩ (Comparand.list values).set))) := by
  have hresolved : resolver.columns [field] = .ok (resolver.resolve field) :=
    Resolver.columns_eq_ok.mpr ⟨List.flatMap_singleton _ _, hcolumns⟩
  have htests : (resolver.resolve field).mapM (findInSet field values).test =
      .ok ((resolver.resolve field).map fun column =>
        .inSet ⟨column, none⟩ (Comparand.list values).set) := List.mapM_pure
  show (resolver.columns [field] >>= fun columns => _) = _
  rw [hresolved]
  show (List.mapM (findInSet field values).test (resolver.resolve field) >>= fun tests => _) = _
  rw [htests]
  show Except.ok _ = _
  rw [List.map_map]
  rfl

theorem formula_findInSet : (findInSet field values).formula resolver = some (Formula.join .or
    ((resolver.resolve field).map fun column =>
      .atom (.inSet (Target.operand ⟨column, none⟩) (Comparand.list values).set.literal))) := by
  have hatoms : (resolver.resolve field).mapM (findInSet field values).atom =
      some ((resolver.resolve field).map fun column =>
        .inSet (Target.operand ⟨column, none⟩) (Comparand.list values).set.literal) :=
    List.mapM_pure
  have hcolumns : (findInSet field values).fields.flatMap resolver.resolve =
      resolver.resolve field := List.flatMap_singleton _ _
  rw [formula, hcolumns, hatoms]
  simp [Function.comp_def]

end Predicate

/-- One of the columns of the field has the text among its elements. -/
def Resolver.Finds (resolver : Resolver) (field : FieldName) (row : Row) (text : String) : Prop :=
  ∃ column ∈ resolver.resolve field, row.Has (Target.operand ⟨column, none⟩) text

theorem truth_findInSet {φ : Formula}
    (h : (Predicate.findInSet field values).formula resolver = some φ) :
    row.truth φ = some true ↔ resolver.Finds field row (Comparand.list values).set.literal := by
  rw [Predicate.formula_findInSet] at h
  obtain rfl := Option.some.inj h
  rw [Row.truth, Formula.truth_join_or, Resolver.Finds]
  simp only [List.mem_map, exists_exists_and_eq_and]
  refine exists_congr fun column => and_congr_right fun _ => ?_
  exact Row.value_inSet

/-- Two values or more are never found, for their text has a comma in it. -/
theorem finds_set (hvalues : values ≠ []) :
    resolver.Finds field row (Comparand.list values).set.literal ↔
      ∃ v, values = [v] ∧ resolver.Finds field row v.literal := by
  match values with
  | [v] =>
      have htext : (Comparand.list [v]).set.literal = v.literal :=
        @String.intercalate_singleton "," v.literal
      rw [htext]
      simp
  | v :: w :: rest =>
      constructor
      · rintro ⟨column, -, set, -, hmem⟩
        exact absurd (comma_mem_intercalate _ _ _) (comma_notMem_of_mem_elements hmem)
      · rintro ⟨_, h, -⟩
        cases h

/-- Finding the only value there is, is finding any of the values, when there is one value; where
there are more, a row that has the first of them tells the two apart. -/
theorem finds_only_iff_any (hcolumns : resolver.resolve field ≠ []) (hvalues : values ≠ [])
    (htexts : ∀ v ∈ values, v.literal ≠ "" ∧ ',' ∉ v.literal.toList) :
    (∀ row : Row, (∃ v, values = [v] ∧ resolver.Finds field row v.literal) ↔
        ∃ v ∈ values, resolver.Finds field row v.literal) ↔ values.length = 1 := by
  constructor
  · intro h
    obtain ⟨v, rest, rfl⟩ := List.exists_cons_of_ne_nil hvalues
    obtain ⟨column, columns, hresolve⟩ := List.exists_cons_of_ne_nil hcolumns
    obtain ⟨hne, hcomma⟩ := htexts v List.mem_cons_self
    let row : Row := ⟨fun _ => some v.literal, fun _ => none⟩
    have hmem : v.literal ∈ elements v.literal := by
      rw [elements_of_comma_notMem hne hcomma]
      exact List.mem_cons_self
    have hfinds : resolver.Finds field row v.literal :=
      ⟨column, hresolve ▸ List.mem_cons_self, v.literal, rfl, hmem⟩
    obtain ⟨w, hw, -⟩ := (h row).mpr ⟨v, List.mem_cons_self, hfinds⟩
    rw [hw]
    rfl
  · intro h row
    obtain ⟨v, rfl⟩ := List.length_eq_one_iff.mp h
    simp

/-- The list of a document gives the values that its items are. -/
theorem FilterInput.comparand_list {items : List Json}
    (h : items.map Scalar.ofJson? = values.map some) :
    FilterInput.comparand (some (.list items)) = .ok (some (.list values)) := by
  have hscalars : items.mapM FilterInput.scalar = .ok values := by
    induction items generalizing values with
    | nil =>
        obtain rfl := List.map_eq_nil_iff.mp h.symm
        rfl
    | cons item items ih =>
        cases values with
        | nil => cases h
        | cons v values =>
            obtain ⟨hitem, hitems⟩ := List.cons.inj h
            have hscalar : FilterInput.scalar item = .ok v := by rw [scalar, hitem]
            rw [List.mapM_cons, hscalar, ih hitems]
            rfl
  show (items.mapM FilterInput.scalar >>= fun values => _) = _
  rw [hscalars]
  rfl

/-- The description of a test for a list of values. -/
theorem FilterInput.toFilter_findInSet {property : String} {items : List Json}
    (hproperty : FieldName.ofText (Text.trim property) = .ok field)
    (hitems : items.map Scalar.ofJson? = values.map some) :
    FilterInput.toFilter
      { property := some (.one property), operator := some "FIND_IN_SET"
        value := some (.list items) } = .ok (.predicate true (.findInSet field values)) := by
  have hoperator : Input.token Operator.ofToken? .unknownOperator (some "FIND_IN_SET") =
      .ok (some .findInSet) := rfl
  have hfields : Input.fields (some (.one property)) = .ok [field] := by
    show [property].mapM _ = _
    rw [List.mapM_cons, hproperty]
    rfl
  have hheading : Heading.ofInput (some "FIND_IN_SET") none none (some (.one property)) =
      .ok ⟨some .findInSet, none, .and, [field]⟩ := by
    rw [Heading.ofInput, hoperator, hfields]
    rfl
  rw [toFilter, toFilterAt, hheading]
  show (comparand (some (.list items)) >>= fun comparand => _) = _
  rw [comparand_list hitems]
  rfl

end

namespace Filter

variable {field : FieldName} {resolver : Resolver} {values : List Scalar}

theorem compare_findInSet {name : String} (hname : FieldName.ofText name = .ok field) :
    compare name .findInSet (some (.list values)) =
      .ok (.predicate true (.findInSet field values)) := by
  show ([name].mapM FieldName.ofText >>= fun fields => _) = _
  rw [List.mapM_cons, hname]
  rfl

/-- The text of a test for a list of values is read as what the test says. -/
theorem read_findInSet (values : List Scalar) (hcolumns : resolver.resolve field ≠ []) :
    ∃ s φ, Expression.sql (Filter.predicate true (.findInSet field values)) ⟨.mysql, resolver⟩ =
        .ok s ∧ Formula.ofText? s = some φ ∧
      (Predicate.findInSet field values).formula resolver = some φ := by
  let f : Filter := .predicate true (.findInSet field values)
  let c : Condition := .join .or ((resolver.resolve field).map fun column =>
    .test (.inSet ⟨column, none⟩ (Comparand.list values).set))
  have hcondition : (Predicate.findInSet field values).condition resolver = .ok c :=
    Predicate.condition_findInSet hcolumns
  have hmeaning : f.meaning resolver = .ok (some c) := by
    show some <$> (Predicate.findInSet field values).condition resolver = _
    rw [hcondition]
    rfl
  have htemplate : Templated.template ⟨.mysql, resolver⟩ f = .ok (c.template .mysql) := by
    show _ <$> f.meaning resolver = _
    rw [hmeaning]
    rfl
  have hown : ∀ s ∈ f.ownTexts, s = "" := nofun
  have hreads := c.reads .mysql (f.ownTexts_eq_nil_of_meaning hown hmeaning)
  have hnot : (Predicate.findInSet field values).operator ≠ .not := nofun
  obtain ⟨φ, hφ, hread⟩ := Predicate.read_condition hnot hcondition
  refine ⟨_, φ, ?_, hread.ofText? (hreads.tokens?_sql .inline), hφ⟩
  rw [Expression.sql_eq, htemplate]
  rfl

/-- A test for a list of values is written and described, both ways to write it agree, and its
text is read as a condition that finds the only value of the list and never finds one of more: so
it holds where any of the values is an element exactly when the list has one value. -/
theorem findInSet_holds_of_any_iff_single {name : String} (resolver : Resolver)
    (hname : FieldName.ofText name = .ok field) (hcolumns : resolver.resolve field ≠ [])
    (hvalues : values ≠ []) (htexts : ∀ v ∈ values, v.literal ≠ "" ∧ ',' ∉ v.literal.toList) :
    ∃ f s φ, compare name .findInSet (some (.list values)) = .ok f ∧
      (∀ property items, FieldName.ofText (Text.trim property) = .ok field →
        items.map Scalar.ofJson? = values.map some →
        FilterInput.toFilter
          { property := some (.one property), operator := some "FIND_IN_SET"
            value := some (.list items) } = .ok f) ∧
      Expression.sql f ⟨.mysql, resolver⟩ = .ok s ∧ RenderingsAgree ⟨.mysql, resolver⟩ f ∧
      Formula.ofText? s = some φ ∧
      (∀ row : Row, row.truth φ = some true ↔
        ∃ v, values = [v] ∧ resolver.Finds field row v.literal) ∧
      ((∀ row : Row, row.truth φ = some true ↔
        ∃ v ∈ values, resolver.Finds field row v.literal) ↔ values.length = 1) := by
  obtain ⟨s, φ, hsql, hread, hφ⟩ := read_findInSet values hcolumns
  have htruth : ∀ row : Row, row.truth φ = some true ↔
      ∃ v, values = [v] ∧ resolver.Finds field row v.literal := fun row =>
    (truth_findInSet hφ).trans (finds_set hvalues)
  refine ⟨_, s, φ, compare_findInSet hname, ?_, hsql, ?_, hread, htruth, ?_⟩
  · exact fun _ _ hproperty hitems => FilterInput.toFilter_findInSet hproperty hitems
  · have hown : ∀ t ∈ (Filter.predicate true (.findInSet field values)).ownTexts,
        '?' ∉ t.toList := nofun
    exact renderingsAgree_of_unmarked fun t ht => unmarked hown ht
  · simp only [htruth]
    exact finds_only_iff_any hcolumns hvalues htexts

/-- A test for one value holds where the value is an element. -/
theorem findInSet_holds_of_single :
    let tags : FieldName := ⟨none, ⟨"tags", by decide⟩⟩
    ∃ f s φ, compare "tags" .findInSet (some (.list [.text "news"])) = .ok f ∧
      Expression.sql f ⟨.mysql, .plain⟩ = .ok s ∧ Formula.ofText? s = some φ ∧
      ∀ row : Row, row.truth φ = some true ↔
        ∃ v ∈ [Scalar.text "news"], Resolver.plain.Finds tags row v.literal := by
  intro tags
  have hname : FieldName.ofText "tags" = .ok tags := rfl
  have hcolumns : Resolver.plain.resolve tags ≠ [] := List.cons_ne_nil _ _
  have hvalues : [Scalar.text "news"] ≠ [] := List.cons_ne_nil _ _
  have htexts : ∀ v ∈ [Scalar.text "news"], v.literal ≠ "" ∧ ',' ∉ v.literal.toList := by decide
  obtain ⟨f, s, φ, hf, -, hsql, -, hread, -, hany⟩ :=
    findInSet_holds_of_any_iff_single .plain hname hcolumns hvalues htexts
  exact ⟨f, s, φ, hf, hsql, hread, hany.mpr rfl⟩

/-- A test for two values is false where the first of them is the only element. -/
theorem findInSet_misses_first_of_two :
    let tags : FieldName := ⟨none, ⟨"tags", by decide⟩⟩
    let row : Row := ⟨fun _ => some "news", fun _ => none⟩
    ∃ f φ, compare "tags" .findInSet (some (.list [.text "news", .text "sport"])) = .ok f ∧
      Expression.sql f ⟨.mysql, .plain⟩ = .ok "FIND_IN_SET('news,sport', tags)" ∧
      Formula.ofText? "FIND_IN_SET('news,sport', tags)" = some φ ∧ row.truth φ = some false ∧
      ∃ v ∈ [Scalar.text "news", .text "sport"], Resolver.plain.Finds tags row v.literal := by
  intro tags row
  have hcolumns : Resolver.plain.resolve tags ≠ [] := List.cons_ne_nil _ _
  obtain ⟨s, φ, hs, hread, hφ⟩ := read_findInSet [.text "news", .text "sport"] hcolumns
  have hsql : Expression.sql (Filter.predicate true (.findInSet tags [.text "news", .text "sport"]))
      ⟨.mysql, .plain⟩ = .ok "FIND_IN_SET('news,sport', tags)" := rfl
  obtain rfl : s = "FIND_IN_SET('news,sport', tags)" := Except.ok.inj (hs.symm.trans hsql)
  obtain rfl : .atom (.inSet ⟨none, none, "tags"⟩ "news,sport") = φ := Option.some.inj hφ
  refine ⟨_, _, compare_findInSet rfl, hsql, hread, by decide, _, List.mem_cons_self, ?_⟩
  exact ⟨tags, List.mem_cons_self, "news", rfl, by decide⟩

end Filter

end Criteria
