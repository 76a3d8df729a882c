/-
# `Criteria.Proofs.Resolution` — fields may be resolved ahead

## What is proved

For every resolver and in both bind modes, a filter with the columns of its
fields in their place is written without a resolver as the filter itself is
with it: the same text, the same parameters, or the same error.  An order is
too, if it has no fields or its fields have a column
(`resolved_ahead_renders_alike`).

## Where it ends

An order without fields need not be in error, and one with fields that have no
column is.  When they give way to their columns nothing is left of the latter,
and the order sorts by nothing instead (`Order.keys_of_no_column`).  A predicate
without columns is in error whatever its fields are, so filters know no such
exception.

## What carries it

A resolver is asked for nothing but the columns of all fields of one predicate
or order, and where they are resolved already the plain resolver gives the same
columns (`Resolver.columns_flatMap`).  What a filter means and what an order
sorts by are found from these, and texts and parameters from that.
-/
import Criteria.Proofs.Writing
import Criteria.Resolved

namespace Criteria

open Outcome

variable {r : Resolver}

/-! ## Columns -/

/-- The plain resolver leaves columns as they are. -/
theorem Resolver.flatMap_resolve_plain (columns : List FieldName) :
    columns.flatMap plain.resolve = columns := by
  show columns.flatMap (fun column => [column]) = columns
  exact List.flatMap_singleton' columns

/-- Columns that have been found ahead are found again. -/
theorem Resolver.columns_flatMap (r : Resolver) (fields : List FieldName) :
    plain.columns (fields.flatMap r.resolve) = r.columns fields := by
  rw [columns, flatMap_resolve_plain, columns]

/-! ## Filters -/

theorem Predicate.condition_resolved (p : Predicate) :
    (p.resolved r).condition .plain = p.condition r := by
  show (do
      let columns ← Resolver.plain.columns (p.fields.flatMap r.resolve)
      let tests ← columns.mapM p.test
      return Condition.join .or (tests.map .test)) = p.condition r
  rw [Resolver.columns_flatMap]
  rfl

namespace Filter

theorem resolvedMembers_eq (fs : List Filter) : resolvedMembers r fs = fs.map (resolved r) := by
  induction fs with
  | nil => rfl
  | cons f rest ih => rw [resolvedMembers, List.map_cons, ih]

theorem meanings_map {r' : Resolver} {h : Filter → Filter} {fs : List Filter}
    (hfs : ∀ f ∈ fs, (h f).meaning r' = f.meaning r) :
    meanings r' (fs.map h) = meanings r fs := by
  induction fs with
  | nil => rfl
  | cons f rest ih =>
      obtain ⟨hf, hrest⟩ := List.forall_mem_cons.mp hfs
      rw [List.map_cons, meanings, meanings, hf, ih hrest]

/-- A filter means by its columns what it means by its fields. -/
theorem meaning_resolved (f : Filter) : (f.resolved r).meaning .plain = f.meaning r := by
  induction f with
  | empty active => rfl
  | raw active text negated => rfl
  | predicate active p =>
      show (if active then some <$> (p.resolved r).condition .plain else .ok none) = _
      rw [p.condition_resolved]
      rfl
  | group active k negated members ih =>
      rw [resolved, resolvedMembers_eq, meaning, meaning, meanings_map ih]

end Filter

/-! ## Orders -/

namespace Order

variable {order : Order}

theorem isEmpty_fields_resolved (h : order.HasColumns r) :
    (order.resolved r).fields.isEmpty = order.fields.isEmpty := by
  show (order.fields.flatMap r.resolve).isEmpty = order.fields.isEmpty
  rcases h with h | h
  · rw [h]
    rfl
  · have hfields : order.fields ≠ [] := fun hnil => h (by rw [hnil]; rfl)
    rw [List.isEmpty_eq_false_iff.mpr h, List.isEmpty_eq_false_iff.mpr hfields]

/-- An order sorts by its columns as it does by its fields. -/
theorem keys_resolved (h : order.HasColumns r) :
    (order.resolved r).keys .plain = order.keys r := by
  have hcolumns : Resolver.plain.columns (order.resolved r).fields = r.columns order.fields :=
    r.columns_flatMap order.fields
  have hvalues : (order.resolved r).valueKeys .plain = order.valueKeys r := by
    rw [valueKeys, valueKeys, isEmpty_fields_resolved h, hcolumns]
    rfl
  have hfields : (order.resolved r).fieldKeys .plain = order.fieldKeys r := by
    rw [fieldKeys, fieldKeys, hcolumns]
    rfl
  rw [keys, keys, hvalues, hfields, isEmpty_fields_resolved h]
  rfl

/-- An order by fields without a column is in error, and is none where they are resolved ahead. -/
theorem keys_of_no_column {fields : List FieldName} (direction : Option Direction)
    (hfields : fields ≠ []) (h : fields.flatMap r.resolve = []) :
    let order : Order := { fields, ownDirection := direction }
    order.keys r = .error .noColumn ∧ (order.resolved r).keys .plain = .ok [] := by
  intro order
  have hresolved : order.resolved r = { order with fields := [] } := by
    rw [resolved, h]
  constructor
  · have hkeys : order.keys r = order.fieldKeys r := by
      show (if !fields.isEmpty then order.fieldKeys r else .ok []) = order.fieldKeys r
      rw [List.isEmpty_eq_false_iff.mpr hfields]
      rfl
    have hcolumns : r.columns order.fields = .error .noColumn := by
      rw [Resolver.columns, h]
    rw [hkeys, fieldKeys, hcolumns]
    rfl
  · rw [hresolved]
    rfl

end Order

/-- A filter, and an order whose fields are none or have a column, is written alike where its
fields have given way to their columns ahead. -/
theorem resolved_ahead_renders_alike (resolver : Resolver) (mode : BindMode) :
    (∀ f : Filter, Expression.render (f.resolved resolver) ⟨.mysql, .plain⟩ mode =
      Expression.render f ⟨.mysql, resolver⟩ mode) ∧
    ∀ order : Order, order.HasColumns resolver →
      Expression.render (order.resolved resolver) ⟨.mysql, .plain⟩ mode =
        Expression.render order ⟨.mysql, resolver⟩ mode := by
  constructor
  · intro f
    have htemplate : Templated.template ⟨.mysql, .plain⟩ (f.resolved resolver) =
        Templated.template ⟨.mysql, resolver⟩ f :=
      congrArg (Functor.map _) f.meaning_resolved
    rw [Expression.render_eq, Expression.render_eq, htemplate]
  · intro order h
    have htemplate : Templated.template ⟨.mysql, .plain⟩ (order.resolved resolver) =
        Templated.template ⟨.mysql, resolver⟩ order :=
      congrArg (Functor.map _) (Order.keys_resolved h)
    rw [Expression.render_eq, Expression.render_eq, htemplate]

/-- A field with two columns: the function and the values stand at each of them. -/
theorem resolved_ahead_renders_alike_of_two_columns :
    let t : Identifier := ⟨"t", by decide⟩
    let title : FieldName := ⟨none, ⟨"title", by decide⟩⟩
    let english : FieldName := ⟨some t, ⟨"title_en", by decide⟩⟩
    let german : FieldName := ⟨some t, ⟨"title_de", by decide⟩⟩
    let resolver : Resolver := .map [(title, [english, german])] .plain
    let p : Predicate :=
      { fields := [title], operator := .eq, function := some .lower,
        comparand := some (.single (.text "x")) }
    let order : Order := { fields := [title], values := [.integer 2, .integer 1] }
    order.HasColumns resolver ∧
      Expression.render (Filter.ofPredicate { p with fields := [english, german] })
          ⟨.mysql, .plain⟩ .parameterized =
        .ok ⟨"(LOWER(t.title_en) = ? OR LOWER(t.title_de) = ?)", [.text "x", .text "x"]⟩ ∧
      Expression.render { order with fields := [english, german] } ⟨.mysql, .plain⟩
          .parameterized =
        .ok ⟨"FIELD(t.title_en, ?,?), FIELD(t.title_de, ?,?)",
          [.integer 2, .integer 1, .integer 2, .integer 1]⟩ := by
  intro t title english german resolver p order
  have hcolumns : order.HasColumns resolver := .inr (List.cons_ne_nil english [german])
  obtain ⟨hfilter, horder⟩ := resolved_ahead_renders_alike resolver .parameterized
  exact ⟨hcolumns, hfilter (.ofPredicate p), horder order hcolumns⟩

end Criteria
