/-
# `Criteria.Proofs.Spreading` — several fields are one group of comparisons

## What is proved

A predicate compares each of its columns in the same way, and one of the
comparisons has to hold.  The same can be said by a group of predicates with
one field each.  Where every field has one column, the two compile alike: the
same text, the same parameters, or the same error, by themselves and at any
place of any filter, however the groups around them are joined and negated
(`predicate_compiles_as_group_of_fields`).

## Where it ends

A predicate puts the columns of all its fields into one junction.  In the group
a field of several columns is a junction of its own, in parentheses; and a field
without columns, which a predicate passes over, is an error there.

## What carries it

The tests of a predicate are found column by column, and fail at the first
column that cannot be tested.  The members of a group are found filter by
filter, and fail at the first of those.  With one column for each field both
go through the same tests in the same sequence
(`Predicate.mapM_condition_eachField`), and what is put together from them is
the same junction.  Around it nothing but its meaning counts.
-/
import Criteria.Proofs.Rewriting

namespace Criteria

open Outcome Relation

variable {r : Resolver} {p : Predicate}

/-! ## The conditions of single fields -/

namespace Predicate

/-- A field with one column means the test of that column. -/
theorem condition_of_column {field column : FieldName} (h : r.resolve field = [column]) :
    ({ p with fields := [field] } : Predicate).condition r = .test <$> p.test column := by
  have hcolumns : r.columns [field] = .ok [column] := by
    rw [Resolver.columns, List.flatMap_singleton, h]
  show (r.columns [field] >>= fun columns =>
    columns.mapM p.test >>= fun tests => .ok (Condition.join .or (tests.map .test))) = _
  rw [hcolumns, ok_bind, List.mapM_cons, List.mapM_nil]
  cases p.test column <;> rfl

/-- The conditions of fields with one column each are the tests of all their columns. -/
theorem mapM_condition_eachField {fields : List FieldName}
    (h : ∀ field ∈ fields, ∃ column, r.resolve field = [column]) :
    (fields.mapM fun field => ({ p with fields := [field] } : Predicate).condition r) =
      List.map .test <$> (fields.flatMap r.resolve).mapM p.test := by
  induction fields with
  | nil => rfl
  | cons field rest ih =>
      obtain ⟨⟨column, hcolumn⟩, hrest⟩ := List.forall_mem_cons.mp h
      rw [List.flatMap_cons, hcolumn, List.singleton_append, List.mapM_cons, List.mapM_cons,
        condition_of_column hcolumn, ih hrest]
      cases p.test column with
      | error e => rfl
      | ok test => cases (rest.flatMap r.resolve).mapM p.test <;> rfl

/-- Fields with one column each have their columns together, and there are as many. -/
theorem columns_of_single (hne : p.fields ≠ [])
    (h : ∀ field ∈ p.fields, ∃ column, r.resolve field = [column]) :
    r.columns p.fields = .ok (p.fields.flatMap r.resolve) ∧ p.fields.flatMap r.resolve ≠ [] := by
  have hcolumns : p.fields.flatMap r.resolve ≠ [] := by
    obtain ⟨field, hfield⟩ := List.exists_mem_of_ne_nil p.fields hne
    obtain ⟨column, hcolumn⟩ := h field hfield
    have hmem : column ∈ r.resolve field := by
      rw [hcolumn]
      exact List.mem_singleton_self column
    exact List.ne_nil_of_mem (List.mem_flatMap.mpr ⟨field, hfield, hmem⟩)
  exact ⟨Resolver.columns_eq_ok.mpr ⟨rfl, hcolumns⟩, hcolumns⟩

end Predicate

namespace Filter

/-! ## The group of the comparisons -/

/-- The members of the group mean what the conditions of their fields are, whatever columns these
have. -/
theorem meanings_eachField (fields : List FieldName) :
    meanings r (fields.map fun field => ofPredicate { p with fields := [field] }) =
      fields.mapM fun field => ({ p with fields := [field] } : Predicate).condition r := by
  induction fields with
  | nil => rfl
  | cons field rest ih =>
      rw [List.map_cons, List.mapM_cons, meanings, ih]
      show (some <$> ({ p with fields := [field] } : Predicate).condition r >>=
        fun first => _) = _
      cases ({ p with fields := [field] } : Predicate).condition r with
      | error e => rfl
      | ok c =>
          cases rest.mapM fun field => ({ p with fields := [field] } : Predicate).condition r <;> rfl

/-- A predicate on fields with one column each means what the group of its comparisons means. -/
theorem meaning_eachField (hne : p.fields ≠ [])
    (h : ∀ field ∈ p.fields, ∃ column, r.resolve field = [column]) :
    (eachField p).meaning r = (ofPredicate p).meaning r := by
  obtain ⟨hcolumns, hsome⟩ := Predicate.columns_of_single hne h
  have hgroup : (eachField p).meaning r =
      (meanings r (p.fields.map fun field => ofPredicate { p with fields := [field] }) >>=
        fun cs => .ok (meaningOfGroup .or false cs)) := rfl
  have hpredicate : (ofPredicate p).meaning r = some <$> (r.columns p.fields >>= fun columns =>
      columns.mapM p.test >>= fun tests => .ok (Condition.join .or (tests.map .test))) := rfl
  rw [hgroup, hpredicate, meanings_eachField, Predicate.mapM_condition_eachField h, hcolumns,
    ok_bind]
  cases htests : (p.fields.flatMap r.resolve).mapM p.test with
  | error e => rfl
  | ok tests =>
      -- A group of nothing means nothing, and so the tests have to be some.
      have hne : tests ≠ [] := by
        rintro rfl
        exact hsome (List.map_eq_nil_iff.mp (mapM_eq_ok.mp htests))
      obtain ⟨test, rest, rfl⟩ := List.exists_cons_of_ne_nil hne
      rfl

theorem meaning_of_spreads {f g : Filter} (h : Spreads r f g) : g.meaning r = f.meaning r := by
  cases h with
  | fields p hne hone => exact meaning_eachField hne hone

/-- A predicate on fields with one column each compiles as the group of its comparisons does, by
itself, and where any number of predicates give way to such groups in a filter. -/
theorem predicate_compiles_as_group_of_fields (w : Writer) :
    (∀ p : Predicate, p.fields ≠ [] →
      (∀ field ∈ p.fields, ∃ column, w.context.resolver.resolve field = [column]) →
      (eachField p).compile w = (ofPredicate p).compile w) ∧
    ∀ f g, ReflTransGen (Rewrites (Spreads w.context.resolver)) f g →
      g.compile w = f.compile w := by
  constructor
  · intro p hne hone
    exact compile_congr (meaning_eachField hne hone)
  · intro f g h
    exact compile_congr (meaning_of_run meaning_of_spreads h)

/-- Two predicates on two fields each, one of them alone in a negated group; the list of the other
is empty, so that nothing is in it. -/
theorem predicate_compiles_as_group_of_fields_in_negated_group :
    let a : FieldName := ⟨none, ⟨"a", by decide⟩⟩
    let b : FieldName := ⟨none, ⟨"b", by decide⟩⟩
    let p : Predicate :=
      { fields := [a, b], operator := .like, function := some .lower
        comparand := some (.single (.text "x%")) }
    let q : Predicate := { fields := [a, b], operator := .among, comparand := some (.list []) }
    let w : Writer := .start ⟨.mysql, .qualifying ⟨"t", by decide⟩⟩ .parameterized
    let f : Filter := .group true .and false [.group true .and true [ofPredicate p], ofPredicate q]
    let g : Filter := .group true .and false [.group true .and true [eachField p], eachField q]
    p.fields ≠ [] ∧
      (∀ field ∈ p.fields, ∃ column, w.context.resolver.resolve field = [column]) ∧
      (eachField p).compile w = (ofPredicate p).compile w ∧
      ReflTransGen (Rewrites (Spreads w.context.resolver)) f g ∧ g.compile w = f.compile w ∧
      f.compile w = .ok ("(NOT (LOWER(t.a) LIKE ? OR LOWER(t.b) LIKE ?) AND (1=0 OR 1=0))",
        w.bind [.text "x%", .text "x%"]) := by
  intro a b p q w f g
  have hone : ∀ field ∈ [a, b], ∃ column, w.context.resolver.resolve field = [column] :=
    List.forall_mem_cons.mpr ⟨⟨_, rfl⟩, List.forall_mem_singleton.mpr ⟨_, rfl⟩⟩
  have hp : Spreads w.context.resolver (ofPredicate p) (eachField p) :=
    .fields p (List.cons_ne_nil a [b]) hone
  have hq : Spreads w.context.resolver (ofPredicate q) (eachField q) :=
    .fields q (List.cons_ne_nil a [b]) hone
  have hfirst : Rewrites (Spreads w.context.resolver) f
      (.group true .and false [.group true .and true [eachField p], ofPredicate q]) :=
    .inside true .and false [] [ofPredicate q] (.inside true .and true [] [] (.here hp))
  have hsecond : Rewrites (Spreads w.context.resolver)
      (.group true .and false [.group true .and true [eachField p], ofPredicate q]) g :=
    .inside true .and false [.group true .and true [eachField p]] [] (.here hq)
  have hrun : ReflTransGen (Rewrites (Spreads w.context.resolver)) f g :=
    (ReflTransGen.single hfirst).tail hsecond
  obtain ⟨t, htemplate, hsql, hvalues⟩ : ∃ t, f.template w.context = .ok t ∧
      t.sql .parameterized = "(NOT (LOWER(t.a) LIKE ? OR LOWER(t.b) LIKE ?) AND (1=0 OR 1=0))" ∧
      t.values = [.text "x%", .text "x%"] := ⟨_, rfl, by decide +kernel, rfl⟩
  have hcompiled : f.compile w = .ok (t.sql .parameterized, w.bind t.values) := by
    rw [compile_eq, htemplate, map_ok, Writer.write_eq]
    rfl
  obtain ⟨halone, hplaced⟩ := predicate_compiles_as_group_of_fields w
  exact ⟨List.cons_ne_nil a [b], hone, halone p (List.cons_ne_nil a [b]) hone, hrun,
    hplaced f g hrun, hsql ▸ hvalues ▸ hcompiled⟩

end Filter

end Criteria
