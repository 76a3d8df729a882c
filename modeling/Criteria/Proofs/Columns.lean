/-
# `Criteria.Proofs.Columns` — columns go into a query as names

## What is proved

Columns stand in a query without quotes.  Whatever steps a resolver is made in,
the columns that it has for a field are the texts that the steps say, in their
order, and each of them is the name of a field; so each part of each column
that a writer puts into a query is a word of at most 63 bytes that is not
reserved.

## Why nothing is checked again

An alias and a field without a table make a new text, `alias.field`, that is
not looked at before it is used.  It is a name because each of its two parts is
a word already: a name is kept as its identifiers and not as a text, and the
identifiers carry that they break no rule.  What is left to show is that the
texts are those of the plan.  The invariant of the steps of a map is about its
entries: the first one for a field is the last one that was added
(`Resolver.lookup_insertTexts`).
-/
import Criteria.Proofs.Names
import Criteria.Proofs.Reading
import Criteria.ResolverPlan

namespace Criteria

open Outcome

namespace FieldName

theorem point_mem_text_iff {field : FieldName} :
    '.' ∈ field.text.toList ↔ field.isQualified := by
  obtain ⟨qualifier, name⟩ := field
  cases qualifier with
  | none =>
      have hname : '.' ∉ name.text.toList := fun h =>
        absurd (Identifier.isPart_of_mem h) (by decide)
      simpa [text, isQualified] using hname
  | some qualifier => simp [text, isQualified]

theorem text_inj {a b : FieldName} : a.text = b.text ↔ a = b := by
  constructor
  · intro h
    have hread : ofText a.text = .ok b := ofText_eq_ok.mpr h.symm
    exact Except.ok.inj ((ofText_text a).symm.trans hread)
  · rintro rfl
    rfl

end FieldName

namespace Resolver

/-- The resolver for an alias is made of the identifier that the alias is. -/
theorem ofAlias_eq_ok {table : String} {resolver : Resolver} :
    ofAlias table = .ok resolver ↔
      ∃ id : Identifier, id.text = table ∧ resolver = .qualifying id := by
  constructor
  · intro h
    obtain ⟨field, hfield, h⟩ := bind_eq_ok.mp h
    obtain ⟨qualifier, name⟩ := field
    cases qualifier with
    | none =>
        obtain rfl := Except.ok.inj h
        exact ⟨name, FieldName.ofText_eq_ok.mp hfield, rfl⟩
    | some qualifier => cases h
  · rintro ⟨id, rfl, rfl⟩
    have hread : FieldName.ofText id.text = .ok ⟨none, id⟩ := FieldName.ofText_text ⟨none, id⟩
    rw [ofAlias, hread]
    rfl

theorem text_of_mapM_ofText {texts : List String} {columns : List FieldName}
    (h : texts.mapM FieldName.ofText = .ok columns) : columns.map FieldName.text = texts := by
  have htexts : texts.map id = columns.map FieldName.text :=
    map_eq_map_of_map_eq_map (mapM_eq_ok.mp h) fun text _ column _ hread =>
      (FieldName.ofText_eq_ok.mp hread).symm
  rw [← htexts, List.map_id]

variable {entries : List (FieldName × List FieldName)} {fallback resolver : Resolver}

/-- A step puts the columns of its field in front of the entries of the map. -/
theorem insertTexts_eq_ok {name : String} {texts : List String}
    (h : (map entries fallback).insertTexts name texts = .ok resolver) :
    ∃ field columns, resolver = map ((field, columns) :: entries) fallback ∧
      field.text = name ∧ columns.map FieldName.text = texts := by
  obtain ⟨field, hfield, h⟩ := bind_eq_ok.mp h
  obtain ⟨columns, hcolumns, h⟩ := bind_eq_ok.mp h
  obtain rfl := Except.ok.inj h
  exact ⟨field, columns, rfl, FieldName.ofText_eq_ok.mp hfield, text_of_mapM_ofText hcolumns⟩

/-- Of the steps of a map the last one for a field counts, and the entries that were there before
count where there is none. -/
theorem lookup_insertTexts (calls : List (String × List String))
    (h : calls.foldlM (fun r call => r.insertTexts call.1 call.2) (map entries fallback) =
      .ok resolver) :
    ∃ entries', resolver = map entries' fallback ∧ ∀ field : FieldName,
      (entries'.lookup field).map (List.map FieldName.text) =
        (calls.reverse.lookup field.text).or
          ((entries.lookup field).map (List.map FieldName.text)) := by
  induction calls generalizing entries with
  | nil =>
      obtain rfl := Except.ok.inj h
      exact ⟨entries, rfl, fun field => rfl⟩
  | cons call rest ih =>
      obtain ⟨next, hnext, h⟩ := bind_eq_ok.mp h
      obtain ⟨name, columns, rfl, hname, hcolumns⟩ := insertTexts_eq_ok hnext
      obtain ⟨entries', rfl, hlookup⟩ := ih h
      refine ⟨entries', rfl, ?_⟩
      intro field
      rw [hlookup field, List.reverse_cons, List.lookup_append, Option.or_assoc]
      congr 1
      by_cases hfield : field = name
      · have htext : call = (field.text, call.2) := by rw [hfield, hname]
        rw [hfield, List.lookup_cons_self, ← hfield, htext, List.lookup_cons_self, hcolumns.symm]
        rfl
      · have htext : field.text ≠ call.1 := by
          rw [← hname]
          exact fun h => hfield (FieldName.text_inj.mp h)
        rw [List.lookup_cons, beq_eq_false_iff_ne.mpr hfield, List.lookup_cons,
          beq_eq_false_iff_ne.mpr htext]
        rfl

end Resolver

/-- The columns of a resolver are the texts that its plan says. -/
theorem ResolverPlan.resolve_build (plan : ResolverPlan) {resolver : Resolver}
    (h : plan.build = .ok resolver) (field : FieldName) :
    (resolver.resolve field).map FieldName.text = plan.columnTexts field.text := by
  induction plan generalizing resolver with
  | plain =>
      obtain rfl := Except.ok.inj h
      rfl
  | qualifying table =>
      obtain ⟨id, rfl, rfl⟩ := Resolver.ofAlias_eq_ok.mp h
      rw [Resolver.resolve, columnTexts]
      have hpoint : '.' ∈ field.text.toList ↔ field.isQualified := FieldName.point_mem_text_iff
      by_cases hqualified : field.isQualified
      · rw [if_pos hqualified, if_pos (hpoint.mpr hqualified)]
        rfl
      · have hnone : field.qualifier = none := by simpa [FieldName.isQualified] using hqualified
        have hname : field.text = field.name.text := by simp [FieldName.text, hnone]
        rw [if_neg hqualified, if_neg fun h => hqualified (hpoint.mp h), hname]
        rfl
  | map fallback calls ih =>
      obtain ⟨before, hbefore, h⟩ := bind_eq_ok.mp h
      obtain ⟨entries, rfl, hlookup⟩ := Resolver.lookup_insertTexts calls h
      have hlast : (entries.lookup field).map (List.map FieldName.text) =
          calls.reverse.lookup field.text := by simpa using hlookup field
      rw [Resolver.resolve, columnTexts, ← hlast]
      cases entries.lookup field with
      | none => exact ih hbefore
      | some columns => rfl

/-- The columns of a resolver are the texts of its plan, in their order, each of them the name of a
field; and each part of a column that a writer has is a word. -/
theorem columns_are_names (plan : ResolverPlan) (resolver : Resolver)
    (h : plan.build = .ok resolver) :
    (∀ field : FieldName,
      (resolver.resolve field).map FieldName.text = plan.columnTexts field.text ∧
        ∀ text ∈ plan.columnTexts field.text, ∃ column, FieldName.ofText text = .ok column) ∧
      ∀ (w : Writer) (fields columns : List FieldName), w.context.resolver = resolver →
        (w.columns fields = .ok columns ↔ columns ≠ [] ∧ columns.map FieldName.text =
          fields.flatMap fun field => plan.columnTexts field.text) ∧
        (w.columns fields = .ok columns → ∀ column ∈ columns,
          ∀ segment ∈ FieldName.segments column.text, Identifier.IsWord segment) := by
  have htexts := plan.resolve_build h
  constructor
  · intro field
    refine ⟨htexts field, ?_⟩
    rw [← htexts field]
    intro text htext
    obtain ⟨column, -, rfl⟩ := List.mem_map.mp htext
    exact ⟨column, FieldName.ofText_text column⟩
  · rintro w fields columns rfl
    constructor
    · have hall : (fields.flatMap w.context.resolver.resolve).map FieldName.text =
          fields.flatMap fun field => plan.columnTexts field.text := by
        rw [List.map_flatMap]
        exact List.flatMap_congr fun field _ => htexts field
      have hinj : Function.Injective (List.map FieldName.text) :=
        List.map_injective_iff.mpr fun a b hab => FieldName.text_inj.mp hab
      rw [Writer.columns, Resolver.columns_eq_ok, ← hall, hinj.eq_iff, and_comm, eq_comm]
    · intro _ column _
      exact (FieldName.exists_ofText_iff.mp ⟨column, FieldName.ofText_text column⟩).2

/-- Of two maps above an alias the outer one counts first, and of each the last columns of a field;
a field of no map gets the alias. -/
theorem columns_are_names_of_nested_maps :
    let plan : ResolverPlan :=
      .map (.map (.qualifying "p") [("title", ["title_en"]), ("title", ["p.title_de", "t._title"])])
        [("body", ["text"])]
    let title : FieldName := ⟨none, ⟨"title", by decide⟩⟩
    let slug : FieldName := ⟨none, ⟨"slug", by decide⟩⟩
    ∃ resolver, plan.build = .ok resolver ∧
      (resolver.resolve title).map FieldName.text = ["p.title_de", "t._title"] ∧
      (resolver.resolve slug).map FieldName.text = ["p.slug"] ∧
      ∃ column, FieldName.ofText "p.slug" = .ok column := by
  intro plan title slug
  obtain ⟨resolver, hbuild⟩ : ∃ resolver, plan.build = .ok resolver := ⟨_, rfl⟩
  obtain ⟨hcolumns, -⟩ := columns_are_names plan resolver hbuild
  have hslug : plan.columnTexts slug.text = ["p.slug"] := by decide
  refine ⟨resolver, hbuild, (hcolumns title).1.trans (by decide), ?_, ?_⟩
  · rw [(hcolumns slug).1, hslug]
  · exact (hcolumns slug).2 "p.slug" (by rw [hslug]; exact List.mem_singleton_self _)

end Criteria
