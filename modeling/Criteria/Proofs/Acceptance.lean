/-
# `Criteria.Proofs.Acceptance` — a document is read exactly when it is one

## What is proved

For every JSON value, reading it as a query document succeeds exactly when it
belongs to the grammar of `Criteria.Input.Grammar`:

    (∃ input, QueryInput.ofJson v = .ok input)  ↔  Grammar.Query v

## How the two sides meet

A reader goes through the fields of an object once, marks the fields that it
has seen, and puts one value after the other into a record that it builds; the
grammar knows neither an order nor a record.  What joins them is that a field
accepts or refuses a value whatever the record holds so far.  So one lemma
about layouts (`Layout.Faithful.succeeds_readFields`) serves all four kinds of
records: an object is read where no two of its keys name one field, and every
field accepts its value.  For lists there is its counterpart
(`Layout.succeeds_ofList`), which only a whole document makes use of.

A filter is the one record that holds others of its kind, in the list of its
filters, so entries are treated by induction on the value
(`FilterInput.succeeds_readEntry`).  The layout of a filter then has one row
that speaks of the reader itself, and `FilterInput.accepts_rows_iff` takes it
apart: a list is there, and its items are read.
-/
import Criteria.Input.Grammar
import Criteria.Input.Query
import Criteria.Proofs.Outcome

namespace Criteria

open Outcome Grammar

/-! ## Values -/

namespace Json

variable (v : Json)

theorem succeeds_optional {α : Type} {read : Json → Except InputError α} {kind : Json → Prop}
    (h : ∀ v, Succeeds (read v) ↔ kind v) : Succeeds (v.optional read) ↔ OrNull kind v := by
  cases v <;> simp [optional, OrNull, h]

theorem succeeds_readBool : Succeeds v.readBool ↔ IsBool v := by
  cases v <;> simp [readBool, IsBool]

theorem succeeds_readString : Succeeds v.readString ↔ IsString v := by
  cases v <;> simp [readString, IsString]

theorem succeeds_readList : Succeeds v.readList ↔ IsListOf IsAny v := by
  cases v <;> simp [readList, IsListOf, IsAny]

theorem succeeds_readWord : Succeeds v.readWord ↔ IsWord v := by
  cases v with
  | integer n =>
      have hgreatest := n.lt_greatest
      by_cases hn : n.value < 0
      · have hneg : ¬0 ≤ n.value := by omega
        simp [readWord, IsWord, WideInt.toUInt64?, hn, hneg]
      · have hword : 0 ≤ n.value ∧ n.value < 18446744073709551616 := by omega
        simpa [readWord, IsWord, WideInt.toUInt64?, hn] using hword
  | _ => simp [readWord, IsWord]

end Json

namespace OneOrMany

theorem mapM_text?_eq_some {items : List Json} {texts : List String} :
    items.mapM text? = some texts ↔ items = texts.map .string := by
  induction items generalizing texts with
  | nil => simp [eq_comm]
  | cons item rest ih =>
      cases item with
      | string text =>
          cases texts with
          | nil => simp [text?, Option.bind_eq_some_iff]
          | cons head tail =>
              simp only [List.mapM_cons, text?, Option.bind_eq_bind, Option.bind_some,
                Option.bind_eq_some_iff, Option.pure_def, Option.some.injEq, List.cons.injEq,
                List.map_cons, Json.string.injEq, ← ih]
              grind
      | _ => cases texts <;> simp [text?]

theorem succeeds_ofJson (v : Json) : Succeeds (ofJson v) ↔ IsNames v := by
  cases v with
  | list items =>
      simp only [ofJson, IsNames, IsString, ← mapM_text?_eq_some, reduceCtorEq, exists_false,
        false_or, Json.list.injEq]
      cases items.mapM text? <;> simp
  | _ => simp [ofJson, IsNames, IsString]

end OneOrMany

/-! ## Records -/

namespace Layout

variable {φ ρ : Type} (layout : Layout φ)

/-- All spellings of a field. -/
def names (field : φ) : List String :=
  (layout.spellings field).1 :: (layout.spellings field).2

/-- The rows of a record whose fields accept values. -/
def rows (accepts : φ → Json → Prop) : List Row :=
  layout.fields.map fun field => ⟨layout.names field, accepts field⟩

/-- The fields that the keys of an object name. -/
def named (fields : List (String × Json)) : List φ :=
  fields.filterMap fun field => layout.field? field.1

/-- Each field is in the layout, and is what any of its spellings names. -/
structure Faithful : Prop where
  mem_fields : ∀ field, field ∈ layout.fields
  field?_of_mem : ∀ field, ∀ key ∈ layout.names field, layout.field? key = some field

variable {layout} {accepts : φ → Json → Prop} {put : φ → Json → ρ → Except InputError ρ}

theorem named_cons_of_none {key : String} {v : Json} {rest : List (String × Json)}
    (h : layout.field? key = none) : layout.named ((key, v) :: rest) = layout.named rest := by
  simp [named, h]

theorem named_cons_of_some {key : String} {v : Json} {rest : List (String × Json)} {field : φ}
    (h : layout.field? key = some field) :
    layout.named ((key, v) :: rest) = field :: layout.named rest := by
  simp [named, h]

theorem Faithful.field?_eq_some_iff (h : layout.Faithful) {key : String} {field : φ} :
    layout.field? key = some field ↔ key ∈ layout.names field := by
  refine ⟨fun hkey => ?_, h.field?_of_mem field key⟩
  have hfound := List.find?_some hkey
  simpa [names] using hfound

/-- An object is unambiguous where its keys name different fields. -/
theorem Faithful.unambiguous_iff (h : layout.Faithful) (fields : List (String × Json)) :
    Unambiguous (layout.rows accepts) fields ↔ (layout.named fields).Nodup := by
  rw [named, List.Nodup, List.pairwise_filterMap]
  refine List.Pairwise.iff fun a b => ?_
  simp only [h.field?_eq_some_iff, rows, List.forall_mem_map]
  constructor
  · rintro hab f hf g hg rfl
    exact hab f (h.mem_fields f) ⟨hf, hg⟩
  · rintro hab f - ⟨ha, hb⟩
    exact hab f ha f hb rfl

theorem succeeds_readItems (hput : ∀ field v value, Succeeds (put field v value) ↔ accepts field v)
    (fields : List φ) : ∀ (items : List Json) value,
      Succeeds (readItems put value fields items) ↔
        ∀ pair ∈ fields.zip items, accepts pair.1 pair.2 := by
  induction fields with
  | nil => simp [readItems]
  | cons field rest ih =>
      intro items value
      cases items with
      | nil => simp [readItems]
      | cons item items =>
          simp only [readItems, succeeds_bind, ih, exists_and_right, List.zip_cons_cons,
            List.forall_mem_cons, ← hput field item value]
          rfl

/-- A list is read as a record where it is a tuple of the fields. -/
theorem succeeds_ofList (hput : ∀ field v value, Succeeds (put field v value) ↔ accepts field v)
    (items : List Json) (value : ρ) :
    Succeeds (layout.ofList put value items) ↔ IsTuple (layout.rows accepts) (.list items) := by
  have hitems := succeeds_readItems hput layout.fields items value
  by_cases hlength : items.length ≤ layout.fields.length
  · simp only [IsTuple, rows, Json.list.injEq, exists_eq_left', List.length_map, hlength, true_and,
      List.zip_map_left, List.forall_mem_map, Prod.map_fst, Prod.map_snd, id, ← hitems]
    simpa [ofList, Nat.not_lt.mpr hlength] using succeeds_bind_ok id
  · simp [ofList, succeeds_bind, IsTuple, rows, hlength, Nat.not_le.mp hlength]

variable [DecidableEq φ]

theorem succeeds_readFields (hput : ∀ field v value, Succeeds (put field v value) ↔ accepts field v)
    (fields : List (String × Json)) : ∀ given value,
      Succeeds (layout.readFields put given value fields) ↔
        ((layout.named fields).Nodup ∧ ∀ field ∈ layout.named fields, field ∉ given) ∧
          ∀ f ∈ fields, ∀ field, layout.field? f.1 = some field → accepts field f.2 := by
  induction fields with
  | nil => simp [readFields, named]
  | cons f rest ih =>
      intro given value
      obtain ⟨key, v⟩ := f
      cases hkey : layout.field? key with
      | none => simp [readFields, named, hkey, ih]
      | some field =>
          have hnamed : layout.named ((key, v) :: rest) = field :: layout.named rest :=
            named_cons_of_some hkey
          by_cases hgiven : field ∈ given
          · simp [readFields, hkey, claim, hgiven, hnamed]
          · have hstep : Succeeds (layout.readFields put given value ((key, v) :: rest)) ↔
                accepts field v ∧ ((layout.named rest).Nodup ∧
                  ∀ g ∈ layout.named rest, g ∉ field :: given) ∧
                  ∀ f ∈ rest, ∀ field, layout.field? f.1 = some field → accepts field f.2 := by
              simp only [readFields, hkey, claim, hgiven, if_false, ok_bind, succeeds_bind, ih,
                exists_and_right, ← hput field v value]
              rfl
            rw [hstep, hnamed]
            simp only [List.forall_mem_cons, List.nodup_cons, hkey, Option.some.injEq, forall_eq']
            constructor
            · rintro ⟨hv, ⟨hnodup, hnew⟩, hrest⟩
              exact ⟨⟨⟨fun hmem => hnew _ hmem List.mem_cons_self, hnodup⟩, hgiven,
                fun g hg hmem => hnew g hg (List.mem_cons_of_mem _ hmem)⟩, hv, hrest⟩
            · rintro ⟨⟨⟨hmem, hnodup⟩, -, hnew⟩, hv, hrest⟩
              refine ⟨hv, ⟨hnodup, fun g hg hmem' => ?_⟩, hrest⟩
              rcases List.mem_cons.mp hmem' with rfl | hmem'
              · exact hmem hg
              · exact hnew g hg hmem'

/-- An object is read as a record where it is one of the rows. -/
theorem Faithful.succeeds_readFields (h : layout.Faithful)
    (hput : ∀ field v value, Succeeds (put field v value) ↔ accepts field v)
    (fields : List (String × Json)) (value : ρ) :
    Succeeds (layout.readFields put [] value fields) ↔
      IsRecord (layout.rows accepts) (.object fields) := by
  rw [Layout.succeeds_readFields hput]
  simp only [IsRecord, Json.object.injEq, exists_eq_left', h.unambiguous_iff, List.not_mem_nil,
    not_false_eq_true, implies_true, and_true]
  simp only [h.field?_eq_some_iff, rows, List.forall_mem_map, h.mem_fields, true_imp_iff]

end Layout

/-! ## Filters -/

namespace FilterInput

theorem layout_faithful : layout.Faithful where
  mem_fields field := by cases field <;> decide
  field?_of_mem field := by cases field <;> decide

/-- What a field of a filter accepts. -/
def accepts : Field → Json → Prop
  | .active, v => OrNull IsBool v
  | .condition, v | .operator, v | .func, v | .operand, v => OrNull IsString v
  | .filters, v => Succeeds (readEntries v)
  | .property, v => OrNull IsNames v
  | .value, v => IsAny v

theorem succeeds_put (field : Field) (v : Json) (input : FilterInput) :
    Succeeds (put (readEntries v) field v input) ↔ accepts field v := by
  have hvalue : Succeeds (v.optional .ok) := by cases v <;> simp [Json.optional]
  cases field <;> simp [put, accepts, v.succeeds_optional Json.succeeds_readBool,
    v.succeeds_optional Json.succeeds_readString,
    v.succeeds_optional OneOrMany.succeeds_ofJson, hvalue, IsAny]

theorem readFields_eq (fields : List (String × Json)) : ∀ given input,
    readFields given input fields =
      layout.readFields (fun field v => put (readEntries v) field v) given input fields := by
  induction fields with
  | nil => intro given input; rfl
  | cons f rest ih =>
      intro given input
      obtain ⟨key, v⟩ := f
      simp only [readFields, Layout.readFields, ih]
      cases layout.field? key <;> rfl

theorem succeeds_readItems {items : List Json} :
    Succeeds (readItems items) ↔ ∀ item ∈ items, Succeeds (readEntry item) := by
  induction items with
  | nil => simp [readItems]
  | cons item rest ih =>
      rw [readItems, List.forall_mem_cons, ← ih]
      cases readEntry item <;> simp

theorem succeeds_readEntries {v : Json} :
    Succeeds (readEntries v) ↔ IsListOf (fun item => Succeeds (readEntry item)) v := by
  cases v <;> simp [readEntries, IsListOf, succeeds_readItems]

/-- A field accepts what its row says, and of a list of filters the items besides. -/
theorem accepts_rows_iff {key : String} {v : Json} :
    (∀ row ∈ layout.rows accepts, key ∈ row.spellings → row.kind v) ↔
      (∀ row ∈ filterRows, key ∈ row.spellings → row.kind v) ∧
        (key = "filters" → ∀ items, v = .list items →
          ∀ item ∈ items, Succeeds (readEntry item)) := by
  have hentries : Succeeds (readEntries v) ↔ IsListOf IsAny v ∧
      ∀ items, v = .list items → ∀ item ∈ items, Succeeds (readEntry item) := by
    cases v <;> simp [succeeds_readEntries, IsListOf, IsAny]
  simp only [Layout.rows, layout, List.map_cons, List.map_nil, filterRows, List.forall_mem_cons,
    Layout.names, spellings, accepts, hentries]
  grind

/-- An object is read as an entry where it is a record, and the items of its list of filters are
read. -/
theorem succeeds_readEntry_object {fields : List (String × Json)} :
    Succeeds (readEntry (.object fields)) ↔ IsRecord filterRows (.object fields) ∧
      ∀ items, ("filters", .list items) ∈ fields → ∀ item ∈ items, Succeeds (readEntry item) := by
  rw [readEntry, succeeds_map, readFields_eq, layout_faithful.succeeds_readFields succeeds_put]
  have hspellings : Unambiguous (layout.rows accepts) fields ↔ Unambiguous filterRows fields := by
    simp [Unambiguous, Layout.rows, layout, Layout.names, spellings, filterRows]
  simp only [IsRecord, Json.object.injEq, exists_eq_left', hspellings, accepts_rows_iff]
  constructor
  · rintro ⟨hunique, hfields⟩
    exact ⟨⟨hunique, fun f hf => (hfields f hf).1⟩,
      fun items hitems => (hfields _ hitems).2 rfl items rfl⟩
  · rintro ⟨⟨hunique, hfields⟩, hitems⟩
    refine ⟨hunique, fun f hf => ⟨hfields f hf, ?_⟩⟩
    rintro hkey items hlist
    exact hitems items (by rw [← hkey, ← hlist]; exact hf)

/-- An entry of a list of filters is read exactly when it is one. -/
theorem succeeds_readEntry : ∀ v : Json, Succeeds (readEntry v) ↔ Entry v
  | .string sql => by simp [readEntry, Entry.text]
  | .object fields => by
      have ih : ∀ items, ("filters", .list items) ∈ fields → ∀ item ∈ items,
          (Succeeds (readEntry item) ↔ Entry item) :=
        fun items hlist item hitem => succeeds_readEntry item
      rw [succeeds_readEntry_object]
      constructor
      · rintro ⟨hrecord, hitems⟩
        exact .filter hrecord fun items hlist item hitem =>
          (ih items hlist item hitem).mp (hitems items hlist item hitem)
      · rintro (_ | ⟨hrecord, hitems⟩)
        exact ⟨hrecord, fun items hlist item hitem =>
          (ih items hlist item hitem).mpr (hitems items hlist item hitem)⟩
  | .null | .bool _ | .integer _ | .float _ | .list _ => by
      simp only [readEntry, not_succeeds_error, false_iff]
      rintro ⟨⟩
termination_by v => sizeOf v
decreasing_by
  have hsizeItem := List.sizeOf_lt_of_mem hitem
  have hsizeItems := List.sizeOf_lt_of_mem hlist
  simp only [Prod.mk.sizeOf_spec, Json.list.sizeOf_spec] at hsizeItems
  simp only [Json.object.sizeOf_spec]
  omega

/-- The filter of a document: a list is a list of entries, and never a filter. -/
theorem succeeds_ofSection (v : Json) : Succeeds (ofSection v) ↔ FilterSection v := by
  cases v with
  | list items =>
      simp [ofSection, FilterSection, IsListOf, Grammar.Filter, succeeds_readItems,
        succeeds_readEntry]
  | object fields =>
      have hentry := succeeds_readEntry (.object fields)
      simp only [readEntry, succeeds_map] at hentry
      simp [ofSection, Json.readObject, FilterSection, IsListOf, Grammar.Filter, hentry]
  | _ => simp [ofSection, Json.readObject, FilterSection, IsListOf, Grammar.Filter]

end FilterInput

/-! ## Orders, pages and documents -/

namespace OrderInput

theorem layout_faithful : layout.Faithful where
  mem_fields field := by cases field <;> decide
  field?_of_mem field := by cases field <;> decide

/-- What a field of an order accepts. -/
def accepts : Field → Json → Prop
  | .active => OrNull IsBool
  | .condition | .mode | .direction => OrNull IsString
  | .property => OrNull IsNames
  | .values => IsListOf IsAny

theorem succeeds_put (field : Field) (v : Json) (input : OrderInput) :
    Succeeds (put field v input) ↔ accepts field v := by
  cases field <;> simp [put, accepts, v.succeeds_optional Json.succeeds_readBool,
    v.succeeds_optional Json.succeeds_readString,
    v.succeeds_optional OneOrMany.succeeds_ofJson, v.succeeds_readList]

theorem succeeds_ofObject (v : Json) : Succeeds (ofObject v) ↔ IsRecord orderRows v := by
  have hrows : layout.rows accepts = orderRows := rfl
  cases v with
  | object fields =>
      simp [ofObject, Json.readObject, layout_faithful.succeeds_readFields succeeds_put, hrows]
  | _ => simp [ofObject, Json.readObject, IsRecord]

theorem succeeds_ofSection (v : Json) : Succeeds (ofSection v) ↔ OrderSection v := by
  cases v with
  | list items =>
      simp [ofSection, OrderSection, IsListOf, IsRecord, succeeds_mapM, succeeds_ofObject]
  | _ => simp [ofSection, OrderSection, IsListOf, succeeds_ofObject]

end OrderInput

namespace PageInput

theorem layout_faithful : layout.Faithful where
  mem_fields field := by cases field <;> decide
  field?_of_mem field := by cases field <;> decide

/-- What a field of a page accepts. -/
def accepts : Field → Json → Prop
  | .active => OrNull IsBool
  | .number | .size => OrNull IsWord

theorem succeeds_put (field : Field) (v : Json) (input : PageInput) :
    Succeeds (put field v input) ↔ accepts field v := by
  cases field <;> simp [put, accepts, v.succeeds_optional Json.succeeds_readBool,
    v.succeeds_optional Json.succeeds_readWord]

theorem succeeds_ofSection (v : Json) : Succeeds (ofSection v) ↔ IsRecord pageRows v := by
  have hrows : layout.rows accepts = pageRows := rfl
  cases v with
  | object fields =>
      simp [ofSection, Json.readObject, layout_faithful.succeeds_readFields succeeds_put, hrows]
  | _ => simp [ofSection, Json.readObject, IsRecord]

end PageInput

namespace QueryInput

theorem layout_faithful : layout.Faithful where
  mem_fields field := by cases field <;> decide
  field?_of_mem field := by cases field <;> decide

/-- What a section of a document accepts. -/
def accepts : Field → Json → Prop
  | .filter => OrNull FilterSection
  | .order => OrNull OrderSection
  | .page => OrNull (IsRecord pageRows)

theorem succeeds_put (field : Field) (v : Json) (input : QueryInput) :
    Succeeds (put field v input) ↔ accepts field v := by
  cases field <;> simp [put, accepts, v.succeeds_optional FilterInput.succeeds_ofSection,
    v.succeeds_optional OrderInput.succeeds_ofSection,
    v.succeeds_optional PageInput.succeeds_ofSection]

/-- A document is read exactly when it belongs to the grammar. -/
theorem exists_ofJson_iff_grammar (v : Json) :
    (∃ input, ofJson v = .ok input) ↔ Grammar.Query v := by
  have hrows : layout.rows accepts = queryRows := rfl
  change Succeeds (ofJson v) ↔ Grammar.Query v
  cases v with
  | object fields =>
      have hread : Succeeds (layout.readFields put [] {} fields) ↔ _ :=
        layout_faithful.succeeds_readFields succeeds_put fields {}
      rw [hrows] at hread
      simpa [ofJson, Layout.read, Query, IsTuple] using hread
  | list items =>
      have hread : Succeeds (layout.ofList put {} items) ↔ _ :=
        Layout.succeeds_ofList succeeds_put items {}
      rw [hrows] at hread
      simpa [ofJson, Layout.read, Query, IsRecord] using hread
  | _ => simp [ofJson, Layout.read, Layout.refuse, Query, IsRecord, IsTuple]

end QueryInput

end Criteria
