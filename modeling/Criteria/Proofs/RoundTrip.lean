/-
# `Criteria.Proofs.RoundTrip` — a description is read back from what is written of it

## What is proved

For the descriptions of queries, filters, entries of a group, orders and pages
alike: the value that is written of a description is read as that description,
and whatever a reader takes from any value is a description of which this
holds.  So reading a document, writing what was read and reading that again
gives what the first reading gave, in whatever spelling the document came,
and it compiles to what the document compiles to.

## The one exception

A description is written with all of its fields, and null where one is missing.
A value to compare with is itself any JSON value, so a description whose value
is null would be written like one without a value, and read without one.  No
reader makes such a description: a null under `value` counts as nothing there.
`FilterInput.Definite` says that no value is null, at any depth; it is the only
hypothesis, and the second half of the theorem discharges it.

## How it is proved

The fields of a record are written in the order of their keys, and each is put
back where it was; that is a computation.  What is nested is the list of
filters of a filter.  Written entries are read by induction on the description,
and what is read is definite by induction on the value that it is read from.
-/
import Criteria.Compiler
import Criteria.Proofs.Acceptance

namespace Criteria

open Outcome

/-- What is written of a thing of a kind is read as that thing, and all that is read is of the
kind. -/
structure RoundTrips {α : Type} (read : Json → Except InputError α) (write : α → Json)
    (kind : α → Prop) : Prop where
  read_write : ∀ a, kind a → read (write a) = .ok a
  kind_of_read : ∀ v a, read v = .ok a → kind a

theorem RoundTrips.reread {α : Type} {read : Json → Except InputError α} {write : α → Json}
    {kind : α → Prop} (h : RoundTrips read write kind) {v : Json} {a : α} (ha : read v = .ok a) :
    read (write a) = .ok a :=
  h.read_write a (h.kind_of_read v a ha)

/-! ## Values -/

namespace Json

/-- What may be missing is written as null when it is, and read back where what is there is. -/
theorem optional_elim {α : Type} {read : Json → Except InputError α} {write : α → Json}
    {value : Option α} (hread : ∀ a ∈ value, read (write a) = .ok a)
    (hnull : ∀ a, write a ≠ .null) : (value.elim .null write).optional read = .ok value := by
  cases value with
  | none => rfl
  | some a =>
      have hoptional : (write a).optional read = some <$> read (write a) := by
        cases h : write a with
        | null => exact absurd h (hnull a)
        | _ => rfl
      rw [Option.elim_some, hoptional, hread a rfl]
      rfl

theorem readBool_ofBool? (value : Option Bool) :
    (ofBool? value).optional readBool = .ok value := by
  have hread : ∀ b ∈ value, readBool (.bool b) = .ok b := fun _ _ => rfl
  exact optional_elim hread (by simp)

theorem readString_ofString? (text : Option String) :
    (ofString? text).optional readString = .ok text := by
  have hread : ∀ s ∈ text, readString (.string s) = .ok s := fun _ _ => rfl
  exact optional_elim hread (by simp)

theorem readWord_ofUInt64? (word : Option UInt64) :
    (ofUInt64? word).optional readWord = .ok word := by
  have hread : ∀ n ∈ word, readWord (.integer (.ofUInt64 n)) = .ok n := by
    intro n _
    have hsign : ¬(n.toNat : Int) < 0 := by omega
    simp [readWord, WideInt.ofUInt64, WideInt.toUInt64?, hsign]
  exact optional_elim hread (by simp)

/-- A value that is not null is told apart from none. -/
theorem optional_getD {value : Option Json} (h : value ≠ some .null) :
    (value.getD .null).optional .ok = (.ok value : Except InputError (Option Json)) := by
  cases value with
  | none => rfl
  | some v =>
      cases v with
      | null => exact absurd rfl h
      | _ => rfl

end Json

namespace OneOrMany

theorem ofJson_toJson (names : OneOrMany String) : ofJson (toJson .string names) = .ok names := by
  cases names with
  | one name => rfl
  | many names =>
      have hread : (names.map Json.string).mapM text? = some names := mapM_text?_eq_some.mpr rfl
      simp [toJson, ofJson, hread]

theorem toJson_ne_null {α : Type} {write : α → Json} (h : ∀ a, write a ≠ .null) :
    ∀ things : OneOrMany α, toJson write things ≠ .null
  | .one a => h a
  | .many _ => by simp [toJson]

theorem readNames_toJson (names : Option (OneOrMany String)) :
    (names.elim .null (toJson .string)).optional ofJson = .ok names :=
  Json.optional_elim (fun names _ => ofJson_toJson names) (toJson_ne_null (by simp))

end OneOrMany

/-! ## What records keep -/

namespace Layout

variable {φ ρ : Type} {layout : Layout φ} {put : φ → Json → ρ → Except InputError ρ}
  {P : ρ → Prop}

theorem readItems_keeps (hput : ∀ {field v r filled}, P r → put field v r = .ok filled → P filled)
    {fields : List φ} : ∀ {items : List Json} {r filled : ρ}, P r →
      readItems put r fields items = .ok filled → P filled := by
  induction fields with
  | nil =>
      intro items r filled hr h
      obtain rfl := Except.ok.inj h
      exact hr
  | cons field rest ih =>
      intro items r filled hr h
      cases items with
      | nil =>
          obtain rfl := Except.ok.inj h
          exact hr
      | cons item items =>
          obtain ⟨next, hnext, h⟩ := bind_eq_ok.mp h
          exact ih (hput hr hnext) h

variable [DecidableEq φ]

theorem readFields_keeps (hput : ∀ {field v r filled}, P r → put field v r = .ok filled → P filled)
    {fields : List (String × Json)} : ∀ {given : List φ} {r filled : ρ}, P r →
      layout.readFields put given r fields = .ok filled → P filled := by
  induction fields with
  | nil =>
      intro given r filled hr h
      obtain rfl := Except.ok.inj h
      exact hr
  | cons f rest ih =>
      intro given r filled hr h
      obtain ⟨key, v⟩ := f
      rw [readFields] at h
      split at h
      · exact ih hr h
      · obtain ⟨given', -, h⟩ := bind_eq_ok.mp h
        obtain ⟨next, hnext, h⟩ := bind_eq_ok.mp h
        exact ih (hput hr hnext) h

/-- What holds of a record with nothing in it and is kept by each value that is put into it holds of
every record that is read. -/
theorem read_keeps (hput : ∀ {field v r filled}, P r → put field v r = .ok filled → P filled)
    {r filled : ρ} (hr : P r) {v : Json} (h : layout.read put r v = .ok filled) : P filled := by
  cases v with
  | object fields => exact readFields_keeps hput hr h
  | list items =>
      obtain ⟨read, hread, h⟩ := bind_eq_ok.mp h
      split at h
      · exact absurd h (by simp)
      · obtain rfl := Except.ok.inj h
        exact readItems_keeps hput hr hread
  | _ => exact absurd h (by simp [read, refuse])

end Layout

/-! ## Filters -/

namespace FilterInput

mutual

/-- No value in the description of a filter is null, which is how a missing value is written. -/
def Definite : FilterInput → Prop
  | ⟨_, _, filters, _, value, _, _, _⟩ => value ≠ some .null ∧ EntriesDefinite filters

/-- No value in the descriptions of the members of a group is null. -/
def EntriesDefinite : List (FilterEntry FilterInput) → Prop
  | [] => True
  | entry :: rest => EntryDefinite entry ∧ EntriesDefinite rest

/-- No value in the description of a member is null. -/
def EntryDefinite : FilterEntry FilterInput → Prop
  | .nested input => Definite input
  | .fragment _ => True

end

/-- The fields that are written of a filter, in the order of their keys. -/
theorem toJson_eq (active : Option Bool) (condition : Option String)
    (filters : List (FilterEntry FilterInput)) (property : Option (OneOrMany String))
    (value : Option Json) (operator func operand : Option String) :
    toJson ⟨active, condition, filters, property, value, operator, func, operand⟩ =
      .object [("active", .ofBool? active), ("condition", .ofString? condition),
        ("filters", .list (entriesToJson filters)), ("func", .ofString? func),
        ("operand", .ofString? operand), ("operator", .ofString? operator),
        ("property", property.elim .null (OneOrMany.toJson .string)),
        ("value", value.getD .null)] :=
  rfl

theorem toJson_ne_null : ∀ input : FilterInput, input.toJson ≠ .null
  | ⟨active, condition, filters, property, value, operator, func, operand⟩ => by
      rw [toJson_eq]
      simp

mutual

/-- The fields that are written of a filter are read as that filter. -/
theorem readFields_toJson : ∀ input : FilterInput, input.Definite →
    ∃ fields, input.toJson = .object fields ∧ readFields [] {} fields = .ok input
  | ⟨active, condition, filters, property, value, operator, func, operand⟩, h => by
      obtain ⟨hvalue, hfilters⟩ := h
      have hentries : readItems (entriesToJson filters) = .ok filters :=
        readItems_entriesToJson filters hfilters
      refine ⟨_, toJson_eq active condition filters property value operator func operand, ?_⟩
      simp [readFields, layout, Layout.field?, Layout.claim, spellings, put, readEntries, hentries,
        Json.readBool_ofBool?, Json.readString_ofString?, OneOrMany.readNames_toJson,
        Json.optional_getD hvalue]

theorem readItems_entriesToJson : ∀ entries : List (FilterEntry FilterInput),
    EntriesDefinite entries → readItems (entriesToJson entries) = .ok entries
  | [], _ => rfl
  | entry :: rest, h => by
      rw [entriesToJson, readItems, readEntry_entryToJson entry h.1,
        readItems_entriesToJson rest h.2]
      rfl

theorem readEntry_entryToJson : ∀ entry : FilterEntry FilterInput, EntryDefinite entry →
    readEntry (entryToJson entry) = .ok entry
  | .nested input, h => by
      obtain ⟨fields, hfields, hread⟩ := readFields_toJson input h
      rw [entryToJson, hfields, readEntry, hread]
      rfl
  | .fragment _, _ => rfl

end

theorem definite_new : Definite {} :=
  ⟨by simp, trivial⟩

/-- A value that is put into a definite filter leaves it definite. -/
theorem definite_put {entries : Except InputError (List (FilterEntry FilterInput))}
    (hentries : ∀ es, entries = .ok es → EntriesDefinite es) {field : Field} {v : Json}
    {input filled : FilterInput} (hinput : input.Definite)
    (h : put entries field v input = .ok filled) : filled.Definite := by
  obtain ⟨active, condition, filters, property, value, operator, func, operand⟩ := input
  obtain ⟨hvalue, hfilters⟩ := hinput
  cases field with
  | filters =>
      obtain ⟨es, hes, rfl⟩ := map_eq_ok.mp h
      exact ⟨hvalue, hentries es hes⟩
  | value =>
      obtain ⟨value, hread, rfl⟩ := map_eq_ok.mp h
      refine ⟨?_, hfilters⟩
      rintro rfl
      cases v <;> simp [Json.optional] at hread
  | active | condition | property | operator | func | operand =>
      obtain ⟨-, -, rfl⟩ := map_eq_ok.mp h
      exact ⟨hvalue, hfilters⟩

mutual

theorem definite_of_readEntries : ∀ {v : Json} {es : List (FilterEntry FilterInput)},
    readEntries v = .ok es → EntriesDefinite es
  | .list items, es, h => by
      have hitems : readItems items = .ok es := h
      exact definite_of_readItems hitems
  | .null, _, h | .bool _, _, h | .integer _, _, h | .float _, _, h | .string _, _, h
  | .object _, _, h => by
      exact absurd h (by simp [readEntries])

theorem definite_of_readItems : ∀ {items : List Json} {es : List (FilterEntry FilterInput)},
    readItems items = .ok es → EntriesDefinite es
  | [], es, h => by
      obtain rfl := Except.ok.inj h
      trivial
  | item :: rest, es, h => by
      obtain ⟨first, hfirst, h⟩ := bind_eq_ok.mp h
      obtain ⟨others, hothers, h⟩ := bind_eq_ok.mp h
      obtain rfl := Except.ok.inj h
      exact ⟨definite_of_readEntry hfirst, definite_of_readItems hothers⟩

/-- An entry that is read is definite. -/
theorem definite_of_readEntry : ∀ {v : Json} {entry : FilterEntry FilterInput},
    readEntry v = .ok entry → EntryDefinite entry
  | .string sql, entry, h => by
      obtain rfl := Except.ok.inj h
      trivial
  | .object fields, entry, h => by
      obtain ⟨input, hinput, rfl⟩ := map_eq_ok.mp h
      exact definite_of_readFields definite_new hinput
  | .null, _, h | .bool _, _, h | .integer _, _, h | .float _, _, h | .list _, _, h => by
      exact absurd h (by simp [readEntry])

theorem definite_of_readFields : ∀ {fields : List (String × Json)} {given : List Field}
    {input filled : FilterInput}, input.Definite → readFields given input fields = .ok filled →
      filled.Definite
  | [], _, _, _, hinput, h => by
      obtain rfl := Except.ok.inj h
      exact hinput
  | (key, v) :: rest, given, input, filled, hinput, h => by
      rw [readFields] at h
      split at h
      · exact definite_of_readFields hinput h
      · obtain ⟨given', -, h⟩ := bind_eq_ok.mp h
        obtain ⟨input', hput, h⟩ := bind_eq_ok.mp h
        have hentries : ∀ es, readEntries v = .ok es → EntriesDefinite es :=
          fun es hes => definite_of_readEntries hes
        exact definite_of_readFields (definite_put hentries hinput hput) h

end

theorem definite_of_ofSection {v : Json} {input : FilterInput} (h : ofSection v = .ok input) :
    input.Definite := by
  cases v with
  | list items =>
      obtain ⟨entries, hentries, rfl⟩ := map_eq_ok.mp h
      exact ⟨by simp, definite_of_readItems hentries⟩
  | object fields => exact definite_of_readFields definite_new h
  | _ => exact absurd h (by simp [ofSection, Json.readObject])

theorem definite_of_ofJson {v : Json} {input : FilterInput} (h : ofJson v = .ok input) :
    input.Definite := by
  have hread : layout.read (fun field v => put (readEntries v) field v) {} v = .ok input := by
    cases v with
    | object fields =>
        rw [Layout.read, ← readFields_eq]
        exact h
    | _ => exact h
  exact Layout.read_keeps (definite_put fun es hes => definite_of_readEntries hes) definite_new
    hread

/-- The object that is written of a filter is read as that filter, as a document and as the filter
of a query. -/
theorem read_toJson {input : FilterInput} (h : input.Definite) :
    ofJson input.toJson = .ok input ∧ ofSection input.toJson = .ok input := by
  obtain ⟨fields, hfields, hread⟩ := readFields_toJson input h
  rw [hfields]
  exact ⟨hread, hread⟩

end FilterInput

/-! ## Orders, pages and queries -/

namespace OrderInput

theorem toJson_ne_null (input : OrderInput) : input.toJson ≠ .null := by
  simp [toJson, Json.ofFields]

/-- The fields that are written of an order are read as that order. -/
theorem readFields_toJson (input : OrderInput) : ∃ fields, input.toJson = .object fields ∧
    layout.readFields put [] {} fields = .ok input := by
  refine ⟨[("active", .ofBool? input.active), ("condition", .ofString? input.condition),
    ("direction", .ofString? input.direction), ("mode", .ofString? input.mode),
    ("property", input.property.elim .null (OneOrMany.toJson .string)),
    ("values", .list input.values)], rfl, ?_⟩
  simp [Layout.readFields, layout, Layout.field?, Layout.claim, spellings, put, Json.readList,
    Json.readBool_ofBool?, Json.readString_ofString?, OneOrMany.readNames_toJson]

theorem ofJson_toJson (input : OrderInput) : ofJson input.toJson = .ok input := by
  obtain ⟨fields, hfields, hread⟩ := readFields_toJson input
  rw [hfields]
  exact hread

theorem ofObject_toJson (input : OrderInput) : ofObject input.toJson = .ok input := by
  obtain ⟨fields, hfields, hread⟩ := readFields_toJson input
  rw [hfields]
  exact hread

theorem ofSection_toJson (orders : OneOrMany OrderInput) :
    ofSection (orders.toJson toJson) = .ok orders := by
  cases orders with
  | one input =>
      obtain ⟨fields, hfields, hread⟩ := readFields_toJson input
      have hone : ofSection (.object fields) = .one <$> ofObject (.object fields) := rfl
      rw [OneOrMany.toJson, hfields, hone, ← hfields, ofObject_toJson]
      rfl
  | many inputs =>
      have hread : (inputs.map toJson).mapM ofObject = .ok inputs := by
        rw [mapM_eq_ok, List.map_map]
        exact List.map_congr_left fun input _ => ofObject_toJson input
      rw [OneOrMany.toJson, ofSection, hread]
      rfl

end OrderInput

namespace PageInput

theorem toJson_ne_null (input : PageInput) : input.toJson ≠ .null := by
  simp [toJson, Json.ofFields]

/-- The fields that are written of a page are read as that page. -/
theorem readFields_toJson (input : PageInput) : ∃ fields, input.toJson = .object fields ∧
    layout.readFields put [] {} fields = .ok input := by
  refine ⟨[("active", .ofBool? input.active), ("num_per_page", .ofUInt64? input.size),
    ("page", .ofUInt64? input.number)], rfl, ?_⟩
  simp [Layout.readFields, layout, Layout.field?, Layout.claim, spellings, put,
    Json.readBool_ofBool?, Json.readWord_ofUInt64?]

theorem read_toJson (input : PageInput) :
    ofJson input.toJson = .ok input ∧ ofSection input.toJson = .ok input := by
  obtain ⟨fields, hfields, hread⟩ := readFields_toJson input
  rw [hfields]
  exact ⟨hread, hread⟩

end PageInput

namespace QueryInput

/-- No value in the filter of a query is null. -/
def Definite (input : QueryInput) : Prop :=
  ∀ filter ∈ input.filter, filter.Definite

theorem ofJson_toJson {input : QueryInput} (h : input.Definite) :
    ofJson input.toJson = .ok input := by
  obtain ⟨filter, order, page⟩ := input
  have hfilter : (filter.elim .null FilterInput.toJson).optional FilterInput.ofSection =
      .ok filter :=
    Json.optional_elim (fun f hf => (FilterInput.read_toJson (h f hf)).2)
      FilterInput.toJson_ne_null
  have horder : (order.elim .null (OneOrMany.toJson OrderInput.toJson)).optional
      OrderInput.ofSection = .ok order :=
    Json.optional_elim (fun orders _ => OrderInput.ofSection_toJson orders)
      (OneOrMany.toJson_ne_null OrderInput.toJson_ne_null)
  have hpage : (page.elim .null PageInput.toJson).optional PageInput.ofSection = .ok page :=
    Json.optional_elim (fun p _ => (PageInput.read_toJson p).2) PageInput.toJson_ne_null
  have hwritten : toJson ⟨filter, order, page⟩ =
      .object [("filter", filter.elim .null FilterInput.toJson),
        ("order", order.elim .null (OneOrMany.toJson OrderInput.toJson)),
        ("pagination", page.elim .null PageInput.toJson)] := rfl
  rw [hwritten]
  simp [ofJson, Layout.read, Layout.readFields, layout, Layout.field?, Layout.claim, spellings, put,
    hfilter, horder, hpage]

theorem definite_put {field : Field} {v : Json} {input filled : QueryInput}
    (hinput : input.Definite) (h : put field v input = .ok filled) : filled.Definite := by
  cases field with
  | filter =>
      obtain ⟨filter, hfilter, rfl⟩ := map_eq_ok.mp h
      rintro f rfl
      cases v with
      | null => exact absurd hfilter (by simp [Json.optional])
      | _ =>
          obtain ⟨f', hf, hsome⟩ := map_eq_ok.mp hfilter
          obtain rfl := Option.some.inj hsome
          exact FilterInput.definite_of_ofSection hf
  | order =>
      obtain ⟨order, -, rfl⟩ := map_eq_ok.mp h
      exact hinput
  | page =>
      obtain ⟨page, -, rfl⟩ := map_eq_ok.mp h
      exact hinput

theorem definite_of_ofJson {v : Json} {input : QueryInput} (h : ofJson v = .ok input) :
    input.Definite := by
  have hnew : Definite {} := by
    intro f hf
    exact absurd hf (by simp)
  exact Layout.read_keeps definite_put hnew h

end QueryInput

/-! ## All descriptions -/

/-- What is written of a description is read as that description, unless a value in it is null; no
such description is read.  So a document that is read, written and read again is read the same, and
compiles to the same. -/
theorem documents_round_trip :
    RoundTrips QueryInput.ofJson QueryInput.toJson QueryInput.Definite ∧
    RoundTrips FilterInput.ofJson FilterInput.toJson FilterInput.Definite ∧
    RoundTrips FilterInput.readEntry FilterInput.entryToJson FilterInput.EntryDefinite ∧
    RoundTrips OrderInput.ofJson OrderInput.toJson (fun _ => True) ∧
    RoundTrips PageInput.ofJson PageInput.toJson (fun _ => True) ∧
    ∀ (v : Json) (input : QueryInput), QueryInput.ofJson v = .ok input →
      QueryInput.ofJson input.toJson = .ok input ∧
      ∀ c : Compiler, c.compileJson input.toJson = c.compileJson v := by
  have hquery : RoundTrips QueryInput.ofJson QueryInput.toJson QueryInput.Definite :=
    ⟨fun _ h => QueryInput.ofJson_toJson h, fun _ _ h => QueryInput.definite_of_ofJson h⟩
  have hfilter : RoundTrips FilterInput.ofJson FilterInput.toJson FilterInput.Definite :=
    ⟨fun _ h => (FilterInput.read_toJson h).1, fun _ _ h => FilterInput.definite_of_ofJson h⟩
  have hentry : RoundTrips FilterInput.readEntry FilterInput.entryToJson
      FilterInput.EntryDefinite :=
    ⟨FilterInput.readEntry_entryToJson, fun _ _ h => FilterInput.definite_of_readEntry h⟩
  have horder : RoundTrips OrderInput.ofJson OrderInput.toJson (fun _ => True) :=
    ⟨fun order _ => order.ofJson_toJson, fun _ _ _ => trivial⟩
  have hpage : RoundTrips PageInput.ofJson PageInput.toJson (fun _ => True) :=
    ⟨fun page _ => page.read_toJson.1, fun _ _ _ => trivial⟩
  refine ⟨hquery, hfilter, hentry, horder, hpage, fun v input h => ?_⟩
  have hagain : QueryInput.ofJson input.toJson = .ok input := hquery.reread h
  refine ⟨hagain, fun c => ?_⟩
  rw [Compiler.compileJson, Compiler.compileJson, hagain, h]

/-- A document that is a list, with second spellings and a null for a value. -/
theorem documents_round_trip_of_list :
    let v : Json := .list
      [.list [.object [("fields", .list [.string "a", .string "b"]), ("function", .string "lower"),
          ("operator", .string "is null"), ("value", .null)], .string "c = 1"],
        .object [("property", .string "d"), ("values", .list [.null, .bool true])]]
    let filter : FilterInput :=
      { filters := [.nested
          { property := some (.many ["a", "b"]), operator := some "is null", func := some "lower" },
          .fragment "c = 1"] }
    let order : OrderInput := { property := some (.one "d"), values := [.null, .bool true] }
    let input : QueryInput := { filter := some filter, order := some (.one order) }
    QueryInput.ofJson v = .ok input ∧ QueryInput.ofJson input.toJson = .ok input ∧
      ∀ c : Compiler, c.compileJson input.toJson = c.compileJson v := by
  intro v filter order input
  have hread : QueryInput.ofJson v = .ok input := rfl
  obtain ⟨-, -, -, -, -, hdocuments⟩ := documents_round_trip
  exact ⟨hread, hdocuments v input hread⟩

end Criteria
