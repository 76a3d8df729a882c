/-
The grammar of query documents.

This tells which values stand under which keys of a document, without a
reader.  A record is an object that is described by rows, one for each field:
the key, maybe with an alias, and what stands under it.  A key stands once in
an object, and not beside its alias; a key that is in no row may stand
anywhere, with any value.  A list is a filter or an order only where it is
said so, and then it is a list of filters or orders; only a whole document
may be a list of its three sections.
-/
import Criteria.Json.Basic

namespace Criteria.Grammar

/-! ## Values -/

/-- A value of a kind, or null in its place. -/
def OrNull (kind : Json → Prop) (v : Json) : Prop :=
  v = .null ∨ kind v

/-- A truth value. -/
def IsBool (v : Json) : Prop :=
  ∃ value, v = .bool value

/-- A text. -/
def IsString (v : Json) : Prop :=
  ∃ text, v = .string text

/-- A text or a list of texts. -/
def IsNames (v : Json) : Prop :=
  IsString v ∨ ∃ texts : List String, v = .list (texts.map .string)

/-- A whole number from 0 to 2 ^ 64 - 1, written without a point. -/
def IsWord (v : Json) : Prop :=
  ∃ n : WideInt, v = .integer n ∧ 0 ≤ n.value ∧ n.value < 18446744073709551616

/-- A list of values of a kind. -/
def IsListOf (kind : Json → Prop) (v : Json) : Prop :=
  ∃ items, v = .list items ∧ ∀ item ∈ items, kind item

/-- Any value. -/
def IsAny (_ : Json) : Prop :=
  True

/-! ## Records -/

/-- A field of a record: its spellings, and what it holds. -/
structure Row where
  spellings : List String
  kind : Json → Prop

/-- No two fields of an object go by spellings of one row. -/
def Unambiguous (rows : List Row) (fields : List (String × Json)) : Prop :=
  fields.Pairwise fun a b => ∀ row ∈ rows, ¬(a.1 ∈ row.spellings ∧ b.1 ∈ row.spellings)

/-- An object in which no field is given twice, and every field is of its kind. -/
def IsRecord (rows : List Row) (v : Json) : Prop :=
  ∃ fields, v = .object fields ∧ Unambiguous rows fields ∧
    ∀ field ∈ fields, ∀ row ∈ rows, field.1 ∈ row.spellings → row.kind field.2

/-- A list of the fields of a record in the order of the rows, of which the last ones may be
missing. -/
def IsTuple (rows : List Row) (v : Json) : Prop :=
  ∃ items, v = .list items ∧ items.length ≤ rows.length ∧
    ∀ pair ∈ rows.zip items, pair.1.kind pair.2

/-! ## Filters -/

/-- The fields of a filter.  What the list of its filters consists of is said by `Entry`. -/
def filterRows : List Row :=
  [⟨["active"], OrNull IsBool⟩, ⟨["condition"], OrNull IsString⟩, ⟨["filters"], IsListOf IsAny⟩,
    ⟨["property", "fields"], OrNull IsNames⟩, ⟨["value"], IsAny⟩,
    ⟨["operator"], OrNull IsString⟩, ⟨["func", "function"], OrNull IsString⟩,
    ⟨["operand", "conjunction"], OrNull IsString⟩]

/-- An entry of a list of filters: a text, or a filter, which is an object whose own list of
filters has entries for items. -/
inductive Entry : Json → Prop
  | text (sql : String) : Entry (.string sql)
  | filter {fields : List (String × Json)} : IsRecord filterRows (.object fields) →
      (∀ items, ("filters", .list items) ∈ fields → ∀ item ∈ items, Entry item) →
      Entry (.object fields)

/-- A filter: an entry that is an object. -/
def Filter (v : Json) : Prop :=
  (∃ fields, v = .object fields) ∧ Entry v

/-- The filter of a document: a list of entries, or a filter. -/
def FilterSection (v : Json) : Prop :=
  IsListOf Entry v ∨ Filter v

/-! ## Orders and pages -/

/-- The fields of an order. -/
def orderRows : List Row :=
  [⟨["active"], OrNull IsBool⟩, ⟨["condition"], OrNull IsString⟩, ⟨["mode"], OrNull IsString⟩,
    ⟨["property", "fields"], OrNull IsNames⟩, ⟨["values"], IsListOf IsAny⟩,
    ⟨["direction"], OrNull IsString⟩]

/-- The orders of a document: an order, or a list of orders. -/
def OrderSection (v : Json) : Prop :=
  IsRecord orderRows v ∨ IsListOf (IsRecord orderRows) v

/-- The fields of a page. -/
def pageRows : List Row :=
  [⟨["active"], OrNull IsBool⟩, ⟨["page"], OrNull IsWord⟩, ⟨["num_per_page"], OrNull IsWord⟩]

/-! ## Documents -/

/-- The fields of a document. -/
def queryRows : List Row :=
  [⟨["filter", "filters"], OrNull FilterSection⟩, ⟨["order", "orders"], OrNull OrderSection⟩,
    ⟨["pagination"], OrNull (IsRecord pageRows)⟩]

/-- A document: an object, or a list of a filter, orders and a page. -/
def Query (v : Json) : Prop :=
  IsRecord queryRows v ∨ IsTuple queryRows v

end Criteria.Grammar
