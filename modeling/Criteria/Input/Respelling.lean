/-
Spellings of a query document.

One query may be written in many ways: a key has another spelling, null stands
where nothing does, keys that mean nothing stand anywhere, and one thing stands
where a list of one thing would do as well.  This tells which ways there are as
single rewritings of a document, each at one place in it; the tables of keys
are those of the records, and there is nothing about a reader here.

Two places are left alone, the value that fields are compared with and the
values that give an order: there a null or an unknown key would be another
value.
-/
import Criteria.Json.Basic
import Mathlib.Logic.Relation

namespace Criteria.Respelling

/-- The kinds of objects in a document. -/
inductive Record where
  | query
  | filter
  | order
  | page
deriving DecidableEq

/-- The places in a document where something may be written in another way. -/
inductive Place where
  | record (record : Record)
  | filterSection
  | orderSection
  | entries
  | names
deriving DecidableEq

/-- What a record holds once: the spellings of its key, whether null under it is the same as
nothing, and which place it is, if it is one. -/
structure Slot where
  keys : List String
  nullable : Bool
  place : Option Place

/-- What records hold. -/
def slots : Record → List Slot
  | .query =>
    [⟨["filter", "filters"], true, some .filterSection⟩,
      ⟨["order", "orders"], true, some .orderSection⟩,
      ⟨["pagination"], true, some (.record .page)⟩]
  | .filter =>
    [⟨["active"], true, none⟩, ⟨["condition"], true, none⟩, ⟨["filters"], false, some .entries⟩,
      ⟨["property", "fields"], true, some .names⟩, ⟨["value"], true, none⟩,
      ⟨["operator"], true, none⟩, ⟨["func", "function"], true, none⟩,
      ⟨["operand", "conjunction"], true, none⟩]
  | .order =>
    [⟨["active"], true, none⟩, ⟨["condition"], true, none⟩, ⟨["mode"], true, none⟩,
      ⟨["property", "fields"], true, some .names⟩, ⟨["values"], false, none⟩,
      ⟨["direction"], true, none⟩]
  | .page =>
    [⟨["active"], true, none⟩, ⟨["page"], true, none⟩, ⟨["num_per_page"], true, none⟩]

/-- None of the keys is that of a field. -/
def Absent (keys : List String) (fields : List (String × Json)) : Prop :=
  ∀ field ∈ fields, field.1 ∉ keys

/-- One rewriting of what stands at a place.  The fields of an object may come in any sequence, so
a field that is added or changed is shown as the first. -/
inductive Step : Place → Json → Json → Prop
  /-- A key becomes another spelling of it. -/
  | rename {record : Record} {slot : Slot} {old new : String} {v : Json}
      {rest fields fields' : List (String × Json)} :
      slot ∈ slots record → old ∈ slot.keys → new ∈ slot.keys → Absent slot.keys rest →
      fields.Perm ((old, v) :: rest) → fields'.Perm ((new, v) :: rest) →
      Step (.record record) (.object fields) (.object fields')
  /-- Null is written where nothing stands. -/
  | null {record : Record} {slot : Slot} {key : String} {fields fields' : List (String × Json)} :
      slot ∈ slots record → slot.nullable → key ∈ slot.keys → Absent slot.keys fields →
      fields'.Perm ((key, .null) :: fields) →
      Step (.record record) (.object fields) (.object fields')
  /-- A key that means nothing is added. -/
  | unknown {record : Record} {key : String} {v : Json} {fields fields' : List (String × Json)} :
      (∀ slot ∈ slots record, key ∉ slot.keys) → fields'.Perm ((key, v) :: fields) →
      Step (.record record) (.object fields) (.object fields')
  /-- What stands under a key is rewritten, if it is a place. -/
  | inside {record : Record} {slot : Slot} {place : Place} {key : String} {v v' : Json}
      {rest fields fields' : List (String × Json)} :
      slot ∈ slots record → key ∈ slot.keys → slot.place = some place → Step place v v' →
      fields.Perm ((key, v) :: rest) → fields'.Perm ((key, v') :: rest) →
      Step (.record record) (.object fields) (.object fields')
  /-- The filter of a query that is a list of entries becomes a filter with these entries. -/
  | filterOfEntries {items : List Json} :
      Step .filterSection (.list items) (.object [("filters", .list items)])
  /-- The filter of a query is rewritten as a filter. -/
  | filter {v v' : Json} : Step (.record .filter) v v' → Step .filterSection v v'
  /-- The filter of a query is rewritten as a list of entries. -/
  | entries {v v' : Json} : Step .entries v v' → Step .filterSection v v'
  /-- An entry is rewritten as a filter. -/
  | entry {v v' : Json} (before after : List Json) : Step (.record .filter) v v' →
      Step .entries (.list (before ++ v :: after)) (.list (before ++ v' :: after))
  /-- A single order becomes a list of one order. -/
  | ordersOfOrder {fields : List (String × Json)} :
      Step .orderSection (.object fields) (.list [.object fields])
  /-- A single order is rewritten. -/
  | order {v v' : Json} : Step (.record .order) v v' → Step .orderSection v v'
  /-- One of a list of orders is rewritten. -/
  | orderOf {v v' : Json} (before after : List Json) : Step (.record .order) v v' →
      Step .orderSection (.list (before ++ v :: after)) (.list (before ++ v' :: after))
  /-- A single name becomes a list of one name. -/
  | namesOfName {name : String} : Step .names (.string name) (.list [.string name])

/-- Two documents are the same but for any number of rewritings, each made in one way or the
other. -/
def Respelled : Json → Json → Prop :=
  Relation.EqvGen (Step (.record .query))

end Criteria.Respelling
