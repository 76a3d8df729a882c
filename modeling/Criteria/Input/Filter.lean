/-
Filters in documents.

A filter is described by an object: whether it is active, a condition, the
filters of a group, the fields to compare, the value to compare them with,
and the names of operator, function and conjunction.  A filter of a group
may also be a text, which is a condition.
-/
import Criteria.Input.OneOrMany
import Criteria.Input.Record
import Criteria.Input.Value

namespace Criteria

/-- A filter of a group: described by an object, or a condition. -/
inductive FilterEntry (φ : Type) where
  | nested (input : φ)
  | fragment (sql : String)

/-- The description of a filter. -/
structure FilterInput where
  active : Option Bool := none
  condition : Option String := none
  filters : List (FilterEntry FilterInput) := []
  property : Option (OneOrMany String) := none
  value : Option Json := none
  operator : Option String := none
  func : Option String := none
  operand : Option String := none

namespace FilterInput

/-- The fields of the description of a filter. -/
inductive Field where
  | active
  | condition
  | filters
  | property
  | value
  | operator
  | func
  | operand
deriving DecidableEq

/-- The spellings of a field. -/
def spellings : Field → String × List String
  | .active => ("active", [])
  | .condition => ("condition", [])
  | .filters => ("filters", [])
  | .property => ("property", ["fields"])
  | .value => ("value", [])
  | .operator => ("operator", [])
  | .func => ("func", ["function"])
  | .operand => ("operand", ["conjunction"])

/-- The layout of the description of a filter. -/
def layout : Layout Field where
  name := "FilterData"
  fields := [.active, .condition, .filters, .property, .value, .operator, .func, .operand]
  spellings := spellings

/-- Puts a value into a field; `entries` are the filters that the value describes. -/
def put (entries : Except InputError (List (FilterEntry FilterInput))) (field : Field)
    (json : Json) (input : FilterInput) : Except InputError FilterInput :=
  match field with
  | .active => do return { input with active := ← json.optional Json.readBool }
  | .condition => do return { input with condition := ← json.optional Json.readString }
  | .filters => do return { input with filters := ← entries }
  | .property => do return { input with property := ← json.optional OneOrMany.ofJson }
  | .value => do return { input with value := ← json.optional .ok }
  | .operator => do return { input with operator := ← json.optional Json.readString }
  | .func => do return { input with func := ← json.optional Json.readString }
  | .operand => do return { input with operand := ← json.optional Json.readString }

mutual

/-- Reads the filters of a group. -/
def readEntries : Json → Except InputError (List (FilterEntry FilterInput))
  | .list items => readItems items
  | other => .error (.wrongType (.ofJson other) .list)

/-- Reads filters one after the other. -/
def readItems : List Json → Except InputError (List (FilterEntry FilterInput))
  | [] => .ok []
  | item :: rest => do
    let first ← readEntry item
    let others ← readItems rest
    return first :: others

/-- Reads one filter of a group. -/
def readEntry : Json → Except InputError (FilterEntry FilterInput)
  | .string sql => .ok (.fragment sql)
  | .object fields => .nested <$> readFields [] {} fields
  | other => .error (.notAnObject "filter entry" (.ofJson other))

/-- Reads the fields of an object into the description of a filter. -/
def readFields (given : List Field) (input : FilterInput) :
    List (String × Json) → Except InputError FilterInput
  | [] => .ok input
  | (key, json) :: rest =>
    match layout.field? key with
    | none => readFields given input rest
    | some field => do
      let given ← layout.claim field given
      let input ← put (readEntries json) field json input
      readFields given input rest

end

/-- Reads the description of a filter from an object or a list. -/
def ofJson : Json → Except InputError FilterInput
  | .object fields => readFields [] {} fields
  | .list items => layout.ofList (fun field json => put (readEntries json) field json) {} items
  | other => layout.refuse other

/-- Reads the filter of a query: an object, or a list of filters that must all hold. -/
def ofSection : Json → Except InputError FilterInput
  | .list items => do return { filters := ← readItems items }
  | other => do readFields [] {} (← other.readObject "filter")

mutual

/-- The object that describes a filter, with all of its fields. -/
def toJson : FilterInput → Json
  | ⟨active, condition, filters, property, value, operator, func, operand⟩ =>
    .ofFields
      [("active", .ofBool? active), ("condition", .ofString? condition),
        ("filters", .list (entriesToJson filters)),
        ("property", property.elim .null (OneOrMany.toJson .string)),
        ("value", value.getD .null), ("operator", .ofString? operator),
        ("func", .ofString? func), ("operand", .ofString? operand)]

/-- The values that describe the filters of a group. -/
def entriesToJson : List (FilterEntry FilterInput) → List Json
  | [] => []
  | entry :: rest => entryToJson entry :: entriesToJson rest

/-- The value that describes one filter of a group. -/
def entryToJson : FilterEntry FilterInput → Json
  | .nested input => toJson input
  | .fragment sql => .string sql

end

end FilterInput

end Criteria
