/-
Pages in documents.

A page is described by an object: whether it is active, its number, and the
number of rows on a page.
-/
import Criteria.Input.Record
import Criteria.Input.Value

namespace Criteria

/-- The description of a page. -/
structure PageInput where
  active : Option Bool := none
  number : Option UInt64 := none
  size : Option UInt64 := none

namespace PageInput

/-- The fields of the description of a page. -/
inductive Field where
  | active
  | number
  | size
deriving DecidableEq

/-- The spellings of a field. -/
def spellings : Field → String × List String
  | .active => ("active", [])
  | .number => ("page", [])
  | .size => ("num_per_page", [])

/-- Puts a value into a field. -/
def put (field : Field) (json : Json) (input : PageInput) : Except InputError PageInput :=
  match field with
  | .active => do return { input with active := ← json.optional Json.readBool }
  | .number => do return { input with number := ← json.optional Json.readWord }
  | .size => do return { input with size := ← json.optional Json.readWord }

/-- The layout of the description of a page. -/
def layout : Layout Field where
  name := "PaginationData"
  fields := [.active, .number, .size]
  spellings := spellings

/-- Reads the description of a page from an object or a list. -/
def ofJson (json : Json) : Except InputError PageInput :=
  layout.read put {} json

/-- Reads the page of a query, an object. -/
def ofSection (json : Json) : Except InputError PageInput := do
  layout.readFields put [] {} (← json.readObject "pagination")

/-- The object that describes a page, with all of its fields. -/
def toJson (input : PageInput) : Json :=
  .ofFields
    [("active", .ofBool? input.active), ("page", .ofUInt64? input.number),
      ("num_per_page", .ofUInt64? input.size)]

end PageInput

end Criteria
