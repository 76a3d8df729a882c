/-
Records of a document.

A record is an object with known fields.  Each field has a name and maybe a
second spelling, and may be given once; fields of other names are passed
over.  Where a document is read as a record from its outermost value, a
list does as well: its items are the fields in their order, and the last
ones may be missing.
-/
import Criteria.Input.Error

namespace Criteria

/-- The fields of a record in their order, and how they are spelled: by a name, and maybe in other
ways too. -/
structure Layout (φ : Type) where
  name : String
  fields : List φ
  spellings : φ → String × List String

namespace Layout

variable {φ ρ : Type} [DecidableEq φ] (layout : Layout φ)

/-- The field of a spelling. -/
def field? (key : String) : Option φ :=
  layout.fields.find? fun field =>
    let (name, others) := layout.spellings field
    (name :: others).contains key

/-- Marks a field as given; it must not have been given before. -/
def claim (field : φ) (given : List φ) : Except InputError (List φ) :=
  if field ∈ given then .error (.duplicateField (layout.spellings field).1)
  else .ok (field :: given)

/-- Puts the fields of an object into a record one after the other. -/
def readFields (put : φ → Json → ρ → Except InputError ρ) (given : List φ) (value : ρ) :
    List (String × Json) → Except InputError ρ
  | [] => .ok value
  | (key, json) :: rest =>
    match layout.field? key with
    | none => readFields put given value rest
    | some field => do
      let given ← layout.claim field given
      let value ← put field json value
      readFields put given value rest

/-- Puts the items of a list into fields in their order. -/
def readItems (put : φ → Json → ρ → Except InputError ρ) (value : ρ) :
    List φ → List Json → Except InputError ρ
  | field :: fields, item :: items => do
    let value ← put field item value
    readItems put value fields items
  | _, _ => .ok value

/-- Reads a list as a record, which must not have more items than there are fields. -/
def ofList (put : φ → Json → ρ → Except InputError ρ) (value : ρ) (items : List Json) :
    Except InputError ρ := do
  let filled ← readItems put value layout.fields items
  if layout.fields.length < items.length then throw (.tooManyItems items.length)
  return filled

/-- Refuses a value that is no record. -/
def refuse (json : Json) : Except InputError ρ :=
  .error (.wrongType (.ofJson json) (.record layout.name))

/-- Reads an object or a list as a record. -/
def read (put : φ → Json → ρ → Except InputError ρ) (value : ρ) : Json → Except InputError ρ
  | .object fields => layout.readFields put [] value fields
  | .list items => layout.ofList put value items
  | other => layout.refuse other

end Layout

end Criteria
