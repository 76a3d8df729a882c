/-
One thing where a list of things would do as well.
-/
import Criteria.Input.Error

namespace Criteria

/-- One thing, or a list of them. -/
inductive OneOrMany (α : Type) where
  | one (item : α)
  | many (items : List α)
deriving DecidableEq

namespace OneOrMany

/-- The things in their order. -/
def toList {α : Type} : OneOrMany α → List α
  | one item => [item]
  | many items => items

/-- The list has in it what is given: one thing, the things of a list in their order, or nothing
where nothing is given. -/
inductive Lists {α : Type} : Option (OneOrMany α) → List α → Prop
  | nothing : Lists none []
  | one (item : α) : Lists (some (.one item)) [item]
  | many (items : List α) : Lists (some (.many items)) items

theorem lists_iff {α : Type} {given : Option (OneOrMany α)} {items : List α} :
    Lists given items ↔ given.elim [] toList = items := by
  constructor
  · intro h
    cases h with
    | nothing => rfl
    | one item => rfl
    | many items => rfl
  · rintro rfl
    match given with
    | none => exact .nothing
    | some (one item) => exact .one item
    | some (many items) => exact .many items

/-- The text of a value that is a text. -/
def text? : Json → Option String
  | .string text => some text
  | _ => none

/-- Reads one text or a list of texts. -/
def ofJson (json : Json) : Except InputError (OneOrMany String) :=
  let read := match json with
    | .string text => some (one text)
    | .list items => (items.mapM text?).map many
    | _ => none
  match read with
  | some names => .ok names
  | none => .error .neitherOneNorMany

/-- The value that is read as the same thing or things. -/
def toJson {α : Type} (item : α → Json) : OneOrMany α → Json
  | one a => item a
  | many items => .list (items.map item)

end OneOrMany

end Criteria
