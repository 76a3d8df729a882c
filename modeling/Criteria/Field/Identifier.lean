/-
Identifiers.

A column, a table or an alias goes into a query as it is, without quotes, so
it has to follow one strict grammar: a letter A to Z of either case or an
underscore, then such letters, digits and underscores, at most 63 bytes, and
no reserved word.  `fault?` names the first rule a text breaks.
-/
import Criteria.Sql.Keyword

namespace Criteria

namespace Identifier

/-- The greatest number of bytes. -/
def maxLength : Nat := 63

/-- The rules an identifier can break, in the order in which they are tested. -/
inductive Fault where
  | empty
  | tooLong (length : Nat)
  | badStart
  | badCharacter
  | reserved
deriving DecidableEq, Repr

/-- A letter or an underscore. -/
def isStart (c : Char) : Bool :=
  c.isAlpha || c = '_'

/-- A letter, a digit or an underscore. -/
def isPart (c : Char) : Bool :=
  c.isAlphanum || c = '_'

/-- The first rule that a text breaks. -/
def fault? (text : String) : Option Fault :=
  match text.toList with
  | [] => some .empty
  | first :: rest =>
    if maxLength < text.utf8ByteSize then some (.tooLong text.utf8ByteSize)
    else if !isStart first then some .badStart
    else if !(first :: rest).all isPart then some .badCharacter
    else if Sql.isKeyword text then some .reserved
    else none

end Identifier

/-- A text that breaks no rule. -/
structure Identifier where
  text : String
  faultless : Identifier.fault? text = none
deriving DecidableEq

namespace Identifier

/-- The identifier of a text, or the first rule it breaks. -/
def ofText (text : String) : Except Fault Identifier :=
  match h : fault? text with
  | none => .ok ⟨text, h⟩
  | some fault => .error fault

theorem ofText_ok_iff {text : String} {id : Identifier} :
    ofText text = .ok id ↔ id.text = text := by
  unfold ofText
  constructor
  · split <;> intro h
    · cases h; rfl
    · cases h
  · rintro rfl
    split
    · rfl
    · next fault h => simp [id.faultless] at h

theorem fault?_eq_none_iff {text : String} :
    fault? text = none ↔ ∃ first rest, text.toList = first :: rest ∧
      text.utf8ByteSize ≤ maxLength ∧ isStart first ∧ (first :: rest).all isPart ∧
      ¬ Sql.isKeyword text := by
  unfold fault?
  cases h : text.toList with
  | nil => simp
  | cons first rest => grind

/-- An identifier is made of letters, digits and underscores. -/
theorem isPart_of_mem {id : Identifier} {c : Char} (h : c ∈ id.text.toList) : isPart c := by
  obtain ⟨first, rest, hlist, -, -, hall, -⟩ := fault?_eq_none_iff.mp id.faultless
  exact List.all_eq_true.mp hall c (hlist ▸ h)

end Identifier

end Criteria
