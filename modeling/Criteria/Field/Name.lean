/-
Field names.

A field is named by an identifier, with or without the identifier of its
table and a point in front of it.
-/
import Criteria.Field.Identifier
import Criteria.Text.Blank

namespace Criteria

/-- What is wrong with the name of a field. -/
inductive NameError where
  | empty
  | tooLong (name : String) (length : Nat)
  | badStart (name : String)
  | badCharacter (name : String)
  | reserved (name : String)
  | tooManySegments (name : String)
deriving DecidableEq, Repr

namespace NameError

/-- The error of a segment that breaks a rule. -/
def ofFault (segment : String) : Identifier.Fault → NameError
  | .empty => .empty
  | .tooLong length => .tooLong segment length
  | .badStart => .badStart segment
  | .badCharacter => .badCharacter segment
  | .reserved => .reserved segment

/-- What a reader is told. -/
def message : NameError → String
  | .empty => "Name cannot be empty"
  | .tooLong name length =>
    s!"Name '{name}' is too long: {length} characters (max {Identifier.maxLength})"
  | .badStart name => s!"Name '{name}' must start with a letter or underscore"
  | .badCharacter name =>
    s!"Invalid characters in name '{name}': only alphanumeric characters and underscores are allowed"
  | .reserved name => s!"Name '{name}' is a reserved SQL keyword"
  | .tooManySegments name => s!"Name '{name}' has more than one qualifier"

end NameError

/-- The name of a field. -/
structure FieldName where
  qualifier : Option Identifier
  name : Identifier
deriving DecidableEq

namespace FieldName

/-- The identifier of a segment, or what is wrong with it. -/
def segment (cs : List Char) : Except NameError Identifier :=
  (Identifier.ofText (String.ofList cs)).mapError (.ofFault (String.ofList cs))

/-- The name that a text writes, or what is wrong with the leftmost faulty segment. -/
def ofText (text : String) : Except NameError FieldName :=
  match text.toList.splitOn '.' with
  | [name] => do return ⟨none, ← segment name⟩
  | [qualifier, name] => do
    let qualifier ← segment qualifier
    let name ← segment name
    return ⟨some qualifier, name⟩
  | _ => .error (.tooManySegments text)

/-- The written form of a name. -/
def text (field : FieldName) : String :=
  match field.qualifier with
  | none => field.name.text
  | some qualifier => qualifier.text ++ "." ++ field.name.text

/-- The name says which table the field is of. -/
def isQualified (field : FieldName) : Bool :=
  field.qualifier.isSome

/-- A name is made of letters, digits, underscores and a point. -/
theorem isPart_of_mem {field : FieldName} {c : Char} (h : c ∈ field.text.toList) :
    Identifier.isPart c ∨ c = '.' := by
  obtain ⟨qualifier, name⟩ := field
  cases qualifier with
  | none => exact .inl (Identifier.isPart_of_mem h)
  | some qualifier =>
    simp only [text, String.toList_append, List.mem_append] at h
    rcases h with (h | h) | h
    · exact .inl (Identifier.isPart_of_mem h)
    · exact .inr (by simpa using h)
    · exact .inl (Identifier.isPart_of_mem h)

end FieldName

end Criteria
