/-
Reading string literals.

A literal is read from the quote that opens it.  Two quotes in it are one, a
backslash and the character behind it stand for another character, and the
first quote by itself ends it; what is behind that quote is left as it is.
What a backslash means in front of a character other than a backslash and a
zero is left open, because the rules of servers differ there.

The texts between the quotes of a literal are described apart from any
reader: no quote without a second one, and no backslash without the
character that it is written for.
-/
import Criteria.Sql.Literal

namespace Criteria.Sql.Quotation

/-- What a backslash and the character behind it stand for; `others` says it of all characters
but the backslash and the zero. -/
def unescape (others : Char → List Char) (c : Char) : List Char :=
  if c = '\\' then ['\\'] else if c = '0' then ['\x00'] else others c

/-- Characters in front of a content that has been read. -/
def prepend (cs : List Char) (found : Option (List Char × List Char)) :
    Option (List Char × List Char) :=
  found.map fun (content, rest) => (cs ++ content, rest)

/-- Reads up to the quote that ends a literal: the content, and what is behind the quote. -/
def readBody (others : Char → List Char) : List Char → Option (List Char × List Char)
  | [] => none
  | '\x27' :: '\x27' :: rest => prepend ['\x27'] (readBody others rest)
  | '\x27' :: rest => some ([], rest)
  | ['\\'] => none
  | '\\' :: c :: rest => prepend (unescape others c) (readBody others rest)
  | c :: rest => prepend [c] (readBody others rest)

/-- Reads the literal that a text begins with: its content, and what is left of the text. -/
def read? (others : Char → List Char) (text : String) : Option (String × String) :=
  match text.toList with
  | '\x27' :: body => (readBody others body).map fun (content, rest) =>
      (String.ofList content, String.ofList rest)
  | _ => none

/-- A character that stands for itself in a literal, and needs no other. -/
def IsPlain (c : Char) : Prop :=
  c ≠ '\x27' ∧ c ≠ '\\' ∧ c ≠ '\x00'

instance (c : Char) : Decidable (IsPlain c) :=
  inferInstanceAs (Decidable (_ ∧ _))

/-- What is written for a character: two characters for a backslash, a quote and a NUL, and any
other character as it is. -/
theorem escapeChar_cases (c : Char) :
    (c = '\\' ∧ escapeChar c = ['\\', '\\']) ∨ (c = '\x27' ∧ escapeChar c = ['\x27', '\x27']) ∨
      (c = '\x00' ∧ escapeChar c = ['\\', '0']) ∨ (IsPlain c ∧ escapeChar c = [c]) := by
  unfold escapeChar
  split
  · next hback => exact .inl ⟨hback, rfl⟩
  · next hback =>
      split
      · next hquote => exact .inr (.inl ⟨hquote, rfl⟩)
      · next hquote =>
          split
          · next hnul => exact .inr (.inr (.inl ⟨hnul, rfl⟩))
          · next hnul => exact .inr (.inr (.inr ⟨⟨hquote, hback, hnul⟩, rfl⟩))

/-- A text that may stand between the quotes of a literal: a quote is one of two, a backslash is
in front of a backslash or a zero, and every other character is plain. -/
inductive IsBody : List Char → Prop
  | nil : IsBody []
  | plain {c : Char} {rest : List Char} : IsPlain c → IsBody rest → IsBody (c :: rest)
  | quotes {rest : List Char} : IsBody rest → IsBody ('\x27' :: '\x27' :: rest)
  | backslashes {rest : List Char} : IsBody rest → IsBody ('\\' :: '\\' :: rest)
  | zero {rest : List Char} : IsBody rest → IsBody ('\\' :: '0' :: rest)

example : read? (fun c => [c]) "'it''s \\0\\\\', b" = some ("it's \x00\\", ", b") := by decide
example : read? (fun c => [c]) "'open''" = none ∧ read? (fun c => [c]) "open" = none := by decide

end Criteria.Sql.Quotation
