/-
Tokens and field names in documents.

A token that is blank counts as missing.  Any other is looked up without
the blanks around it, and a message shows it so.
-/
import Criteria.Input.OneOrMany
import Criteria.Vocabulary.Reading

namespace Criteria.Input

/-- The meaning of a token, or none for a blank one. -/
def token {α : Type} (find? : String → Option α) (unknown : String → ExpressionError)
    (text : Option String) : Except ExpressionError (Option α) :=
  match text.map Text.trim with
  | none => .ok none
  | some token =>
    if token.isEmpty then .ok none
    else some <$> Vocabulary.read find? unknown token

/-- The fields that a document names. -/
def fields (names : Option (OneOrMany String)) : Except ExpressionError (List FieldName) :=
  (names.elim [] OneOrMany.toList).mapM fun name =>
    (FieldName.ofText (Text.trim name)).mapError .badField

end Criteria.Input
