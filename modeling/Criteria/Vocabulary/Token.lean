/-
Tokens of a closed vocabulary.

Operators, functions and the other key words of a query are written by a
caller in any letter case and with any blanks around and between the words.
`normal` takes that freedom away; a vocabulary is then a list of spellings,
and a token that is not among them is refused, which keeps the caller's
text out of the query.
-/
import Criteria.Text.Blank
import Criteria.Text.Case

namespace Criteria.Vocabulary

/-- A token with one space between its words, in capitals. -/
def normal (token : String) : String :=
  Text.upper (" ".intercalate (Text.words token))

/-- The first meaning whose spelling is the normal form of the token. -/
def find? {α : Type} (spellings : List (String × α)) (token : String) : Option α :=
  spellings.lookup (normal token)

example : normal " is\t not  Null\n" = "IS NOT NULL" := by decide

end Criteria.Vocabulary
