/-
The grammar of names, rule by rule.

Each rule for identifiers is a condition by itself here, and a text may break
several of them; the first of those, in the order of their ranks, is the one
to be reported.  A name is one identifier, or two with a point between them.
-/
import Criteria.Field.Name

namespace Criteria

namespace Identifier

/-- One of the letters A to Z, of either case. -/
def IsLetter (c : Char) : Prop :=
  ('A' ≤ c ∧ c ≤ 'Z') ∨ ('a' ≤ c ∧ c ≤ 'z')

/-- One of the digits 0 to 9. -/
def IsDigit (c : Char) : Prop :=
  '0' ≤ c ∧ c ≤ '9'

instance (c : Char) : Decidable (IsLetter c) :=
  inferInstanceAs (Decidable (_ ∨ _))

instance (c : Char) : Decidable (IsDigit c) :=
  inferInstanceAs (Decidable (_ ∧ _))

/-- The texts are the same but for the case of letters. -/
def SameWord (a b : String) : Prop :=
  Text.upper a = Text.upper b

/-- The text is a reserved word in some letter case. -/
def IsReserved (text : String) : Prop :=
  ∃ word ∈ Sql.keywords, SameWord word text

/-- The text follows each of the rules. -/
structure IsWord (text : String) : Prop where
  length : text.utf8ByteSize ≤ 63
  start : ∃ c ∈ text.toList.head?, IsLetter c ∨ c = '_'
  parts : ∀ c ∈ text.toList, IsLetter c ∨ IsDigit c ∨ c = '_'
  notReserved : ¬IsReserved text

namespace Fault

/-- The text breaks the rule of a fault. -/
def IsIn (text : String) : Fault → Prop
  | .empty => text = ""
  | .tooLong length => text.utf8ByteSize = length ∧ 63 < length
  | .badStart => ∃ c ∈ text.toList.head?, ¬(IsLetter c ∨ c = '_')
  | .badCharacter => ∃ c ∈ text.toList, ¬(IsLetter c ∨ IsDigit c ∨ c = '_')
  | .reserved => IsReserved text

/-- The place of the rule of a fault among the rules. -/
def rank : Fault → Nat
  | .empty => 0
  | .tooLong _ => 1
  | .badStart => 2
  | .badCharacter => 3
  | .reserved => 4

/-- The text breaks the rule of a fault, and no rule in front of it. -/
def IsFirstIn (text : String) (fault : Fault) : Prop :=
  fault.IsIn text ∧ ∀ other : Fault, other.IsIn text → fault.rank ≤ other.rank

end Fault

end Identifier

namespace FieldName

/-- The parts of a text between its points. -/
def segments (text : String) : List String :=
  (text.toList.splitOn '.').map String.ofList

/-- The text is a word, or two words with a point between them. -/
def IsName (text : String) : Prop :=
  (segments text).length ≤ 2 ∧ ∀ segment ∈ segments text, Identifier.IsWord segment

end FieldName

end Criteria
