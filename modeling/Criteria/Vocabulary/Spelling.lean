/-
Spellings of words, and closed vocabularies.

A text spells words when it has them one after the other, each in any letter
case, with any blanks in front and behind and with a blank at least between two
of them.  This is said of the text as it is, and no normal form is made of it.

A token in a document may be missing, and means nothing then; that it means
something else is said in terms of what it spells.

A vocabulary is closed when its readers know its names and their aliases, in
every spelling, and nothing else.  It has two readers: one of tokens, and one of
documents, where a token may be missing.
-/
import Criteria.Vocabulary.Reading

namespace Criteria.Vocabulary

/-- The characters have the words in them, and else nothing but blanks, which keep the words
apart. -/
inductive Spells : List String → List Char → Prop
  /-- Blanks spell no words. -/
  | nothing {gap : List Char} : (∀ c ∈ gap, Text.isBlank c) → Spells [] gap
  /-- A word, behind any blanks and in front of the end or a blank. -/
  | word {word written : String} {words : List String} {gap rest : List Char} :
      (∀ c ∈ gap, Text.isBlank c) → Text.upper written = Text.upper word →
      (∀ c ∈ rest.head?, Text.isBlank c) → Spells words rest →
      Spells (word :: words) (gap ++ (written.toList ++ rest))

/-- The token spells the words of a text. -/
def IsSpelling (token spelling : String) : Prop :=
  Spells (Text.words spelling) token.toList

/-- A token of a document means what it spells a name or an alias of, and nothing where it is
missing or has nothing but blanks in it. -/
inductive Says {α : Type} (name : α → String) (aliases : List (String × α)) :
    Option String → Option α → Prop
  | nothing {text : Option String} : (∀ token ∈ text, ∀ c ∈ token.toList, Text.isBlank c) →
      Says name aliases text none
  | named {token : String} {meaning : α} : IsSpelling token (name meaning) →
      Says name aliases (some token) (some meaning)
  | aliased {token other : String} {meaning : α} : (other, meaning) ∈ aliases →
      IsSpelling token other → Says name aliases (some token) (some meaning)

/-- The readers of a vocabulary know the names of its meanings and the aliases, and else nothing. -/
structure IsClosed {α : Type} (ofToken : String → Except ExpressionError α)
    (ofDocument : Option String → Except ExpressionError (Option α))
    (unknown : String → ExpressionError) (name : α → String) (aliases : List (String × α)) :
    Prop where
  /-- A token is read as what its normal form is a name of. -/
  reads : ∀ token meaning, ofToken token = .ok meaning ↔
    normal token = name meaning ∨ (normal token, meaning) ∈ aliases
  /-- A token is read when its normal form is a name or an alias, and only then. -/
  accepts : ∀ token, (∃ meaning, ofToken token = .ok meaning) ↔
    (∃ meaning, normal token = name meaning) ∨ normal token ∈ aliases.map Prod.fst
  /-- Of a token nothing but its normal form counts. -/
  agrees : ∀ a b, normal a = normal b → (ofToken a).toOption = (ofToken b).toOption
  /-- A token is read as a meaning when it spells a name of it, and only then. -/
  spelled : ∀ token meaning, ofToken token = .ok meaning ↔
    IsSpelling token (name meaning) ∨ ∃ other, (other, meaning) ∈ aliases ∧ IsSpelling token other
  /-- A token that is refused is shown as it was given. -/
  refuses : ∀ token e, ofToken token = .error e → e = unknown token
  /-- A token that is missing, or has nothing but blanks in it, is none. -/
  missing : ∀ text, (∀ token ∈ text, ∀ c ∈ token.toList, Text.isBlank c) →
    ofDocument text = .ok none
  /-- Any other is read, and shown when it is refused, without the blanks around it. -/
  trimmed : ∀ token, (∃ c ∈ token.toList, ¬Text.isBlank c) →
    ofDocument (some token) = some <$> ofToken (Text.trim token)
  /-- The blanks around a token do not count. -/
  outcome : ∀ token, (ofToken (Text.trim token)).toOption = (ofToken token).toOption

end Criteria.Vocabulary
