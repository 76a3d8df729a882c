/-
Letter case.

Tokens, keywords and dialect names are compared without regard to the case
of the letters A to Z.  No other letter has a case here: a dotless i or a
long s is never taken for an ASCII letter.
-/
namespace Criteria.Text

/-- The text with the letters a to z turned into A to Z. -/
def upper (text : String) : String :=
  String.ofList (text.toList.map Char.toUpper)

/-- The text with the letters A to Z turned into a to z. -/
def lower (text : String) : String :=
  String.ofList (text.toList.map Char.toLower)

example : upper "is Not ſ null" = "IS NOT ſ NULL" := by decide
example : lower "MySQL" = "mysql" := by decide

end Criteria.Text
