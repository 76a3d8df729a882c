/-
String literals.

A literal stands between single quotes.  Inside it a quote and a backslash
are written twice, and a NUL is a backslash and a zero; every other
character stands for itself.
-/
namespace Criteria.Sql

/-- The characters that stand for one character of a literal. -/
def escapeChar (c : Char) : List Char :=
  if c = '\\' then ['\\', '\\']
  else if c = '\x27' then ['\x27', '\x27']
  else if c = '\x00' then ['\\', '0']
  else [c]

/-- The body of the literal of a text. -/
def escape (text : String) : String :=
  String.ofList (text.toList.flatMap escapeChar)

/-- The literal of a text. -/
def quote (text : String) : String :=
  "'" ++ escape text ++ "'"

example : quote "O'Neil \\ \x00" = "'O''Neil \\\\ \\0'" := by decide

end Criteria.Sql
