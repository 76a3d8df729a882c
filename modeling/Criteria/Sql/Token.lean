/-
Tokens of a query.

The rules are those of a MySQL server in its default mode, for the part of
the language in which conditions and sort keys are written.  A literal opens
at a single quote; in it two quotes are one, a backslash and the character
behind it stand for another character, and a quote by itself ends it.  What
is no token of that part is refused and not guessed at: a literal that does
not end, a word that touches the quote behind it and so would say how the
literal is to be read, a number that touches a word or a point, a run of
operator characters that is no comparison, comments and other quotes.

The scanner is a machine that takes one character after the other.  Its mode
is what it is in the middle of, and a token comes out when the character
behind it arrives, or at the end.
-/
namespace Criteria.Sql

/-- A token of a query. -/
inductive Token where
  | word (text : String)
  | number (text : String)
  | operator (text : String)
  | literal (content : String)
  | placeholder
  | leftParen
  | rightParen
  | comma
  | point
deriving DecidableEq, Repr

namespace Scanner

/-- A blank: a space, or one of the control characters from the tabulator to the carriage return. -/
def isBlank (c : Char) : Bool :=
  c = ' ' || ('\t' ≤ c && c ≤ '\r')

/-- A letter, an underscore, a dollar sign or any character that is not ASCII. -/
def isWordStart (c : Char) : Bool :=
  c.isAlpha || c = '_' || c = '$' || '\x7f' < c

/-- What a word may begin with, or a digit. -/
def isWordPart (c : Char) : Bool :=
  isWordStart c || c.isDigit

/-- A character of which comparisons are made. -/
def isOperatorPart (c : Char) : Bool :=
  c = '=' || c = '<' || c = '>' || c = '!'

/-- The comparisons. -/
def comparisons : List String :=
  ["=", "!=", "<>", "<=>", ">", ">=", "<", "<="]

/-- What a backslash and the character behind it stand for. -/
def unescape (c : Char) : List Char :=
  if c = '0' then ['\x00']
  else if c = 'b' then ['\x08']
  else if c = 'n' then ['\n']
  else if c = 'r' then ['\r']
  else if c = 't' then ['\t']
  else if c = 'Z' then ['\x1a']
  else if c = '%' || c = '_' then ['\\', c]
  else [c]

/-- What a scanner is in the middle of, with the characters it has read of it. -/
inductive Mode where
  | between
  | word (read : List Char)
  | number (read : List Char)
  | operator (read : List Char)
  | placeholder
  | afterPoint
  | literal (read : List Char)
  | literalQuote (read : List Char)
  | literalBackslash (read : List Char)

/-- The tokens that come out at the end; some modes may not be the last. -/
def finish : Mode → Option (List Token)
  | .between => some []
  | .word read => some [.word (String.ofList read)]
  | .number read => some [.number (String.ofList read)]
  | .operator read =>
    if comparisons.contains (String.ofList read) then some [.operator (String.ofList read)]
    else none
  | .placeholder => some [.placeholder]
  | .literalQuote read => some [.literal (String.ofList read)]
  | .afterPoint | .literal _ | .literalBackslash _ => none

/-- Begins something new with a character. -/
def start (c : Char) : Option (List Token × Mode) :=
  if isWordStart c then some ([], .word [c])
  else if c.isDigit then some ([], .number [c])
  else if isOperatorPart c then some ([], .operator [c])
  else if c = '\x27' then some ([], .literal [])
  else if c = '?' then some ([], .placeholder)
  else if c = '(' then some ([.leftParen], .between)
  else if c = ')' then some ([.rightParen], .between)
  else if c = ',' then some ([.comma], .between)
  else if c = '.' then some ([.point], .afterPoint)
  else if isBlank c then some ([], .between)
  else none

/-- Ends what was being read, and begins something new with a character. -/
def endWith (mode : Mode) (c : Char) : Option (List Token × Mode) := do
  let ended ← finish mode
  let (begun, mode) ← start c
  return (ended ++ begun, mode)

/-- Takes one character. -/
def step (mode : Mode) (c : Char) : Option (List Token × Mode) :=
  match mode with
  | .word read =>
    if isWordPart c then some ([], .word (read ++ [c]))
    else if c = '\x27' then none
    else endWith mode c
  | .number read =>
    if c.isDigit then some ([], .number (read ++ [c]))
    else if isWordStart c || c = '.' then none
    else endWith mode c
  | .operator read =>
    if isOperatorPart c then some ([], .operator (read ++ [c])) else endWith mode c
  | .placeholder => if isWordPart c then none else endWith mode c
  | .afterPoint => if isWordStart c then some ([], .word [c]) else none
  | .literal read =>
    if c = '\x27' then some ([], .literalQuote read)
    else if c = '\\' then some ([], .literalBackslash read)
    else some ([], .literal (read ++ [c]))
  | .literalQuote read =>
    if c = '\x27' then some ([], .literal (read ++ [c])) else endWith mode c
  | .literalBackslash read => some ([], .literal (read ++ unescape c))
  | .between => start c

/-- Takes all characters, and ends. -/
def scan (mode : Mode) : List Char → Option (List Token)
  | [] => finish mode
  | c :: rest => do
    let (out, mode) ← step mode c
    let others ← scan mode rest
    return out ++ others

end Scanner

/-- The tokens of a text, unless it is refused. -/
def tokens? (text : String) : Option (List Token) :=
  Scanner.scan .between text.toList

example : tokens? "t.a != 'it''s \\0' OR b IN (?,1)" =
    some [.word "t", .point, .word "a", .operator "!=", .literal "it's \x00", .word "OR",
      .word "b", .word "IN", .leftParen, .placeholder, .comma, .number "1", .rightParen] := by
  decide

example : tokens? "a = 'open" = none ∧ tokens? "_utf8'x'" = none ∧ tokens? "a =! b" = none := by
  decide

end Criteria.Sql
