/-
Symbols of a condition in any spelling.

Text of the caller's own may use all of the language.  What a reader must
know of it is where a word, a quoted text and a parenthesis are, and it may
leave open what they mean; so a text is taken apart into words, quoted texts
with their quotes, and signs.  The rules are those of a MySQL server in its
default mode.

A point and an at sign are parts of the words they touch: the name behind a
point is never a keyword, and neither is the name of a variable.  A word that
begins like a number has to be one, because a server may end the number and
begin a keyword in the middle of it.  Comments are refused, and so is every
character that has no place in a condition: what a comment hides depends on
what is written behind it.
-/
import Criteria.Sql.Machine
import Criteria.Sql.Token
import Criteria.Text.Hex

namespace Criteria.Sql

/-- A word, a quoted text with its quotes, or a sign. -/
inductive Symbol where
  | word (text : String)
  | quoted (text : String)
  | sign (text : String)
deriving DecidableEq, Repr

namespace Symbol

/-- A letter, a digit, an underscore, a dollar sign, any character that is not ASCII, a point or
an at sign. -/
def isWordPart (c : Char) : Bool :=
  Scanner.isWordPart c || c = '.' || c = '@'

/-- What opens and closes a quoted text; only in a name, between backticks, a backslash is a
character like any other. -/
inductive Quote where
  | apostrophe
  | double
  | backtick
deriving DecidableEq

/-- The character of a quote. -/
def Quote.char : Quote → Char
  | apostrophe => '\x27'
  | double => '\x22'
  | backtick => '\x60'

/-- The quote that a character is. -/
def Quote.ofChar? (c : Char) : Option Quote :=
  [Quote.apostrophe, .double, .backtick].find? fun quote => quote.char = c

/-- A sign that the character behind it may belong to. -/
def isJoining (c : Char) : Bool :=
  "-/&|".toList.contains c

/-- A sign by itself. -/
def isSign (c : Char) : Bool :=
  "()+*%^~=<>!?,".toList.contains c

/-- The word is a number: digits with points and an exponent, or hexadecimal digits. -/
def isNumeral (word : List Char) : Bool :=
  word.all (fun c => c.isDigit || c = '.' || c = 'e' || c = 'E') ||
    (word.take 2 = ['0', 'x'] && (Text.hexNumber? (word.drop 2)).isSome)

/-- The word of its characters, unless it only begins like a number. -/
def ofWord? (word : List Char) : Option Symbol :=
  if word.head?.any (fun c => c.isDigit || c = '.') && !isNumeral word then none
  else some (.word (String.ofList word))

/-- The sign of its characters. -/
def ofSign (cs : List Char) : Symbol :=
  .sign (String.ofList cs)

/-- What a scanner is in the middle of, with the characters it has read of it. -/
inductive Mode where
  | between
  | word (read : List Char)
  | quoted (quote : Quote) (read : List Char)
  | quotedBackslash (quote : Quote) (read : List Char)
  | quotedQuote (quote : Quote) (read : List Char)
  | sign (c : Char)
  | dashes

/-- The symbols that come out at the end; some modes may not be the last, and two dashes would
begin a comment. -/
def finish : Mode → Option (List Symbol)
  | .between => some []
  | .word read => do return [← ofWord? read]
  | .quotedQuote _ read => some [.quoted (String.ofList read)]
  | .sign c => some [ofSign [c]]
  | .quoted _ _ | .quotedBackslash _ _ | .dashes => none

/-- Begins something new with a character. -/
def start (c : Char) : Option (List Symbol × Mode) :=
  if isWordPart c then some ([], .word [c])
  else if isJoining c then some ([], .sign c)
  else if isSign c then some ([ofSign [c]], .between)
  else if Scanner.isBlank c then some ([], .between)
  else (Quote.ofChar? c).map fun quote => ([], .quoted quote [c])

/-- Ends what was being read, and begins something new with a character. -/
def endWith (mode : Mode) (c : Char) : Option (List Symbol × Mode) := do
  let ended ← finish mode
  let (begun, mode) ← start c
  return (ended ++ begun, mode)

/-- Takes one character. -/
def step (mode : Mode) (c : Char) : Option (List Symbol × Mode) :=
  match mode with
  | .between => start c
  | .word read => if isWordPart c then some ([], .word (read ++ [c])) else endWith mode c
  | .quoted quote read =>
    if c = quote.char then some ([], .quotedQuote quote (read ++ [c]))
    else if c = '\\' ∧ quote ≠ .backtick then some ([], .quotedBackslash quote (read ++ [c]))
    else some ([], .quoted quote (read ++ [c]))
  | .quotedBackslash quote read => some ([], .quoted quote (read ++ [c]))
  | .quotedQuote quote read =>
    if c = quote.char then some ([], .quoted quote (read ++ [c]))
    else if c = '.' then some ([], .word (read ++ [c]))
    else endWith mode c
  | .sign first =>
    if first = '-' ∧ c = '-' then some ([], .dashes)
    else if first = '/' ∧ c = '*' then none
    else if (first = '&' ∨ first = '|') ∧ c = first then some ([ofSign [first, c]], .between)
    else endWith mode c
  | .dashes =>
    if c = '-' then some ([ofSign [c]], .dashes)
    else if Scanner.isBlank c then none
    else do
      let (begun, mode) ← start c
      return (ofSign ['-'] :: ofSign ['-'] :: begun, mode)

/-- The scanner. -/
def machine : Machine Mode Symbol :=
  ⟨step, finish⟩

end Symbol

/-- The symbols of a text, unless it is refused. -/
def symbols? (text : String) : Option (List Symbol) :=
  Symbol.machine.scan .between text.toList

example : symbols? "\x60t\x60.or=-1.5 or(b like 'it''s \\' or')" =
    some [.word "\x60t\x60.or", .sign "=", .sign "-", .word "1.5", .word "or", .sign "(",
      .word "b", .word "like", .quoted "'it''s \\' or'", .sign ")"] := by
  decide

example : symbols? "a = 1.5or b" = none ∧ symbols? "a = 1 -- b" = none ∧
    symbols? "a = 1 # b" = none ∧ (symbols? "a = 5--3").isSome := by
  decide

end Criteria.Sql
