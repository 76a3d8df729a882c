/-
TOML strings.

There are four kinds: between single or double quotes, and of one line or
of many.  A backslash begins an escape between double quotes only.  Control
characters other than the tab may not stand in a string, but lines may end
in one of many lines, with or without a carriage return.
-/
import Criteria.Text.Hex

namespace Criteria.Toml

/-- A character that may stand in a string or a comment. -/
def isPlain (c : Char) : Bool :=
  c = '\t' || (0x20 ≤ c.toNat && c.toNat ≠ 0x7F)

/-- The end of a line at the start of a text, and what follows it. -/
def lineEnd? : List Char → Option (List Char)
  | '\n' :: rest => some rest
  | '\x0d' :: '\n' :: rest => some rest
  | _ => none

/-- The character with a code point that is no surrogate. -/
def charOf? (code : Nat) : Option Char :=
  if code.isValidChar then some (Char.ofNat code) else none

/-- Reads an escape after its backslash. -/
def spanEscape : List Char → Option (Char × List Char)
  | 'b' :: rest => some ('\x08', rest)
  | 't' :: rest => some ('\t', rest)
  | 'n' :: rest => some ('\n', rest)
  | 'f' :: rest => some ('\x0c', rest)
  | 'r' :: rest => some ('\x0d', rest)
  | 'e' :: rest => some ('\x1b', rest)
  | '"' :: rest => some ('"', rest)
  | '\\' :: rest => some ('\\', rest)
  | 'x' :: rest => coded 2 rest
  | 'u' :: rest => coded 4 rest
  | 'U' :: rest => coded 8 rest
  | _ => none
where
  /-- A character given by the digits of its code point. -/
  coded (width : Nat) (cs : List Char) : Option (Char × List Char) :=
    let digits := cs.take width
    if digits.length = width then
      ((Text.hexNumber? digits).bind charOf?).map (·, cs.drop width)
    else none

/-- Reads a string of one line up to its closing quote. -/
def spanLine (quote : Char) : Nat → List Char → List Char → Option (String × List Char)
  | 0, _, _ => none
  | fuel + 1, seen, cs =>
    match cs with
    | [] => none
    | c :: rest =>
      if c = quote then some (String.ofList seen.reverse, rest)
      else if c = '\\' ∧ quote = '"' then
        (spanEscape rest).bind fun (meant, rest) => spanLine quote fuel (meant :: seen) rest
      else if isPlain c then spanLine quote fuel (c :: seen) rest
      else none

/-- Leaves out blanks and line ends. -/
def skipLayout : List Char → List Char
  | ' ' :: rest => skipLayout rest
  | '\t' :: rest => skipLayout rest
  | '\n' :: rest => skipLayout rest
  | '\x0d' :: '\n' :: rest => skipLayout rest
  | cs => cs

/-- What follows a backslash at the end of a line, without the blanks and line ends in front; none
if something else stands between the backslash and the line end. -/
def afterLineBreak? (cs : List Char) : Option (List Char) :=
  (lineEnd? (cs.dropWhile fun c => c = ' ' || c = '\t')).map skipLayout

/-- Reads a string of many lines up to its closing quotes; one or two more quotes in front of them
belong to the string. -/
def spanLines (quote : Char) : Nat → List Char → List Char → Option (String × List Char)
  | 0, _, _ => none
  | fuel + 1, seen, cs =>
    match cs with
    | [] => none
    | c :: rest =>
      if c = quote ∧ rest.take 2 = [quote, quote] then
        let more := ((rest.drop 2).take 2).takeWhile (· = quote)
        some (String.ofList (more ++ seen).reverse, rest.drop (2 + more.length))
      else if c = '\\' ∧ quote = '"' then
        match afterLineBreak? rest with
        | some rest => spanLines quote fuel seen rest
        | none =>
          (spanEscape rest).bind fun (meant, rest) => spanLines quote fuel (meant :: seen) rest
      else if isPlain c ∨ c = '\n' then spanLines quote fuel (c :: seen) rest
      else match lineEnd? (c :: rest) with
        | some rest => spanLines quote fuel ('\n' :: c :: seen) rest
        | none => none

/-- Reads a string of one line that starts with a quote. -/
def spanQuoted : List Char → Option (String × List Char)
  | quote :: rest =>
    if quote = '"' ∨ quote = '\x27' then spanLine quote (rest.length + 1) [] rest else none
  | [] => none

/-- Reads a string of any kind that starts with a quote; the first line end of a string of many
lines is no part of it. -/
def spanString (cs : List Char) : Option (String × List Char) :=
  match cs with
  | a :: b :: c :: rest =>
    if (a = '"' ∨ a = '\x27') ∧ b = a ∧ c = a then
      let rest := (lineEnd? rest).getD rest
      spanLines a (rest.length + 1) [] rest
    else spanQuoted cs
  | _ => spanQuoted cs

end Criteria.Toml
