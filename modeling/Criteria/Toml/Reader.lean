/-
Reading TOML.

A document is read line by line: a line opens a table, adds a value to the
table that is open, or holds nothing but a comment.  Arrays and tables
between braces may spread over lines, and may be nested to 80 levels; a key
has at most 80 parts.
-/
import Criteria.Toml.Number
import Criteria.Toml.Text

namespace Criteria.Toml

/-- Reads a part of a text and leaves the rest. -/
abbrev Scan (α : Type) := StateT (List Char) Option α

namespace Scan

/-- The next character, which stays where it is. -/
def peek : Scan (Option Char) := do
  return (← get).head?

/-- Steps over one character. -/
def skip : Scan Unit :=
  modify List.tail

/-- Steps over blanks. -/
def blanks : Scan Unit :=
  modify (·.dropWhile fun c => c = ' ' || c = '\t')

/-- Reads a given character. -/
def char (c : Char) : Scan Unit := do
  if (← peek) = some c then skip else failure

/-- Reads with a function on texts. -/
def span {α : Type} (read : List Char → Option (α × List Char)) : Scan α :=
  read

/-- Reads a comment up to the end of its line, if there is one. -/
def comment : Scan Unit := do
  if (← peek) = some '#' then
    modify (·.dropWhile isPlain)

/-- Reads the end of a line, which the end of the text is too. -/
def lineEnd : Scan Unit := do
  let cs ← get
  if cs.isEmpty then return
  set (← lineEnd? cs)

/-- Reads what may stand behind a value on its line. -/
def restOfLine : Scan Unit := do
  blanks
  comment
  lineEnd

/-- Steps over blanks, comments and line ends; `fuel` bounds their number. -/
def layout : Nat → Scan Unit
  | 0 => failure
  | fuel + 1 => do
    blanks
    comment
    match lineEnd? (← get) with
    | some rest =>
      set rest
      layout fuel
    | none => return

/-- A character of a key without quotes. -/
def isKeyChar (c : Char) : Bool :=
  c.isAlphanum || c = '_' || c = '-'

/-- Reads a part of a key. -/
def keyPart : Scan String := do
  match ← peek with
  | some '"' | some '\x27' => span spanQuoted
  | _ =>
    let cs ← get
    let key := cs.takeWhile isKeyChar
    if key.isEmpty then failure
    set (cs.drop key.length)
    return String.ofList key

/-- The levels of arrays and tables between braces, and the parts of a key. -/
def maxDepth : Nat := 80

/-- Reads parts of a key with points between; at most `limit` of them come before the last. -/
def keyParts : Nat → Scan (List String × String)
  | 0 => do
    let last ← keyPart
    blanks
    if (← peek) = some '.' then failure
    return ([], last)
  | limit + 1 => do
    let first ← keyPart
    blanks
    if (← peek) = some '.' then
      skip
      blanks
      let (path, last) ← keyParts limit
      return (first :: path, last)
    else return ([], first)

/-- Reads a key. -/
def key : Scan (List String × String) :=
  keyParts (maxDepth - 1)

/-- A character that ends a value without quotes. -/
def isBareEnd (c : Char) : Bool :=
  [' ', '\t', '\n', '\x0d', '#', '=', ',', '[', ']', '\x7b', '\x7d'].contains c

/-- Reads a value without quotes; a date and a time may have one space between. -/
def bare : Scan Toml := do
  let cs ← get
  let first := cs.takeWhile (!isBareEnd ·)
  let rest := cs.drop first.length
  let isDate := first.length = 10 && (first.drop 4).head? = some '-'
  let second := match rest with
    | ' ' :: c :: more =>
      if isDate && c.isDigit then ' ' :: (c :: more).takeWhile (!isBareEnd ·) else []
    | _ => []
  set (rest.drop second.length)
  bareOf? (first ++ second)

mutual

/-- Reads a value at a level. -/
def value (depth : Nat) : Nat → Scan Toml
  | 0 => failure
  | fuel + 1 => do
    match ← peek with
    | some '"' | some '\x27' => return .string (← span spanString)
    | some '[' =>
      if depth = maxDepth then failure
      skip
      return .array (← items (depth + 1) fuel) false
    | some '\x7b' =>
      if depth = maxDepth then failure
      skip
      return .table .inline (← entries (depth + 1) fuel [])
    | _ => bare

/-- Reads the items of an array up to its closing bracket. -/
def items (depth : Nat) : Nat → Scan (List Toml)
  | 0 => failure
  | fuel + 1 => do
    layout fuel
    if (← peek) = some ']' then
      skip
      return []
    let item ← value depth fuel
    layout fuel
    if (← peek) = some ',' then
      skip
      return item :: (← items depth fuel)
    char ']'
    return [item]

/-- Reads the entries of a table up to its closing brace. -/
def entries (depth : Nat) : Nat → Entries → Scan Entries
  | 0, _ => failure
  | fuel + 1, seen => do
    layout fuel
    if (← peek) = some '\x7d' then
      skip
      return seen
    let (path, last) ← key
    layout fuel
    char '='
    layout fuel
    let item ← value depth fuel
    let seen ← insertAt path last item seen
    layout fuel
    if (← peek) = some ',' then
      skip
      entries depth fuel seen
    else
      char '\x7d'
      return seen

end

/-- The tables read so far, and the path of the one that is open. -/
structure Document where
  entries : Entries
  opened : List String

/-- Reads the header of a table after its first bracket. -/
def header (doc : Document) : Scan Document := do
  let ofArray := (← peek) = some '['
  if ofArray then skip
  blanks
  let (path, last) ← key
  char ']'
  if ofArray then char ']'
  let add := if ofArray then openArrayItem else openTable
  return ⟨← add path last doc.entries, path ++ [last]⟩

/-- Reads a key and its value. -/
def assignment (fuel : Nat) (doc : Document) : Scan Document := do
  let (path, last) ← key
  char '='
  blanks
  let item ← value 0 fuel
  let entries ← within false doc.opened (fun _ => insertAt path last item) .header doc.entries
  return { doc with entries }

/-- Reads lines up to the end of the text. -/
def lines : Nat → Document → Scan Document
  | 0, _ => failure
  | fuel + 1, doc => do
    layout fuel
    match ← peek with
    | none => return doc
    | some '[' =>
      skip
      let doc ← header doc
      restOfLine
      lines fuel doc
    | some _ =>
      let doc ← assignment fuel doc
      restOfLine
      lines fuel doc

end Scan

/-- Reads a document into the entries of its outermost table; a byte order mark may stand in front.
No part takes more steps than twice the number of characters. -/
def parse? (text : String) : Option Entries := do
  let cs := match text.toList with
    | '\ufeff' :: rest => rest
    | cs => cs
  let (doc, rest) ← (Scan.lines (2 * cs.length + 4) ⟨[], []⟩).run cs
  if rest.isEmpty then some doc.entries else none

end Criteria.Toml
