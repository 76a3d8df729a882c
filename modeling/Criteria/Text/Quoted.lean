/-
Texts in quotes, as messages show them.

A quote and a backslash get a backslash in front, and tab, line feed,
carriage return and NUL are written by their letters.  A character that
leaves no mark of its own is written by its code point: one of the category
Other, a blank other than the space, one that extends the character before
it, and a filler, which is a letter without a shape.  The halfwidth sound
marks extend a letter too, but are letters with a place of their own, and
stand as they are.
-/
import Criteria.Text.Blank
import Criteria.Text.Property.Extend
import Criteria.Text.Property.Other

namespace Criteria.Text

/-- The letters without a shape. -/
def fillers : CodePoints where
  ranges := [(0x115F, 0x1160), (0x3164, 0x3164), (0xFFA0, 0xFFA0)]

/-- The letters that extend the one before them from a place of their own. -/
def soundMarks : CodePoints where
  ranges := [(0xFF9E, 0xFF9F)]

/-- A character that leaves no mark of its own. -/
def isHidden (c : Char) : Bool :=
  (c ≠ ' ' && isBlank c) || otherCategory.contains c || fillers.contains c ||
    (graphemeExtend.contains c && !soundMarks.contains c)

/-- The characters that stand for one character of a text. -/
def showChar (c : Char) : List Char :=
  if c = '"' then ['\\', '"']
  else if c = '\\' then ['\\', '\\']
  else if c = '\n' then ['\\', 'n']
  else if c = '\r' then ['\\', 'r']
  else if c = '\t' then ['\\', 't']
  else if c = '\x00' then ['\\', '0']
  else if isHidden c then ['\\', 'u', '\x7b'] ++ Nat.toDigits 16 c.toNat ++ ['\x7d']
  else [c]

/-- A text in quotes. -/
def quoted (text : String) : String :=
  "\"" ++ String.ofList (text.toList.flatMap showChar) ++ "\""

example : quoted "a\"é\n\u200b" = "\"a\\\"é\\n\\u\x7b200b\x7d\"" := by decide +kernel

example : quoted "ｶﾞ\uffa0" = "\"ｶﾞ\\u\x7bffa0\x7d\"" := by decide +kernel

end Criteria.Text
