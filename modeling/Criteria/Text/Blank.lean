/-
Blank characters.

A blank is a character with the Unicode property White_Space.  The words of
a text are the runs of other characters between blanks, and a text is
trimmed by taking the blanks off both of its ends.
-/
import Criteria.Text.CodePoints

namespace Criteria.Text

/-- The code points with the property White_Space. -/
def whiteSpace : CodePoints where
  ranges :=
    [(0x09, 0x0D), (0x20, 0x20), (0x85, 0x85), (0xA0, 0xA0), (0x1680, 0x1680), (0x2000, 0x200A),
      (0x2028, 0x2029), (0x202F, 0x202F), (0x205F, 0x205F), (0x3000, 0x3000)]

/-- A blank character. -/
def isBlank (c : Char) : Bool :=
  whiteSpace.contains c

/-- There are 25 blank characters. -/
example : whiteSpace.size = 25 := by decide

/-- The runs of characters between blanks. -/
def words (text : String) : List String :=
  ((text.toList.splitOnP isBlank).filter fun word => !word.isEmpty).map String.ofList

/-- The text without the blanks at its two ends. -/
def trim (text : String) : String :=
  String.ofList ((text.toList.dropWhile isBlank).reverse.dropWhile isBlank).reverse

example : words "\t is  null\u3000" = ["is", "null"] := by decide
example : trim "\u00a0 a b\n" = "a b" := by decide

end Criteria.Text
