/-
Pages.

Rows are shown in pages of one size, the first of which is number 1.  Page
numbers and sizes are words of 64 bits, and the count of rows before a page
stops at the greatest signed word.  A size of 0 means that there is only
one page, with all rows.
-/
import Criteria.Expression
import Criteria.Number.Word

namespace Criteria

/-- A page of rows. -/
structure Page where
  active : Bool := true
  number : UInt64 := 1
  size : UInt64 := 0
deriving DecidableEq

namespace Page

/-- The greatest number of rows that can be left out. -/
def maxOffset : UInt64 := Int64.maxValue.toUInt64

/-- The number of rows on a page. -/
def limit (page : Page) : UInt64 :=
  page.size

/-- The number of rows before the page; none are before page 0, as before page 1. -/
def offset (page : Page) : UInt64 :=
  min (Word.saturatingMul (Word.saturatingSub page.number 1) page.size) maxOffset

/-- The number of pages that hold the given number of rows. -/
def count (page : Page) (rows : UInt64) : UInt64 :=
  if rows = 0 then 0
  else if page.size = 0 then 1
  else Word.divCeil rows page.size

instance : Expression Page where
  isActive page := page.active
  condition? _ := none
  compile page writer :=
    .ok (if page.active ∧ page.limit ≠ 0 then
      writer.context.dialect.limit page.offset.toNat page.limit.toNat
    else "", writer)

end Page

end Criteria
