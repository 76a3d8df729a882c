/-
The rows of pages.

Rows are numbered from 0 here, and pages from 1 as everywhere.  A page shows
the rows behind those that it leaves out, as many as its size says.  The pages
of one size are to show each row once, without an end to the row numbers: how
far a page reaches is said in whole numbers that do not stop.
-/
import Mathlib.Logic.ExistsUnique
import Criteria.Page.Basic

namespace Criteria.Page

/-- The row with a number is on the page. -/
def Shows (page : Page) (row : Nat) : Prop :=
  page.offset.toNat ≤ row ∧ row < page.offset.toNat + page.limit.toNat

/-- The pages with the numbers from 1 to the last show a number of rows, each of them once. -/
structure Tile (pages : UInt64 → Page) (rows last : UInt64) : Prop where
  /-- Every page knows how many there are. -/
  count : ∀ number, (pages number).count rows = last
  /-- No row is on two pages. -/
  disjoint : ∀ a b, 1 ≤ a → a ≤ last → 1 ≤ b → b ≤ last → a ≠ b →
    ∀ row, (pages a).Shows row → ¬(pages b).Shows row
  /-- Every row is on one page. -/
  covered : ∀ row < rows.toNat, ∃! number, (1 ≤ number ∧ number ≤ last) ∧ (pages number).Shows row
  /-- Every page has a row. -/
  inhabited : ∀ number, 1 ≤ number → number ≤ last → ∃ row < rows.toNat, (pages number).Shows row
  /-- All rows are in front of the pages behind the last. -/
  beyond : ∀ number, last < number → rows.toNat ≤ (pages number).offset.toNat

end Criteria.Page
