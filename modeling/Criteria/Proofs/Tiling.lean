/-
# `Criteria.Proofs.Tiling` — pages show every row once

## What is proved

* The rows in front of a page are as many as all pages before it show, in whole
  numbers, up to the greatest signed word (`Page.toNat_offset`).
* The pages of one size show as many rows as there are, up to the greatest
  signed word, each row on one page and no page without a row; and no row is
  behind the last page (`Page.pages_tile`).  It makes no difference whether the
  size is given or comes from a configuration.

## What carries it

Three formulas have to agree: how many rows are left out, how many are shown,
and how many pages there are.  The last is a quotient that is rounded up, of
which one fact is needed, which rounds nothing: there are more than `k` pages
exactly where `k` full pages do not show all rows (`Page.lt_count_iff`).  So no
page that counts comes near the place where words stop, and the page of a row is
found by dividing (`Page.shows_iff`).
-/
import Mathlib.Algebra.Group.Int.Defs
import Mathlib.Algebra.Group.Nat.Defs
import Criteria.Page.OfInput
import Criteria.Page.Window

namespace Criteria.Page

variable {page : Page} {pages : UInt64 → Page} {size rows number : UInt64} {row : Nat}

/-! ## One page -/

theorem toNat_maxOffset : maxOffset.toNat = 2 ^ 63 - 1 := by decide

/-- Words that stop at their ends say the same as whole numbers, of which only the last result
stops. -/
theorem toNat_offset (page : Page) :
    page.offset.toNat = min ((page.number.toNat - 1) * page.size.toNat) (2 ^ 63 - 1) := by
  have hone : (1 : UInt64).toNat = 1 := rfl
  have hword : UInt64.size - 1 = 2 ^ 64 - 1 := rfl
  rw [offset, Word.toNat_min, Word.toNat_saturatingMul, Word.toNat_saturatingSub, toNat_maxOffset,
    hone, hword, Nat.min_assoc]
  rfl

/-- There are more than so many pages where so many full pages do not show all rows. -/
theorem lt_count_iff (hsize : 0 < page.size) {k : Nat} :
    k < (page.count rows).toNat ↔ k * page.size.toNat < rows.toNat := by
  have hne : page.size ≠ 0 := fun h => absurd (h ▸ hsize) (by decide)
  by_cases hrows : rows = 0
  · rw [count, if_pos hrows, hrows]
    simp
  · rw [count, if_neg hrows, if_neg hne]
    exact Word.lt_divCeil_iff hsize

/-- What a page that counts leaves out is not all rows, and so no word stops. -/
theorem offset_of_le_count (hsize : 0 < page.size) (hrows : rows.toNat ≤ 2 ^ 63 - 1)
    (hfirst : 1 ≤ page.number) (hlast : page.number ≤ page.count rows) :
    page.offset.toNat = (page.number.toNat - 1) * page.size.toNat ∧
      page.offset.toNat < rows.toNat := by
  have hfirst : 1 ≤ page.number.toNat := UInt64.le_iff_toNat_le.mp hfirst
  have hlast : page.number.toNat ≤ (page.count rows).toNat := UInt64.le_iff_toNat_le.mp hlast
  have hbelow : (page.number.toNat - 1) * page.size.toNat < rows.toNat :=
    (lt_count_iff hsize).mp (by omega)
  have hoffset := page.toNat_offset
  omega

/-- The page of a row is found by dividing. -/
theorem shows_iff (hsize : 0 < page.size) (hrows : rows.toNat ≤ 2 ^ 63 - 1)
    (hfirst : 1 ≤ page.number) (hlast : page.number ≤ page.count rows) :
    page.Shows row ↔ row / page.size.toNat + 1 = page.number.toNat := by
  have hpos : 0 < page.size.toNat := UInt64.lt_iff_toNat_lt.mp hsize
  have hone : 1 ≤ page.number.toNat := UInt64.le_iff_toNat_le.mp hfirst
  obtain ⟨hoffset, -⟩ := offset_of_le_count hsize hrows hfirst hlast
  rw [Shows, hoffset]
  show (page.number.toNat - 1) * page.size.toNat ≤ row ∧
    row < (page.number.toNat - 1) * page.size.toNat + page.size.toNat ↔ _
  rw [← Nat.succ_mul, ← Nat.le_div_iff_mul_le hpos, ← Nat.div_lt_iff_lt_mul hpos]
  omega

/-! ## All pages of a size -/

/-- Pages of one size, one for each number. -/
structure Series (pages : UInt64 → Page) (size : UInt64) : Prop where
  number : ∀ number, (pages number).number = number
  size : ∀ number, (pages number).size = size

namespace Series

theorem count (h : Series pages size) (number : UInt64) :
    (pages number).count rows = (pages 1).count rows := by
  rw [Page.count, Page.count, h.size, h.size]

theorem lt_count_iff (h : Series pages size) (hsize : 0 < size) {k : Nat} :
    k < ((pages 1).count rows).toNat ↔ k * size.toNat < rows.toNat := by
  have hpage : 0 < (pages 1).size := (h.size 1).symm ▸ hsize
  rw [Page.lt_count_iff hpage, h.size]

theorem shows_iff (h : Series pages size) (hsize : 0 < size) (hrows : rows.toNat ≤ 2 ^ 63 - 1)
    (hfirst : 1 ≤ number) (hlast : number ≤ (pages 1).count rows) :
    (pages number).Shows row ↔ row / size.toNat + 1 = number.toNat := by
  have hshows : (pages number).Shows row ↔
      row / (pages number).size.toNat + 1 = (pages number).number.toNat :=
    Page.shows_iff ((h.size number).symm ▸ hsize) hrows ((h.number number).symm ▸ hfirst)
      (by rwa [h.number, h.count])
  rwa [h.size, h.number] at hshows

theorem exists_unique_shows (h : Series pages size) (hsize : 0 < size)
    (hrows : rows.toNat ≤ 2 ^ 63 - 1) (hrow : row < rows.toNat) :
    ∃! number, (1 ≤ number ∧ number ≤ (pages 1).count rows) ∧ (pages number).Shows row := by
  have hbelow : row / size.toNat < ((pages 1).count rows).toNat :=
    (h.lt_count_iff hsize).mpr (Nat.lt_of_le_of_lt (Nat.div_mul_le_self row size.toNat) hrow)
  have hword : ((pages 1).count rows).toNat < 2 ^ 64 := UInt64.toNat_lt _
  obtain ⟨number, hnumber⟩ : ∃ number : UInt64, number.toNat = row / size.toNat + 1 :=
    ⟨.ofNat _, UInt64.toNat_ofNat_of_lt' (show row / size.toNat + 1 < 2 ^ 64 by omega)⟩
  have hfirst : 1 ≤ number := UInt64.le_iff_toNat_le.mpr (hnumber ▸ Nat.le_add_left 1 _)
  have hlast : number ≤ (pages 1).count rows := UInt64.le_iff_toNat_le.mpr (hnumber ▸ hbelow)
  refine ⟨number, ⟨⟨hfirst, hlast⟩, ?_⟩, ?_⟩
  · exact (h.shows_iff hsize hrows hfirst hlast).mpr hnumber.symm
  · rintro other ⟨⟨hfirst, hlast⟩, hother⟩
    have hsame := (h.shows_iff hsize hrows hfirst hlast).mp hother
    exact UInt64.toNat_inj.mp (hsame.symm.trans hnumber.symm)

/-- The pages of one size show all rows, each of them once. -/
theorem tile (h : Series pages size) (hsize : 0 < size) (hrows : rows.toNat ≤ 2 ^ 63 - 1) :
    Tile pages rows ((pages 1).count rows) where
  count := h.count
  disjoint := by
    intro a b hfirst hlast hfirst' hlast' hab row hrow hrow'
    have hsame : a.toNat = b.toNat :=
      ((h.shows_iff hsize hrows hfirst hlast).mp hrow).symm.trans
        ((h.shows_iff hsize hrows hfirst' hlast').mp hrow')
    exact hab (UInt64.toNat_inj.mp hsame)
  covered := fun row hrow => h.exists_unique_shows hsize hrows hrow
  inhabited := by
    intro number hfirst hlast
    have hpage : 0 < (pages number).size := (h.size number).symm ▸ hsize
    obtain ⟨-, hbelow⟩ := offset_of_le_count hpage hrows ((h.number number).symm ▸ hfirst)
      (by rwa [h.number, h.count])
    have hlimit : 0 < (pages number).limit.toNat := UInt64.lt_iff_toNat_lt.mp hpage
    exact ⟨(pages number).offset.toNat, hbelow, Nat.le_refl _, Nat.lt_add_of_pos_right hlimit⟩
  beyond := by
    intro number hlast
    have hlast : ((pages 1).count rows).toNat < number.toNat := UInt64.lt_iff_toNat_lt.mp hlast
    have hall : rows.toNat ≤ (number.toNat - 1) * size.toNat := by
      refine Nat.le_of_not_lt fun hbelow => ?_
      have := (h.lt_count_iff hsize).mpr hbelow
      omega
    rw [toNat_offset, h.number, h.size]
    exact Nat.le_min.mpr ⟨hall, hrows⟩

end Series

/-- In front of a page are the rows of all pages before it, up to the greatest signed word; and up
to so many rows are shown by the pages of one size, each row once, whether the size is given or is
what a configuration makes of what is asked for. -/
theorem pages_tile :
    (∀ page : Page, (page.offset.toNat : Int) =
      min (max 0 ((page.number.toNat : Int) - 1) * page.size.toNat) (2 ^ 63 - 1)) ∧
    (∀ size rows : UInt64, 0 < size → rows.toNat ≤ 2 ^ 63 - 1 →
      ∃ last, Tile (fun number => { number, size }) rows last) ∧
    ∀ (sizes : PageSizes) (input : PageInput) (rows : UInt64),
      0 < sizes.effective input.size → rows.toNat ≤ 2 ^ 63 - 1 →
      ∃ last, Tile (fun number => { input with number := some number }.toPageWithin sizes)
        rows last := by
  refine ⟨?_, ?_, ?_⟩
  · intro page
    have hbefore :
        max 0 ((page.number.toNat : Int) - 1) = ((page.number.toNat - 1 : Nat) : Int) := by
      omega
    rw [toNat_offset, hbefore, ← Int.natCast_mul]
    omega
  · intro size rows hsize hrows
    have hseries : Series (fun number => { number, size }) size := ⟨fun _ => rfl, fun _ => rfl⟩
    exact ⟨_, hseries.tile hsize hrows⟩
  · intro sizes input rows hsize hrows
    have hseries : Series (fun number => { input with number := some number }.toPageWithin sizes)
        (sizes.effective input.size) := ⟨fun _ => rfl, fun _ => rfl⟩
    exact ⟨_, hseries.tile hsize hrows⟩

/-- Thirty rows are asked for where a page may have ten: twenty-five rows are on three pages.  The
last page that can be asked for leaves out as many rows as can be. -/
theorem pages_tile_of_large_request :
    let sizes : PageSizes := { default := 20, max := 10 }
    let input : PageInput := { size := some 30 }
    let last : Page := { number := 18446744073709551615, size := 18446744073709551615 }
    0 < sizes.effective input.size ∧ (25 : UInt64).toNat ≤ 2 ^ 63 - 1 ∧
      Tile (fun number => { input with number := some number }.toPageWithin sizes) 25 3 ∧
      (last.offset.toNat : Int) = 9223372036854775807 := by
  intro sizes input last
  obtain ⟨hoffset, -, htile⟩ := pages_tile
  have hsize : 0 < sizes.effective input.size := by decide
  have hrows : (25 : UInt64).toNat ≤ 2 ^ 63 - 1 := by decide
  obtain ⟨count, h⟩ := htile sizes input 25 hsize hrows
  have hcount : count = 3 := (h.count 1).symm.trans (by decide)
  exact ⟨hsize, hrows, hcount ▸ h, (hoffset last).trans (by decide)⟩

end Criteria.Page
