/-
# `Criteria.Proofs.PageCap` — how many rows a page may have

## What is proved

A configuration that limits the size of pages limits every page that asks for
a number of rows, or asks for none and is given a default: the clause that is
compiled, read as a server reads it, shows at least one row and at most as
many as the configuration allows (`compilePage_within_max`).

## Where the limit ends

Three places read a size of 0, and each in its own way: the configuration as
no limit, a page as all rows, and the lesser of two sizes as the lesser.  So
a page of size 0 is a page with all rows, whatever the limit
(`page_of_size_zero_unlimited`), and the theorem says of it that it has no
clause.
-/
import Criteria.Compiler
import Criteria.Proofs.Scanning
import Criteria.Sql.Limit

namespace Criteria

open Sql

/-! ## Reading the clause -/

namespace Sql.Scanner

variable {rest : List Char}

theorem scan_digits {cs read : List Char} (hcs : ∀ c ∈ cs, c.isDigit) :
    scan (.number read) (cs ++ rest) = scan (.number (read ++ cs)) rest := by
  rw [scan_eq, scan_eq]
  exact Machine.scan_of_readOn Mode.number fun c hc read => by simp [machine, step, hcs c hc]

end Sql.Scanner

namespace Sql

/-- The digits of a number are one token. -/
theorem tokens?_repr (n : Nat) : tokens? n.repr = some [.number n.repr] := by
  have hdigits : ∀ c ∈ n.repr.toList, c.isDigit := fun c hc =>
    Nat.isDigit_of_mem_toDigits (by decide) (by decide) (Nat.toList_repr ▸ hc)
  have hne : n.repr.toList ≠ [] := Nat.toList_repr ▸ Nat.toDigits_ne_nil
  obtain ⟨first, others, hcons⟩ := List.exists_cons_of_ne_nil hne
  rw [hcons] at hdigits
  have hfirst : first.isDigit := hdigits first List.mem_cons_self
  have hstep : Scanner.step .between first = some ([], .number [first]) := by
    simp [Scanner.step, Scanner.start, Scanner.isWordStart_of_isDigit hfirst, hfirst]
  have hothers : Scanner.scan (.number [first]) (others ++ []) =
      Scanner.scan (.number (first :: others)) [] :=
    Scanner.scan_digits fun c hc => hdigits c (List.mem_cons_of_mem _ hc)
  rw [List.append_nil] at hothers
  rw [tokens?, hcons, Scanner.scan_cons_of_step hstep, hothers]
  rw [Scanner.scan, Scanner.finish, ← hcons, String.ofList_toList]
  rfl

namespace Limit

@[simp] theorem numeral_repr (n : Nat) : numeral n.repr = n := by
  simp [numeral, Nat.ofDigitChars_toDigits]

/-- The clause that a dialect writes is read as the rows it was written for. -/
theorem ofText?_limit (dialect : Dialect) (offset count : Nat) :
    ofText? (dialect.limit offset count) = some { offset, count } := by
  cases dialect with
  | mysql =>
      have hword : Closed "LIMIT " [.word "LIMIT"] := closed_of_run rfl
      have hcount := closed_comma.tokens?_append (tokens?_repr count)
      have hnumbers := tokens?_append (tokens?_repr offset) hcount (by simp)
      have htokens := hword.tokens?_append hnumbers
      have hlimit : Text.upper "LIMIT" = "LIMIT" := by decide
      simp [Dialect.limit, ofText?, String.append_assoc, htokens, ofNumbers?, hlimit]

theorem ne_empty_of_ofText? {clause : String} {limit : Limit} (h : ofText? clause = some limit) :
    clause ≠ "" := by
  have hempty : ofText? "" = none := rfl
  rintro rfl
  rw [hempty] at h
  nomatch h

end Limit

end Sql

/-! ## The size of a page -/

namespace PageSizes

variable {sizes : PageSizes} {requested : Option UInt64}

/-- The size that is asked for, or the default where none is. -/
def wanted (sizes : PageSizes) (requested : Option UInt64) : UInt64 :=
  requested.getD sizes.default

theorem toNat_effective (hmax : 0 < sizes.max) :
    (sizes.effective requested).toNat = min (sizes.wanted requested).toNat sizes.max.toNat := by
  rw [effective, if_pos hmax, Word.toNat_min, wanted]

end PageSizes

namespace Compiler

variable {c : Compiler} {input : PageInput}

/-- The clause of a page that is active: none for a size of 0. -/
theorem compilePage_of_active (hactive : input.active ≠ some false) :
    c.compilePage input =
      .ok ⟨if c.config.pageSizes.effective input.size ≠ 0 then
        c.dialect.limit (input.toPageWithin c.config.pageSizes).offset.toNat
          (c.config.pageSizes.effective input.size).toNat
      else "", []⟩ := by
  have hactive : input.active.getD true = true := by
    match h : input.active with
    | none => rfl
    | some true => rfl
    | some false => exact absurd h hactive
  have hcompiled : c.compilePage input =
      .ok ⟨if input.active.getD true ∧ c.config.pageSizes.effective input.size ≠ 0 then
        c.dialect.limit (input.toPageWithin c.config.pageSizes).offset.toNat
          (c.config.pageSizes.effective input.size).toNat
      else "", []⟩ := rfl
  simp only [hcompiled, hactive, true_and]

/-- Where a configuration limits the size of pages, an active page of a size other than 0 shows at
least one row and no more rows than the configuration allows; one of size 0 has no clause. -/
theorem compilePage_within_max (c : Compiler) (input : PageInput)
    (hmax : 0 < c.config.pageSizes.max) (hactive : input.active ≠ some false) :
    (c.config.pageSizes.wanted input.size ≠ 0 →
      ∃ clause limit, c.compilePage input = .ok ⟨clause, []⟩ ∧ clause ≠ "" ∧
        Limit.ofText? clause = some limit ∧
        limit.count =
          min (c.config.pageSizes.wanted input.size).toNat c.config.pageSizes.max.toNat ∧
        1 ≤ limit.count ∧ limit.count ≤ c.config.pageSizes.max.toNat) ∧
    (c.config.pageSizes.wanted input.size = 0 → c.compilePage input = .ok ⟨"", []⟩) := by
  have hsize : (c.config.pageSizes.effective input.size).toNat =
      min (c.config.pageSizes.wanted input.size).toNat c.config.pageSizes.max.toNat :=
    PageSizes.toNat_effective hmax
  have hmax : 0 < c.config.pageSizes.max.toNat := UInt64.lt_iff_toNat_lt.mp hmax
  have hcompiled := compilePage_of_active (c := c) hactive
  refine ⟨fun hwanted => ?_, fun hwanted => ?_⟩
  · have hwanted : (c.config.pageSizes.wanted input.size).toNat ≠ 0 := fun h =>
      hwanted (UInt64.toNat_inj.mp h)
    have hne : c.config.pageSizes.effective input.size ≠ 0 := fun h => by
      have hzero : (c.config.pageSizes.effective input.size).toNat = 0 := by rw [h]; rfl
      omega
    rw [if_pos hne] at hcompiled
    have hread := Limit.ofText?_limit c.dialect
      (input.toPageWithin c.config.pageSizes).offset.toNat
      (c.config.pageSizes.effective input.size).toNat
    refine ⟨_, _, hcompiled, Limit.ne_empty_of_ofText? hread, hread, hsize, ?_, ?_⟩
    · show 1 ≤ (c.config.pageSizes.effective input.size).toNat
      omega
    · show (c.config.pageSizes.effective input.size).toNat ≤ c.config.pageSizes.max.toNat
      omega
  · have hzero : c.config.pageSizes.effective input.size = 0 := by
      rw [← UInt64.toNat_inj, hsize, hwanted]
      exact Nat.zero_min _
    rw [hcompiled, hzero]
    rfl

/-- A request for a thousand rows where a page may have a hundred. -/
theorem compilePage_within_max_of_large_request :
    let c : Compiler := ⟨{ pageSizes := { default := 20, max := 100 } }, .mysql, .plain⟩
    let input : PageInput := { number := some 3, size := some 1000 }
    0 < c.config.pageSizes.max ∧ input.active ≠ some false ∧
      ∃ clause limit, c.compilePage input = .ok ⟨clause, []⟩ ∧ clause ≠ "" ∧
        Limit.ofText? clause = some limit ∧ limit.count = 100 ∧ 1 ≤ limit.count ∧
        limit.count ≤ 100 :=
  ⟨by decide, by decide, (compilePage_within_max
    ⟨{ pageSizes := { default := 20, max := 100 } }, .mysql, .plain⟩
    { number := some 3, size := some 1000 } (by decide) (by decide)).1 (by decide)⟩

/-- The configuration allows one row on a page and breaks no rule, and a page of size 0 is
compiled to no clause at all. -/
theorem page_of_size_zero_unlimited :
    ∃ c : Compiler, Compiler.ofConfig { pageSizes := { default := 1, max := 1 } } = .ok c ∧
      0 < c.config.pageSizes.max ∧ c.compilePage { size := some 0 } = .ok ⟨"", []⟩ :=
  ⟨⟨{ pageSizes := { default := 1, max := 1 } }, .mysql, .plain⟩, by rfl, by decide, by rfl⟩

end Compiler

end Criteria
