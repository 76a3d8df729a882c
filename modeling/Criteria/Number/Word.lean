/-
Arithmetic on words that stops at the ends.

A difference below zero is zero, and a product above the greatest word is
that word.
-/
namespace Criteria.Word

/-- The difference, or zero when it is below zero. -/
def saturatingSub (a b : UInt64) : UInt64 :=
  if b ≤ a then a - b else 0

/-- The product, or the greatest word when it is above that. -/
def saturatingMul (a b : UInt64) : UInt64 :=
  if a.toNat * b.toNat < UInt64.size then a * b else .ofNat (UInt64.size - 1)

/-- The quotient, one more when there is a remainder. -/
def divCeil (a b : UInt64) : UInt64 :=
  if a % b = 0 then a / b else a / b + 1

theorem toNat_saturatingSub (a b : UInt64) : (saturatingSub a b).toNat = a.toNat - b.toNat := by
  unfold saturatingSub
  split
  · next h => exact UInt64.toNat_sub_of_le _ _ h
  · next h =>
    have : a.toNat < b.toNat := by simpa [UInt64.le_iff_toNat_le] using h
    simp
    omega

theorem toNat_saturatingMul (a b : UInt64) :
    (saturatingMul a b).toNat = min (a.toNat * b.toNat) (UInt64.size - 1) := by
  unfold saturatingMul
  split
  · next h =>
    rw [UInt64.toNat_mul, Nat.mod_eq_of_lt h]
    exact (Nat.min_eq_left (Nat.le_sub_one_of_lt h)).symm
  · next h =>
    rw [Nat.min_eq_right (Nat.le_trans (Nat.sub_le _ 1) (Nat.le_of_not_lt h))]
    rfl

theorem toNat_min (a b : UInt64) : (min a b).toNat = min a.toNat b.toNat := by
  by_cases h : a ≤ b
  · rw [Nat.min_eq_left (UInt64.le_iff_toNat_le.mp h)]
    exact congrArg UInt64.toNat (if_pos h)
  · rw [Nat.min_eq_right (Nat.le_of_not_le fun hle => h (UInt64.le_iff_toNat_le.mpr hle))]
    exact congrArg UInt64.toNat (if_neg h)

theorem toNat_divCeil {a b : UInt64} (hb : 0 < b) :
    (divCeil a b).toNat = (a.toNat + (b.toNat - 1)) / b.toNat := by
  have hb : 0 < b.toNat := UInt64.lt_iff_toNat_lt.mp hb
  have hrest : (a % b).toNat = a.toNat % b.toNat := UInt64.toNat_mod a b
  have hquotient : (a / b).toNat = a.toNat / b.toNat := UInt64.toNat_div a b
  have hparts : a.toNat / b.toNat * b.toNat + a.toNat % b.toNat = a.toNat := Nat.div_add_mod' _ _
  have hbelow : a.toNat % b.toNat < b.toNat := Nat.mod_lt _ hb
  unfold divCeil
  split
  · next h =>
      have hzero : a.toNat % b.toNat = 0 := by rw [← hrest, h]; rfl
      rw [hquotient]
      refine (Nat.div_eq_of_lt_le ?_ ?_).symm
      · omega
      · rw [Nat.succ_mul]
        omega
  · next h =>
      have hne : a.toNat % b.toNat ≠ 0 := fun hzero => h (UInt64.toNat_inj.mp (hrest.trans hzero))
      -- Only a quotient by 1 could be the greatest word, and that has no remainder.
      have hhalf : a.toNat / b.toNat ≤ a.toNat / 2 := Nat.div_le_div_left (by omega) (by decide)
      have hword : a.toNat < 2 ^ 64 := UInt64.toNat_lt a
      have hsucc : (a / b + 1).toNat = a.toNat / b.toNat + 1 := by
        rw [UInt64.toNat_add, hquotient]
        exact Nat.mod_eq_of_lt (show a.toNat / b.toNat + 1 < 2 ^ 64 by omega)
      rw [hsucc]
      refine (Nat.div_eq_of_lt_le ?_ ?_).symm
      · rw [Nat.succ_mul]
        omega
      · rw [Nat.succ_mul, Nat.succ_mul]
        omega

/-- The quotient that is rounded up counts the multiples below. -/
theorem lt_divCeil_iff {a b : UInt64} (hb : 0 < b) {k : Nat} :
    k < (divCeil a b).toNat ↔ k * b.toNat < a.toNat := by
  have hpos : 0 < b.toNat := UInt64.lt_iff_toNat_lt.mp hb
  rw [toNat_divCeil hb, Nat.lt_iff_add_one_le, Nat.le_div_iff_mul_le hpos, Nat.succ_mul]
  omega

end Criteria.Word
