/-
Whole numbers of 64 bits.

A number written without a point or an exponent is kept to its last digit
when it fits 64 bits, with a sign or without one.
-/
namespace Criteria

/-- A whole number that fits 64 bits, with a sign or without one. -/
structure WideInt where
  value : Int
  least_le : -9223372036854775808 ≤ value
  lt_greatest : value < 18446744073709551616
deriving DecidableEq

namespace WideInt

/-- The number, if it fits. -/
def ofInt? (n : Int) : Option WideInt :=
  if h : -9223372036854775808 ≤ n ∧ n < 18446744073709551616 then some ⟨n, h.1, h.2⟩ else none

/-- The number of an unsigned word. -/
def ofUInt64 (n : UInt64) : WideInt where
  value := n.toNat
  least_le := by omega
  lt_greatest := by
    have := n.toNat_lt
    omega

/-- The number as an unsigned word; none when it is negative. -/
def toUInt64? (n : WideInt) : Option UInt64 :=
  if n.value < 0 then none else some (.ofNat n.value.toNat)

end WideInt

end Criteria
