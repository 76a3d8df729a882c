/-
Canonical decimals.

A whole number has one canonical decimal: its digits without a zero in front,
except that zero is one zero, and with a minus in front of them when it is
negative.  This is said of a text by the digits in it, not by what writes them.
-/
import Criteria.Number.Decimal

namespace Criteria

/-- The characters are the digits of a number, without a zero in front of others. -/
structure IsNumeral (cs : List Char) (n : Nat) : Prop where
  nonempty : cs ≠ []
  digits : ∀ c ∈ cs, c.isDigit
  leading : cs.head? = some '0' → cs = ['0']
  value : Numeral.ofDigits (cs.map Numeral.digitValue) = n

/-- The characters are the canonical decimal of a number. -/
inductive IsDecimal : List Char → Int → Prop
  | natural {cs : List Char} {n : Nat} : IsNumeral cs n → IsDecimal cs n
  | negative {cs : List Char} {n : Nat} : n ≠ 0 → IsNumeral cs n → IsDecimal ('-' :: cs) (-n)

end Criteria
