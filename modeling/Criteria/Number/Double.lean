/-
Double precision numbers, held exactly.

A finite double is a sign, a whole significand and a power of two, in the
one canonical form that IEEE 754 gives it: at most 53 bits, all 53 used
unless the power is the least one.  A fraction is rounded to the nearest
double, to the even one when two are equally near; products and
quotients are rounded once from their exact values.
-/
namespace Criteria

namespace Double

/-- The bits of a significand. -/
def precision : Nat := 53

/-- The least significand that uses all bits. -/
def leastNormal : Nat := Nat.pow 2 (precision - 1)

/-- The least power of two a significand is multiplied by. -/
def leastPower : Int := -1074

/-- The greatest power of two a significand is multiplied by. -/
def greatestPower : Int := 971

/-- The one form in which `significand * 2 ^ power` is held. -/
def IsCanonical (significand : Nat) (power : Int) : Prop :=
  significand < 2 * leastNormal ∧ leastPower ≤ power ∧ power ≤ greatestPower ∧
    (leastNormal ≤ significand ∨ power = leastPower)

instance (significand : Nat) (power : Int) : Decidable (IsCanonical significand power) := by
  unfold IsCanonical
  infer_instance

end Double

/-- A finite double: plus or minus `significand * 2 ^ power`. -/
structure FiniteDouble where
  negative : Bool
  significand : Nat
  power : Int
  canonical : Double.IsCanonical significand power
deriving DecidableEq

/-- A double: finite, infinite or not a number. -/
inductive Double where
  | finite (value : FiniteDouble)
  | infinity (negative : Bool)
  | nan
deriving DecidableEq

/-- A fraction with a positive denominator. -/
structure Ratio where
  num : Nat
  den : Nat
  den_pos : 0 < den := by decide

namespace Ratio

/-- The whole number `n` times `2 ^ power`. -/
def scaled (n : Nat) (power : Int) : Ratio where
  num := n * Nat.pow 2 power.toNat
  den := Nat.pow 2 (-power).toNat
  den_pos := Nat.two_pow_pos _

/-- The whole number `n` times `10 ^ power`. -/
def decimal (n : Nat) (power : Int) : Ratio where
  num := n * Nat.pow 10 power.toNat
  den := Nat.pow 10 (-power).toNat
  den_pos := Nat.pow_pos (by decide)

/-- The product of two fractions. -/
def mul (a b : Ratio) : Ratio where
  num := a.num * b.num
  den := a.den * b.den
  den_pos := Nat.mul_pos a.den_pos b.den_pos

/-- The quotient of two fractions; what is divided by zero stays as it is. -/
def div (a b : Ratio) : Ratio :=
  if h : b.num = 0 then a
  else ⟨a.num * b.den, a.den * b.num, Nat.mul_pos a.den_pos (Nat.pos_of_ne_zero h)⟩

/-- The first fraction is less than the second. -/
def lt (a b : Ratio) : Bool :=
  a.num * b.den < b.num * a.den

/-- The whole part. -/
def floor (a : Ratio) : Nat :=
  a.num / a.den

/-- The nearest whole number, the even one when two are equally near. -/
def roundEven (a : Ratio) : Nat :=
  let whole := a.floor
  let rest := 2 * (a.num % a.den)
  if rest < a.den then whole
  else if a.den < rest then whole + 1
  else whole + whole % 2

/-- The greatest `e` with `2 ^ e` at most the fraction; the fraction is not zero. -/
def log2 (a : Ratio) : Int :=
  let guess : Int := a.num.log2 - a.den.log2
  if a.lt (scaled 1 guess) then guess - 1 else guess

end Ratio

namespace FiniteDouble

/-- Zero of either sign. -/
def zero (negative : Bool) : FiniteDouble :=
  ⟨negative, 0, Double.leastPower, by decide⟩

/-- The double without its sign. -/
def magnitude (x : FiniteDouble) : Ratio :=
  Ratio.scaled x.significand x.power

/-- A canonical significand and power make a finite double; any other pair lies above the
greatest one. -/
def ofParts? (negative : Bool) (significand : Nat) (power : Int) : Option FiniteDouble :=
  if h : Double.IsCanonical significand power then some ⟨negative, significand, power, h⟩ else none

/-- The double nearest to a fraction with a sign; none when it is infinite. -/
def ofRatio? (negative : Bool) (a : Ratio) : Option FiniteDouble :=
  if a.num = 0 then some (zero negative)
  else
    let power := max (a.log2 - (Double.precision - 1 : Nat)) Double.leastPower
    let significand := (a.div (.scaled 1 power)).roundEven
    if significand = 2 * Double.leastNormal then
      ofParts? negative Double.leastNormal (power + 1)
    else ofParts? negative significand power

/-- The double nearest to a whole number with a sign. -/
def ofNat? (negative : Bool) (n : Nat) : Option FiniteDouble :=
  ofRatio? negative ⟨n, 1, by decide⟩

/-- The product, rounded once. -/
def mul? (x y : FiniteDouble) : Option FiniteDouble :=
  ofRatio? (x.negative != y.negative) (x.magnitude.mul y.magnitude)

/-- The quotient by a double that is not zero, rounded once. -/
def div? (x y : FiniteDouble) : Option FiniteDouble :=
  ofRatio? (x.negative != y.negative) (x.magnitude.div y.magnitude)

end FiniteDouble

namespace Double

/-- The double nearest to a fraction with a sign. -/
def ofRatio (negative : Bool) (a : Ratio) : Double :=
  match FiniteDouble.ofRatio? negative a with
  | some x => .finite x
  | none => .infinity negative

end Double

end Criteria
