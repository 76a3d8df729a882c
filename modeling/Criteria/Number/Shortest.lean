/-
Shortest decimals.

The text of a double has the fewest digits that read back as that double.
All numbers nearer to it than to its neighbours read back as it, and so do
the two points half way when its significand is even.  The digits are
looked for on the grids of one digit, two digits and so on up to 17, which
always suffice: on each grid only the two points around the number can be
near enough.
-/
import Criteria.Number.Double

namespace Criteria

/-- The decimal number `digits * 10 ^ power`. -/
structure Decimal where
  digits : Nat
  power : Int
deriving DecidableEq, Repr

namespace Decimal

/-- The value as a fraction. -/
def ratio (d : Decimal) : Ratio :=
  .decimal d.digits d.power

/-- The count of digits of a whole number; zero has one. -/
def width (n : Nat) : Nat :=
  (Nat.toDigits 10 n).length

/-- Leaves the last digit out while it is zero, at most `limit` times. -/
def dropZeros : Nat → Decimal → Decimal
  | 0, d => d
  | limit + 1, d =>
    if d.digits ≠ 0 ∧ d.digits % 10 = 0 then dropZeros limit ⟨d.digits / 10, d.power + 1⟩ else d

end Decimal

/-- Which of two decimals is written that are equally short and equally near. -/
inductive Tie where
  | even
  | up
deriving DecidableEq

namespace FiniteDouble

/-- Where the reals that round to a double begin and end. -/
structure Interval where
  low : Ratio
  high : Ratio
  closed : Bool

/-- The interval of the reals that round to the magnitude of `x`. -/
def interval (x : FiniteDouble) : Interval :=
  let narrow := x.significand = Double.leastNormal ∧ Double.leastPower < x.power
  { low := .scaled (4 * x.significand - if narrow then 1 else 2) (x.power - 2)
    high := .scaled (4 * x.significand + 2) (x.power - 2)
    closed := x.significand % 2 = 0 }

/-- The point lies in the interval. -/
def Interval.contains (i : Interval) (a : Ratio) : Bool :=
  if i.closed then !a.lt i.low && !i.high.lt a else i.low.lt a && a.lt i.high

/-- The exponent of the first digit of a fraction that is not zero. -/
def leadingExponent (a : Ratio) : Int :=
  if a.num < a.den then -(Decimal.width ((a.den + a.num - 1) / a.num - 1) : Int)
  else (Decimal.width a.floor : Int) - 1

/-- The point of the grid of multiples of `10 ^ power` that stands for `x`, if one of the two
points around `x` reads back as it. -/
def onGrid (tie : Tie) (x : FiniteDouble) (power : Int) : Option Decimal :=
  let value := x.magnitude
  let steps := value.div (.decimal 1 power)
  let below : Decimal := ⟨steps.floor, power⟩
  let above : Decimal := ⟨steps.floor + 1, power⟩
  match x.interval.contains below.ratio, x.interval.contains above.ratio with
  | false, false => none
  | true, false => some below
  | false, true => some above
  | true, true =>
    let rest := 2 * (steps.num % steps.den)
    if rest < steps.den then some below
    else if steps.den < rest then some above
    else match tie with
      | .up => some above
      | .even => some (if steps.floor % 2 = 0 then below else above)

/-- The first hit on the grids of `digits` digits and more. -/
def search (tie : Tie) (x : FiniteDouble) (first : Int) : Nat → Nat → Decimal
  | 0, _ => ⟨x.significand, x.power⟩
  | grids + 1, digits =>
    match onGrid tie x (first - digits + 1) with
    | some d => d
    | none => search tie x first grids (digits + 1)

/-- The fewest digits that read back as the magnitude of `x`; of several such decimals the
nearest. -/
def shortest (tie : Tie) (x : FiniteDouble) : Decimal :=
  if x.significand = 0 then ⟨0, 0⟩
  else (search tie x (leadingExponent x.magnitude) 17 1).dropZeros 17

end FiniteDouble

end Criteria
