/-
JSON numbers.

The digits of a number are taken into a significand of 64 bits for as long
as they fit.  A digit before the point that does not fit counts as a power
of ten; one behind it, and all after it, are dropped.  A number without a
point and without an exponent, all of whose digits fit, is a whole number;
any other is the significand, rounded to a double, times or divided by a
power of ten, rounded again.  A number above the greatest double is not
read.
-/
import Criteria.Json.Basic
import Criteria.Number.Decimal

namespace Criteria.Json

/-- The greatest power of ten that is a finite double. -/
def greatestTen : Nat := 308

/-- Adds digits to a number below 2 ^ 64 while the result stays below it; the digits that are
left come with it. -/
def takeFitting (n : Nat) : List Nat → Nat × List Nat
  | [] => (n, [])
  | d :: rest => if 10 * n + d < UInt64.size then takeFitting (10 * n + d) rest else (n, d :: rest)

/-- The double nearest to a power of ten. -/
def ten (power : Nat) : Option FiniteDouble :=
  FiniteDouble.ofNat? false (Nat.pow 10 power)

/-- A double over a power of ten, in steps of at most 10 ^ 308. -/
def scaleDown (x : FiniteDouble) (power : Nat) : Option FiniteDouble :=
  if power ≤ greatestTen then (ten power).bind x.div?
  else if x.significand = 0 then some x
  else (ten greatestTen).bind x.div? |>.bind fun y => scaleDown y (power - greatestTen)
termination_by power
decreasing_by simp only [greatestTen] at *; omega

/-- A double times a power of ten. -/
def scaleUp (x : FiniteDouble) (power : Nat) : Option FiniteDouble :=
  if x.significand = 0 then some x
  else if greatestTen < power then none
  else (ten power).bind x.mul?

/-- A double times a power of ten of either sign. -/
def scale (x : FiniteDouble) (power : Int) : Option FiniteDouble :=
  if power < 0 then scaleDown x power.natAbs else scaleUp x power.natAbs

/-- The float with a significand and a power of ten. -/
def floatOf (negative : Bool) (significand : Nat) (power : Int) : Option Json :=
  (FiniteDouble.ofNat? negative significand).bind (scale · power) |>.map .float

/-- The value of a number without point and exponent. -/
def integerOf (negative : Bool) (digits : List Nat) : Option Json :=
  let (significand, left) := takeFitting 0 digits
  if left.isEmpty && !(negative && significand = 0) then
    match WideInt.ofInt? (if negative then -(significand : Int) else significand) with
    | some n => some (.integer n)
    | none => floatOf negative significand 0
  else floatOf negative significand left.length

/-- The value of a number with a point or an exponent. -/
def decimalOf (n : Numeral) : Option Json :=
  let (whole, left) := takeFitting 0 n.whole
  let (significand, dropped) := takeFitting whole n.fraction
  floatOf n.negative significand
    (left.length - (n.fraction.length - dropped.length : Nat) + n.exponent)

/-- A fraction with its point; none is an empty one, and a point needs a digit. -/
def spanFraction : List Char → Option (List Nat × List Char)
  | '.' :: rest =>
    match Numeral.spanDigits rest with
    | ([], _) => none
    | found => some found
  | rest => some ([], rest)

/-- An exponent with its letter, which needs a digit. -/
def spanExponent : List Char → Option (Option Int × List Char)
  | [] => some (none, [])
  | c :: rest =>
    if c.toLower ≠ 'e' then some (none, c :: rest)
    else
      let (negative, rest) := Numeral.spanSign rest
      match Numeral.spanDigits rest with
      | ([], _) => none
      | (digits, rest) =>
        let exponent := (Numeral.ofDigits digits : Int)
        some (some (if negative then -exponent else exponent), rest)

/-- Reads a number without its sign.  It starts with a digit, and with a zero only when that is
its whole part. -/
def spanNumber (negative : Bool) (cs : List Char) : Option (Json × List Char) :=
  match Numeral.spanDigits cs with
  | ([], _) | (0 :: _ :: _, _) => none
  | (whole, rest) =>
    (spanFraction rest).bind fun (fraction, rest) =>
      (spanExponent rest).bind fun (exponent, rest) =>
        let value :=
          if fraction.isEmpty && exponent.isNone then integerOf negative whole
          else decimalOf ⟨negative, whole, fraction, exponent.getD 0⟩
        value.map (·, rest)

end Criteria.Json
