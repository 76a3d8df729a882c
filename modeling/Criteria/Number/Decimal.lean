/-
Texts of numbers.

A `Decimal` is written in positional notation, or in scientific notation
with one digit before the point.  A number is read from a sign, digits, a
point and an exponent; `Numeral` holds what was read, and its value is
rounded to the nearest double once, from the exact decimal.
-/
import Criteria.Number.Shortest

namespace Criteria

namespace Decimal

/-- The exponent of the first digit. -/
def exponent (d : Decimal) : Int :=
  d.power + width d.digits - 1

/-- A run of zeros. -/
def zeros (n : Nat) : String :=
  String.ofList (List.replicate n '0')

/-- All digits, with a point where the fraction begins and none in a whole number. -/
def positional (d : Decimal) : String :=
  let digits := (toString d.digits).toList
  if 0 ≤ d.power then toString d.digits ++ zeros d.power.toNat
  else
    let places := (-d.power).toNat
    if places < digits.length then
      String.ofList (digits.take (digits.length - places)) ++ "." ++
        String.ofList (digits.drop (digits.length - places))
    else "0." ++ zeros (places - digits.length) ++ toString d.digits

/-- One digit before the point, the others behind it, then the exponent with its sign. -/
def scientific (d : Decimal) : String :=
  let digits := (toString d.digits).toList
  let point := if digits.length = 1 then "" else "."
  let sign := if d.exponent < 0 then "-" else "+"
  String.ofList (digits.take 1) ++ point ++ String.ofList (digits.drop 1) ++ "e" ++ sign ++
    toString d.exponent.natAbs

/-- A whole number gets a point and a zero. -/
def withPoint (text : String) : String :=
  if text.toList.contains '.' then text else text ++ ".0"

example : positional ⟨125, -2⟩ = "1.25" ∧ positional ⟨125, -5⟩ = "0.00125" := by decide
example : positional ⟨125, 2⟩ = "12500" ∧ scientific ⟨125, 18⟩ = "1.25e+20" := by decide

end Decimal

/-- A sign, digits before and behind the point, and a power of ten. -/
structure Numeral where
  negative : Bool
  whole : List Nat
  fraction : List Nat
  exponent : Int

namespace Numeral

/-- The value of a digit 0 to 9. -/
def digitValue (c : Char) : Nat :=
  c.toNat - '0'.toNat

/-- The digits at the start of a text, and what follows them. -/
def spanDigits (cs : List Char) : List Nat × List Char :=
  ((cs.takeWhile Char.isDigit).map digitValue, cs.dropWhile Char.isDigit)

/-- The whole number that digits of a base write. -/
def ofDigitsBase (base : Nat) (digits : List Nat) : Nat :=
  digits.foldl (fun n d => base * n + d) 0

/-- The whole number that decimal digits write. -/
def ofDigits (digits : List Nat) : Nat :=
  ofDigitsBase 10 digits

/-- An optional sign at the start of a text: it is negative, and what follows it. -/
def spanSign : List Char → Bool × List Char
  | '-' :: rest => (true, rest)
  | '+' :: rest => (false, rest)
  | cs => (false, cs)

/-- An exponent with its letter, up to the end of the text; none counts as zero. -/
def exponentOf : List Char → Option Int
  | [] => some 0
  | c :: rest =>
    if c.toLower ≠ 'e' then none
    else
      let (negative, rest) := spanSign rest
      match spanDigits rest with
      | ([], _) | (_, _ :: _) => none
      | (digits, []) => some (if negative then -(ofDigits digits : Int) else ofDigits digits)

/-- Reads an unsigned number: digits with at most one point among, before or behind them, then
an optional exponent. -/
def ofUnsigned (negative : Bool) (cs : List Char) : Option Numeral :=
  let (whole, rest) := spanDigits cs
  let (fraction, rest) := match rest with
    | '.' :: rest => spanDigits rest
    | rest => ([], rest)
  if whole.isEmpty && fraction.isEmpty then none
  else (exponentOf rest).map fun exponent => ⟨negative, whole, fraction, exponent⟩

/-- The nearest double.  Numbers of more than 310 places are infinite, and those below 10 ^ -326
are zero. -/
def toDouble (n : Numeral) : Double :=
  let digits := ofDigits (n.whole ++ n.fraction)
  let power := n.exponent - n.fraction.length
  let places := power + Decimal.width digits
  if digits = 0 ∨ places < -326 then .finite (.zero n.negative)
  else if 310 < places then .infinity n.negative
  else .ofRatio n.negative (.decimal digits power)

end Numeral

namespace Double

/-- Reads a double: a sign, then a number or one of the words for infinity and for no number, in
any letter case. -/
def ofText? (text : String) : Option Double :=
  let (negative, rest) := Numeral.spanSign text.toList
  let word := String.ofList (rest.map Char.toLower)
  if word = "nan" then some .nan
  else if word = "inf" ∨ word = "infinity" then some (.infinity negative)
  else (Numeral.ofUnsigned negative rest).map Numeral.toDouble

/-- The shortest digits of a double in positional notation; of two equally near ones, the upper. -/
def text : Double → String
  | .nan => "NaN"
  | .infinity negative => if negative then "-inf" else "inf"
  | .finite x => (if x.negative then "-" else "") ++ (x.shortest .up).positional

end Double

/-- Reads a whole number without a sign or with a plus. -/
def natOfText? (text : String) : Option Nat :=
  let digits := match text.toList with
    | '+' :: rest => rest
    | cs => cs
  match Numeral.spanDigits digits with
  | ([], _) | (_, _ :: _) => none
  | (digits, []) => some (Numeral.ofDigits digits)

/-- Reads a whole number with an optional sign. -/
def intOfText? (text : String) : Option Int :=
  let (negative, rest) := Numeral.spanSign text.toList
  match Numeral.spanDigits rest with
  | ([], _) | (_, _ :: _) => none
  | (digits, []) =>
    some (if negative then -(Numeral.ofDigits digits : Int) else Numeral.ofDigits digits)

end Criteria
