/-
TOML values without quotes: truth values, numbers, dates and times.

Digits may be parted by single underscores.  A decimal number has no zeros
in front; whole numbers are also written with the bases 16, 8 and 2.  What
looks like a number may still not be one that is held: it has too many
digits, or none, or a letter behind an underscore.  It is then a value that
cannot be read, and does no harm where no one looks at it.
-/
import Criteria.Text.Hex
import Criteria.Toml.Basic
import Criteria.Toml.Moment

namespace Criteria.Toml

/-- The value of a digit of a base. -/
def digitOf? (base : Nat) (c : Char) : Option Nat :=
  (Text.hexValue? c).filter (· < base)

/-- A digit of some base. -/
def isAnyDigit (c : Char) : Bool :=
  (Text.hexValue? c).isSome

/-- Every underscore has a digit behind it and a digit in front of it; `before` says whether one
stands in front of the text. -/
def underscoresFit (isDigit : Char → Bool) (before : Bool) : List Char → Bool
  | [] => true
  | ['_'] => false
  | '_' :: c :: rest => before && isDigit c && underscoresFit isDigit true rest
  | c :: rest => underscoresFit isDigit (isDigit c) rest

/-- The underscores of a number stand between its digits. -/
def isParted (isDigit : Char → Bool) (cs : List Char) : Bool :=
  underscoresFit isDigit false cs

/-- The whole number that digits write, if it has no more than 128 bits. -/
def wholeOf (base : Nat) (negative : Bool) (cs : List Char) : Toml :=
  match (cs.filter (· ≠ '_')).mapM (digitOf? base) with
  | none | some [] => .unreadable
  | some digits =>
    let n : Int := Numeral.ofDigitsBase base digits
    let n := if negative then -n else n
    if -170141183460469231731687303715884105728 ≤ n ∧
        n < 340282366920938463463374607431768211456 then .integer n
    else .unreadable

/-- The whole number with the digits of a base, of which there may be none. -/
def basedOf? (base : Nat) (cs : List Char) : Option Toml :=
  if cs.all (fun c => c = '_' || (digitOf? base c).isSome) && isParted isAnyDigit cs then
    some (wholeOf base false cs)
  else none

/-- A decimal whole number without zeros in front. -/
def decimalOf? (negative : Bool) (cs : List Char) : Option Toml :=
  if (cs.head? = some '0' && 1 < cs.length) || !isParted isAnyDigit cs then none
  else some (wholeOf 10 negative cs)

/-- Reads digits, with underscores among them. -/
def spanParted (cs : List Char) : Option (List Nat × List Char) :=
  let isPart c := c.isDigit || c = '_'
  match ((cs.takeWhile isPart).filter Char.isDigit).map Numeral.digitValue with
  | [] => none
  | digits => some (digits, cs.dropWhile isPart)

/-- Reads a fraction with its point; none is an empty one. -/
def spanPlaces : List Char → Option (List Nat × List Char)
  | '.' :: rest => spanParted rest
  | rest => some ([], rest)

/-- An exponent that ends the text; none counts as zero. -/
def exponentOf? : List Char → Option Int
  | [] => some 0
  | c :: rest =>
    if c.toLower ≠ 'e' then none
    else
      let (negative, rest) := Numeral.spanSign rest
      match spanParted rest with
      | some (digits, []) =>
        some (if negative then -(Numeral.ofDigits digits : Int) else Numeral.ofDigits digits)
      | _ => none

/-- A float, which cannot be read when it is above the greatest double. -/
def floatOf? (negative : Bool) (cs : List Char) : Option Toml := do
  let (whole, rest) ← spanParted cs
  if cs.head? = some '0' ∧ 1 < whole.length then none
  let (places, rest) ← spanPlaces rest
  let exponent ← exponentOf? rest
  if !isParted Char.isDigit cs then none
  match (Numeral.mk negative whole places exponent).toDouble with
  | .finite _ => return .float
  | _ => return .unreadable

/-- A decimal number, a date or a time; `sign` is its sign. -/
def numberOf? (sign cs : List Char) : Option Toml :=
  let rest := cs.dropWhile Char.isDigit
  match rest with
  | '-' :: _ | ':' :: _ => if isMoment (sign ++ cs) then some .moment else none
  | rest =>
    if rest.any fun c => c = '.' || c = 'e' || c = 'E' then floatOf? (sign = ['-']) cs
    else if !cs.isEmpty && (rest.isEmpty || rest.head? = some '_') then decimalOf? (sign = ['-']) cs
    else none

/-- The value that a text without quotes writes. -/
def bareOf? (cs : List Char) : Option Toml :=
  match cs with
  | '0' :: 'x' :: rest => basedOf? 16 rest
  | '0' :: 'o' :: rest => basedOf? 8 rest
  | '0' :: 'b' :: rest => basedOf? 2 rest
  | cs =>
    let (sign, rest) := cs.span fun c => c = '+' || c = '-'
    if cs = "true".toList then some (.bool true)
    else if cs = "false".toList then some (.bool false)
    else if 1 < sign.length then none
    else if rest = "inf".toList ∨ rest = "nan".toList then some .float
    else numberOf? sign rest

end Criteria.Toml
