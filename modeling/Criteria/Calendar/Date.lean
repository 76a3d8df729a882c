/-
Dates of the Gregorian calendar.

The calendar is extended to years before the common era: year 0 is a leap
year before year 1.  A date is written year, month and day with hyphens,
the year with four digits, and with a sign when it is before 0 or after
9999.  It is read more freely: the parts may be short, blanks may stand
around them, and the year may have a sign.
-/
import Criteria.Number.Decimal
import Criteria.Text.Blank

namespace Criteria

namespace Date

/-- A year with a 29th of February. -/
def isLeap (year : Int) : Bool :=
  year % 4 = 0 && (year % 100 ≠ 0 || year % 400 = 0)

/-- The number of days in a month. -/
def daysIn (year : Int) (month : Nat) : Nat :=
  match month with
  | 2 => if isLeap year then 29 else 28
  | 4 | 6 | 9 | 11 => 30
  | _ => 31

/-- The dates there are: between the first of January -262143 and the last of December 262142. -/
def IsValid (year : Int) (month day : Nat) : Prop :=
  -262143 ≤ year ∧ year ≤ 262142 ∧ 1 ≤ month ∧ month ≤ 12 ∧ 1 ≤ day ∧ day ≤ daysIn year month

instance (year : Int) (month day : Nat) : Decidable (IsValid year month day) := by
  unfold IsValid
  infer_instance

end Date

/-- A day of the calendar. -/
structure Date where
  year : Int
  month : Nat
  day : Nat
  valid : Date.IsValid year month day
deriving DecidableEq

namespace Date

/-- The date with the given parts, if there is one. -/
def ofParts? (year : Int) (month day : Nat) : Option Date :=
  if h : IsValid year month day then some ⟨year, month, day, h⟩ else none

/-- The day after; the last date has none. -/
def next? (d : Date) : Option Date :=
  if d.day < daysIn d.year d.month then ofParts? d.year d.month (d.day + 1)
  else if d.month < 12 then ofParts? d.year (d.month + 1) 1
  else ofParts? (d.year + 1) 1 1

/-- The day before; the first date has none. -/
def previous? (d : Date) : Option Date :=
  if 1 < d.day then ofParts? d.year d.month (d.day - 1)
  else if 1 < d.month then ofParts? d.year (d.month - 1) (daysIn d.year (d.month - 1))
  else ofParts? (d.year - 1) 12 31

/-- A number with zeros in front up to a width. -/
def padded (width n : Nat) : String :=
  let digits := toString n
  Decimal.zeros (width - digits.length) ++ digits

/-- Four digits, and a sign for a year before 0 or after 9999. -/
def yearText (year : Int) : String :=
  let sign := if year < 0 then "-" else if 9999 < year then "+" else ""
  sign ++ padded 4 year.natAbs

/-- The written form of a date. -/
def text (d : Date) : String :=
  yearText d.year ++ "-" ++ padded 2 d.month ++ "-" ++ padded 2 d.day

/-- Leaves out blanks. -/
def skipBlanks (cs : List Char) : List Char :=
  cs.dropWhile Text.isBlank

/-- Reads a given character after any blanks. -/
def spanMark (mark : Char) (cs : List Char) : Option (List Char) :=
  match skipBlanks cs with
  | c :: rest => if c = mark then some rest else none
  | [] => none

/-- Reads between one and `width` digits after any blanks. -/
def spanNumber (width : Nat) (cs : List Char) : Option (Nat × List Char) :=
  let cs := skipBlanks cs
  let digits := (cs.take width).takeWhile Char.isDigit
  if digits.isEmpty then none
  else some (Numeral.ofDigits (digits.map Numeral.digitValue), cs.drop digits.length)

/-- Reads a year: up to four digits, or any number of them after a sign. -/
def spanYear (cs : List Char) : Option (Int × List Char) :=
  match skipBlanks cs with
  | sign :: rest =>
    if (sign = '-' || sign = '+') && rest.head?.any Char.isDigit then
      let (digits, rest) := Numeral.spanDigits rest
      let year := (Numeral.ofDigits digits : Int)
      some (if sign = '-' then -year else year, rest)
    else (spanNumber 4 (sign :: rest)).map fun (year, rest) => (year, rest)
  | [] => none

/-- Reads a date. -/
def span (cs : List Char) : Option (Date × List Char) := do
  let (year, rest) ← spanYear cs
  let rest ← spanMark '-' rest
  let (month, rest) ← spanNumber 2 rest
  let rest ← spanMark '-' rest
  let (day, rest) ← spanNumber 2 rest
  let date ← ofParts? year month day
  return (date, rest)

/-- Reads a date that is the whole text but for blanks. -/
def ofText? (text : String) : Option Date :=
  match span text.toList with
  | some (date, rest) => if (skipBlanks rest).isEmpty then some date else none
  | none => none

end Date

end Criteria
