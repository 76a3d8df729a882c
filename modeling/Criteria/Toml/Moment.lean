/-
TOML dates and times.

There are dates, times of day, and both together, which may have an offset
from UTC.  A time of day may lack its seconds.
-/
import Criteria.Calendar.Timestamp

namespace Criteria.Toml

/-- Reads exactly `width` digits. -/
def spanExactly (width : Nat) (cs : List Char) : Option (Nat × List Char) :=
  let digits := cs.take width
  if digits.length = width && digits.all Char.isDigit then
    some (Numeral.ofDigits (digits.map Numeral.digitValue), cs.drop width)
  else none

/-- Reads a given character. -/
def spanChar (mark : Char) : List Char → Option (List Char)
  | c :: rest => if c = mark then some rest else none
  | [] => none

/-- Reads a date. -/
def spanDate (cs : List Char) : Option (List Char) := do
  let (year, rest) ← spanExactly 4 cs
  let rest ← spanChar '-' rest
  let (month, rest) ← spanExactly 2 rest
  let rest ← spanChar '-' rest
  let (day, rest) ← spanExactly 2 rest
  let _ ← Date.ofParts? year month day
  return rest

/-- Reads hours and minutes. -/
def spanHoursMinutes (cs : List Char) : Option (List Char) := do
  let (hours, rest) ← spanExactly 2 cs
  let rest ← spanChar ':' rest
  let (minutes, rest) ← spanExactly 2 rest
  if hours < 24 ∧ minutes < 60 then some rest else none

/-- Reads a time of day: hours and minutes, then seconds and a fraction, which may be missing. -/
def spanClock (cs : List Char) : Option (List Char) := do
  match ← spanHoursMinutes cs with
  | ':' :: rest =>
    let (second, rest) ← spanExactly 2 rest
    if 61 ≤ second then none
    let (_, rest) ← Timestamp.spanFraction rest
    return rest
  | rest => return rest

/-- The text is an offset from UTC, or nothing. -/
def isOffset : List Char → Bool
  | [] | ['Z'] | ['z'] => true
  | sign :: rest => (sign = '+' || sign = '-') && spanHoursMinutes rest = some []

/-- The text is a date, a time of day, or both. -/
def isMoment (cs : List Char) : Bool :=
  match spanDate cs with
  | some [] => true
  | some (mark :: rest) =>
    (mark = 'T' || mark = 't' || mark = ' ') && (spanClock rest).any isOffset
  | none => spanClock cs = some []

example : isMoment "1979-05-27 07:32:00.5-03:30".toList ∧ isMoment "07:32".toList := by decide
example : ¬isMoment "07:32Z".toList ∧ ¬isMoment "1979-02-29".toList := by decide

end Criteria.Toml
