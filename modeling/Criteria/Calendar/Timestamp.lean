/-
Points in time, in UTC.

A timestamp is a date, a second of the day and nanoseconds; a leap second is
the last second of a minute with more than 10 ^ 9 nanoseconds.  It is
written in the form of RFC 3339 or, for a query, down to the second without
a zone.  It is read more freely than that form is written: numbers may be
short, blanks may stand around them, and the offset from UTC, which is taken
off, may lack its colon or be the word UTC.
-/
import Criteria.Calendar.Date

namespace Criteria

/-- A point in time, in UTC. -/
structure Timestamp where
  date : Date
  second : Nat
  nanosecond : Nat
deriving DecidableEq

namespace Timestamp

/-- The seconds of a day. -/
def daySeconds : Nat := 86400

/-- The nanoseconds of a second. -/
def secondNanos : Nat := 1000000000

/-- The whole seconds of the clock; a leap second is the 60th of its minute. -/
def clockSecond (t : Timestamp) : Nat :=
  t.second % 60 + t.nanosecond / secondNanos

/-- The time of day with colons. -/
def clockText (t : Timestamp) : String :=
  Date.padded 2 (t.second / 3600) ++ ":" ++ Date.padded 2 (t.second / 60 % 60) ++ ":" ++
    Date.padded 2 t.clockSecond

/-- Date and time with a blank between, down to the second. -/
def text (t : Timestamp) : String :=
  t.date.text ++ " " ++ t.clockText

/-- The fraction of a second with three, six or nine digits, as few as show it all. -/
def fractionText (t : Timestamp) : String :=
  let nanos := t.nanosecond % secondNanos
  if nanos = 0 then ""
  else if nanos % 1000000 = 0 then "." ++ Date.padded 3 (nanos / 1000000)
  else if nanos % 1000 = 0 then "." ++ Date.padded 6 (nanos / 1000)
  else "." ++ Date.padded 9 nanos

/-- The form of RFC 3339. -/
def rfc3339 (t : Timestamp) : String :=
  t.date.text ++ "T" ++ t.clockText ++ t.fractionText ++ "Z"

/-- Reads a fraction of a second, in nanoseconds; digits after the ninth are dropped. -/
def spanFraction : List Char → Option (Nat × List Char)
  | '.' :: rest =>
    match Numeral.spanDigits rest with
    | ([], _) => none
    | (digits, rest) =>
      let kept := digits.take 9
      some (Numeral.ofDigits kept * Nat.pow 10 (9 - kept.length), rest)
  | rest => some (0, rest)

/-- Reads exactly two digits. -/
def spanPair : List Char → Option (Nat × List Char)
  | a :: b :: rest =>
    if a.isDigit && b.isDigit then some (Numeral.ofDigits [Numeral.digitValue a, Numeral.digitValue b], rest)
    else none
  | _ => none

/-- The character may stand between the hours and the minutes of an offset. -/
def isOffsetMark (c : Char) : Bool :=
  c = ':' || Text.isBlank c

/-- Reads the hours and minutes of an offset from UTC, in seconds. -/
def spanHoursMinutes (cs : List Char) : Option (Nat × List Char) := do
  let (hours, rest) ← spanPair cs
  let (minutes, rest) ← spanPair (rest.dropWhile isOffsetMark)
  if hours < 24 ∧ minutes < 60 then some ((hours * 60 + minutes) * 60, rest) else none

/-- Reads an offset from UTC, in seconds: the word UTC, the letter Z, or a sign with hours and
minutes. -/
def spanOffset (cs : List Char) : Option (Int × List Char) :=
  if (cs.take 3).map Char.toLower = ['u', 't', 'c'] then some (0, cs.drop 3)
  else match cs with
    | 'Z' :: rest | 'z' :: rest => some (0, rest)
    | '+' :: rest => (spanHoursMinutes rest).map fun (seconds, rest) => (seconds, rest)
    | '-' :: rest | '\u2212' :: rest =>
      (spanHoursMinutes rest).map fun (seconds, rest) => (-(seconds : Int), rest)
    | _ => none

/-- Takes an offset of less than a day off a local time. -/
def ofLocal? (date : Date) (second nanosecond : Nat) (offset : Int) : Option Timestamp :=
  let shifted := second - offset
  if shifted < 0 then
    date.previous?.map (⟨·, (shifted + daySeconds).toNat, nanosecond⟩)
  else if shifted < daySeconds then some ⟨date, shifted.toNat, nanosecond⟩
  else date.next?.map (⟨·, (shifted - daySeconds).toNat, nanosecond⟩)

/-- Reads a time of day: the second, of which the 60th is a leap second, and nanoseconds. -/
def spanClock (cs : List Char) : Option ((Nat × Nat) × List Char) := do
  let (hour, rest) ← Date.spanNumber 2 cs
  let rest ← Date.spanMark ':' rest
  let (minute, rest) ← Date.spanNumber 2 rest
  let rest ← Date.spanMark ':' rest
  let (second, rest) ← Date.spanNumber 2 rest
  let (nanos, rest) ← spanFraction rest
  if 24 ≤ hour ∨ 60 ≤ minute ∨ 61 ≤ second then none
  let start := (hour * 60 + minute) * 60
  if second = 60 then some ((start + 59, nanos + secondNanos), rest)
  else some ((start + second, nanos), rest)

/-- Reads a timestamp that is the whole text but for blanks. -/
def ofText? (text : String) : Option Timestamp := do
  let (date, rest) ← Date.span text.toList
  match rest with
  | 'T' :: rest | 't' :: rest | ' ' :: rest =>
    let ((second, nanosecond), rest) ← spanClock rest
    let (offset, rest) ← spanOffset (Date.skipBlanks rest)
    if (Date.skipBlanks rest).isEmpty then ofLocal? date second nanosecond offset else none
  | _ => none

end Timestamp

end Criteria
