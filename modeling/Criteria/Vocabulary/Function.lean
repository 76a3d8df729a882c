/-
Functions of a column.

A comparison may apply one function of this list to its column.
-/
import Criteria.Vocabulary.Token

namespace Criteria

/-- A function that may wrap a column. -/
inductive Function where
  | abs
  | ceil
  | floor
  | round
  | sign
  | sqrt
  | lower
  | upper
  | length
  | charLength
  | trim
  | ltrim
  | rtrim
  | reverse
  | date
  | year
  | month
  | day
  | dayOfWeek
  | dayOfYear
  | week
  | hour
  | minute
  | second
  | unixTimestamp
deriving DecidableEq, Repr

namespace Function

/-- The spelling in a query. -/
def sql : Function → String
  | abs => "ABS"
  | ceil => "CEIL"
  | floor => "FLOOR"
  | round => "ROUND"
  | sign => "SIGN"
  | sqrt => "SQRT"
  | lower => "LOWER"
  | upper => "UPPER"
  | length => "LENGTH"
  | charLength => "CHAR_LENGTH"
  | trim => "TRIM"
  | ltrim => "LTRIM"
  | rtrim => "RTRIM"
  | reverse => "REVERSE"
  | date => "DATE"
  | year => "YEAR"
  | month => "MONTH"
  | day => "DAY"
  | dayOfWeek => "DAYOFWEEK"
  | dayOfYear => "DAYOFYEAR"
  | week => "WEEK"
  | hour => "HOUR"
  | minute => "MINUTE"
  | second => "SECOND"
  | unixTimestamp => "UNIX_TIMESTAMP"

/-- All functions. -/
def all : List Function :=
  [abs, ceil, floor, round, sign, sqrt, lower, upper, length, charLength, trim, ltrim, rtrim,
    reverse, date, year, month, day, dayOfWeek, dayOfYear, week, hour, minute, second,
    unixTimestamp]

/-- The spellings that are read: those of a query, and a second one for some functions. -/
def spellings : List (String × Function) :=
  [("ABS", abs), ("CEIL", ceil), ("CEILING", ceil), ("FLOOR", floor), ("ROUND", round),
    ("SIGN", sign), ("SQRT", sqrt), ("LOWER", lower), ("LCASE", lower), ("UPPER", upper),
    ("UCASE", upper), ("LENGTH", length), ("CHAR_LENGTH", charLength), ("TRIM", trim),
    ("LTRIM", ltrim), ("RTRIM", rtrim), ("REVERSE", reverse), ("DATE", date), ("YEAR", year),
    ("MONTH", month), ("DAY", day), ("DAYOFMONTH", day), ("DAYOFWEEK", dayOfWeek),
    ("DAYOFYEAR", dayOfYear), ("WEEK", week), ("HOUR", hour), ("MINUTE", minute),
    ("SECOND", second), ("UNIX_TIMESTAMP", unixTimestamp)]

/-- The function that a token means. -/
def ofToken? (token : String) : Option Function :=
  Vocabulary.find? spellings token

end Function

end Criteria
