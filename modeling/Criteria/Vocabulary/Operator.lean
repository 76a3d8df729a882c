/-
Comparison operators.

An operator takes no value, one value, a list of values, or a text that is
looked for in the set that the column is.
-/
import Criteria.Vocabulary.Token

namespace Criteria

/-- An operator of a comparison. -/
inductive Operator where
  | eq
  | ne
  | neAngle
  | nullSafeEq
  | gt
  | gte
  | lt
  | lte
  | like
  | notLike
  | regexp
  | notRegexp
  | among
  | notAmong
  | isNull
  | isNotNull
  | isTrue
  | isNotTrue
  | isFalse
  | isNotFalse
  | isUnknown
  | isNotUnknown
  | findInSet
  | not
deriving DecidableEq, Repr, Inhabited

/-- What an operator is given beside its column. -/
inductive Operator.Arity where
  | binary
  | list
  | unary
  | set
deriving DecidableEq, Repr

namespace Operator

/-- The spelling in a query. -/
def sql : Operator → String
  | eq => "="
  | ne => "!="
  | neAngle => "<>"
  | nullSafeEq => "<=>"
  | gt => ">"
  | gte => ">="
  | lt => "<"
  | lte => "<="
  | like => "LIKE"
  | notLike => "NOT LIKE"
  | regexp => "REGEXP"
  | notRegexp => "NOT REGEXP"
  | among => "IN"
  | notAmong => "NOT IN"
  | isNull => "IS NULL"
  | isNotNull => "IS NOT NULL"
  | isTrue => "IS TRUE"
  | isNotTrue => "IS NOT TRUE"
  | isFalse => "IS FALSE"
  | isNotFalse => "IS NOT FALSE"
  | isUnknown => "IS UNKNOWN"
  | isNotUnknown => "IS NOT UNKNOWN"
  | findInSet => "FIND_IN_SET"
  | not => "NOT"

/-- What the operator is given. -/
def arity : Operator → Arity
  | eq | ne | neAngle | nullSafeEq | gt | gte | lt | lte | like | notLike | regexp | notRegexp =>
    .binary
  | among | notAmong => .list
  | isNull | isNotNull | isTrue | isNotTrue | isFalse | isNotFalse | isUnknown | isNotUnknown
  | not => .unary
  | findInSet => .set

/-- The operator negates a group or a raw condition. -/
def isNegating (op : Operator) : Bool :=
  op = not

/-- The spellings that are read: those of a query, and an exclamation mark for NOT. -/
def spellings : List (String × Operator) :=
  [("=", eq), ("!=", ne), ("<>", neAngle), ("<=>", nullSafeEq), (">", gt), (">=", gte), ("<", lt),
    ("<=", lte), ("LIKE", like), ("NOT LIKE", notLike), ("REGEXP", regexp),
    ("NOT REGEXP", notRegexp), ("IN", among), ("NOT IN", notAmong), ("IS NULL", isNull),
    ("IS NOT NULL", isNotNull), ("IS TRUE", isTrue), ("IS NOT TRUE", isNotTrue),
    ("IS FALSE", isFalse), ("IS NOT FALSE", isNotFalse), ("IS UNKNOWN", isUnknown),
    ("IS NOT UNKNOWN", isNotUnknown), ("FIND_IN_SET", findInSet), ("!", not), ("NOT", not)]

/-- The operator that a token means. -/
def ofToken? (token : String) : Option Operator :=
  Vocabulary.find? spellings token

end Operator

end Criteria
