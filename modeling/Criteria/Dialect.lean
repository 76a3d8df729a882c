/-
Dialects.

What differs between database systems is spelled by a dialect: how a value
is quoted, what a placeholder is, and the few forms that a standard leaves
open.  There is one dialect, that of MySQL, which is MariaDB's too.
-/
import Criteria.Sql.Literal
import Criteria.Template
import Criteria.Vocabulary.Function

namespace Criteria

/-- A dialect of the query language. -/
inductive Dialect where
  | mysql
deriving DecidableEq, Repr

namespace Dialect

/-- The name of the dialect. -/
def name : Dialect → String
  | mysql => "mysql"

/-- The dialect that a configuration names, blanks around and letter case aside. -/
def ofName? (name : String) : Option Dialect :=
  [("mysql", mysql), ("mariadb", mysql)].lookup (Text.lower (Text.trim name))

/-- The literal of a value. -/
def quote : Dialect → Scalar → String
  | mysql, value => Sql.quote value.literal

/-- The placeholder of the parameter with the given number, the first of which is 1. -/
def placeholder : Dialect → Nat → String
  | mysql, _ => "?"

/-- The sort key that shuffles rows. -/
def random : Dialect → String
  | mysql => "RAND()"

/-- The word in front of a negated condition. -/
def negation : Dialect → String
  | mysql => "NOT"

/-- The test that a text is an element of the set that a column is, which has commas between its
elements. -/
def findInSet : Dialect → Template → String → Template
  | mysql, set, target =>
    Template.ofText "FIND_IN_SET(" ++ set ++ Template.ofText (", " ++ target ++ ")")

/-- The place of a column among values. -/
def fieldOrder : Dialect → String → List Template → Template
  | mysql, target, values =>
    Template.ofText ("FIELD(" ++ target ++ ", ") ++ Template.joined "," values ++
      Template.ofText ")"

/-- The clause that leaves rows out and limits their number. -/
def limit : Dialect → Nat → Nat → String
  | mysql, offset, count => "LIMIT " ++ toString offset ++ ", " ++ toString count

/-- A function applied to a column. -/
def call : Dialect → Function → String → String
  | mysql, function, target => function.sql ++ "(" ++ target ++ ")"

end Dialect

end Criteria
