/-
How an order sorts.

An order may be told to sort in several ways at once, and sorts in one.  Here
are the rules by which it chooses, apart from any keys; and each way to sort
is named with all that it depends on, so that what is not in it does not
matter.  The rules for an order whose mode does not decide come one behind
the other: a text of the caller's own is looked at first, then values, and
fields last.
-/
import Criteria.Order.Meaning
import Criteria.Writer

namespace Criteria

/-- A way to sort, with what it depends on. -/
inductive Strategy where
  | nothing
  | random
  | text (condition : Option String)
  | positions (fields : List FieldName) (values : List Scalar) (direction : Option Direction)
  | columns (fields : List FieldName) (direction : Option Direction)
deriving DecidableEq

namespace Order

/-- The mode leaves it open what to sort by. -/
def IsOpen (order : Order) : Prop :=
  order.mode = none ∨ order.mode = some .asc ∨ order.mode = some .desc

/-- There is a condition, and it is not empty. -/
def HasText (order : Order) : Prop :=
  ∃ text, order.condition = some text ∧ text ≠ ""

/-- The rules by which an order chooses how it sorts. -/
inductive Chooses (order : Order) : Strategy → Prop
  | inactive : order.active = false → Chooses order .nothing
  | random : order.active = true → order.mode = some .random → Chooses order .random
  | custom : order.active = true → order.mode = some .custom →
      Chooses order (.text order.condition)
  | values : order.active = true → order.mode = some .values →
      Chooses order (.positions order.fields order.values order.commonDirection)
  | openText : order.active = true → order.IsOpen → order.HasText →
      Chooses order (.text order.condition)
  | openValues : order.active = true → order.IsOpen → ¬order.HasText → order.values ≠ [] →
      Chooses order (.positions order.fields order.values order.commonDirection)
  | openFields : order.active = true → order.IsOpen → ¬order.HasText → order.values = [] →
      order.fields ≠ [] → Chooses order (.columns order.fields order.commonDirection)
  | openNothing : order.active = true → order.IsOpen → ¬order.HasText → order.values = [] →
      order.fields = [] → Chooses order .nothing

/-- The way that is chosen where the mode leaves it open. -/
def openStrategy (order : Order) : Strategy :=
  if order.ownText?.isSome then .text order.condition
  else if !order.values.isEmpty then
    .positions order.fields order.values order.commonDirection
  else if !order.fields.isEmpty then .columns order.fields order.commonDirection
  else .nothing

/-- The way that is chosen. -/
def strategy (order : Order) : Strategy :=
  if !order.active then .nothing
  else match order.mode with
    | some .random => .random
    | some .custom => .text order.condition
    | some .values => .positions order.fields order.values order.commonDirection
    | some .asc | some .desc | none => order.openStrategy

end Order

namespace Strategy

/-- The way to sort is by columns, or by their places among values. -/
def UsesColumns : Strategy → Prop
  | nothing | random | text _ => False
  | positions _ _ _ | columns _ _ => True

/-- What is wrong with a way to sort. -/
inductive Fails (resolver : Resolver) : Strategy → ExpressionError → Prop
  | noText {condition : Option String} : (∀ text, condition = some text → text = "") →
      Fails resolver (.text condition) .noCondition
  | noFields {values : List Scalar} {direction : Option Direction} :
      Fails resolver (.positions [] values direction) .noColumn
  | noValues {fields : List FieldName} {direction : Option Direction} : fields ≠ [] →
      Fails resolver (.positions fields [] direction) .noValues
  | noPlaces {fields : List FieldName} {values : List Scalar} {direction : Option Direction} :
      fields ≠ [] → values ≠ [] → fields.flatMap resolver.resolve = [] →
      Fails resolver (.positions fields values direction) .noColumn
  | noColumns {fields : List FieldName} {direction : Option Direction} :
      fields.flatMap resolver.resolve = [] → Fails resolver (.columns fields direction) .noColumn

/-- A value where it stands in the text. -/
def spelled (mode : BindMode) (value : Scalar) : String :=
  match mode with
  | .inline => Sql.quote value.literal
  | .parameterized => "?"

/-- The direction behind a key. -/
def ending : Option Direction → String
  | none => ""
  | some .asc => " ASC"
  | some .desc => " DESC"

/-- The text of a way to sort. -/
def sql (resolver : Resolver) (mode : BindMode) : Strategy → String
  | nothing => ""
  | random => "RAND()"
  | text condition => condition.getD ""
  | positions fields values direction =>
    ", ".intercalate <| (fields.flatMap resolver.resolve).map fun column =>
      "FIELD(" ++ column.text ++ ", " ++ ",".intercalate (values.map (spelled mode)) ++ ")" ++
        ending direction
  | columns fields direction =>
    ", ".intercalate <| (fields.flatMap resolver.resolve).map fun column =>
      column.text ++ ending direction

/-- The values that are bound: all of them anew for each column. -/
def params (resolver : Resolver) (mode : BindMode) : Strategy → List Scalar
  | positions fields values _ =>
    match mode with
    | .inline => []
    | .parameterized => (fields.flatMap resolver.resolve).flatMap fun _ => values
  | nothing | random | text _ | columns _ _ => []

end Strategy

end Criteria
