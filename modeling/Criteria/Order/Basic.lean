/-
Orders.

An order is a list of sort keys, found in one of four ways: at random, from
a text of the caller's own, by the place of a column in a list of values,
or by columns.  A mode that is none of the two directions decides the way;
otherwise it is the first of text, values and fields that is given, and
nothing is sorted when none is.
-/
import Criteria.Expression
import Criteria.Vocabulary.Sorting

namespace Criteria

/-- What rows are sorted by. -/
inductive SortKey where
  | random
  | raw (text : String)
  | column (column : FieldName) (direction : Option Direction)
  | position (column : FieldName) (values : List Scalar) (direction : Option Direction)
deriving DecidableEq

namespace SortKey

/-- The direction behind a key. -/
def suffix (direction : Option Direction) : String :=
  direction.elim "" fun d => " " ++ d.sql

/-- What a sort key compiles to. -/
def template (dialect : Dialect) : SortKey → Template
  | random => Template.ofText dialect.random
  | raw text => Template.ofText text
  | column c direction => Template.ofText (c.text ++ suffix direction)
  | position c values direction =>
    dialect.fieldOrder c.text (values.map Template.ofValue) ++ Template.ofText (suffix direction)

end SortKey

/-- How rows are to be sorted. -/
structure Order where
  active : Bool := true
  mode : Option OrderMode := none
  condition : Option String := none
  fields : List FieldName := []
  values : List Scalar := []
  ownDirection : Option Direction := none
deriving DecidableEq

namespace Order

/-- The order by a field given as a text, beside the other fields. -/
def withField (order : Order) (field : String) : Except NameError Order := do
  return { order with fields := order.fields ++ [← FieldName.ofText field] }

/-- The order by a field in a direction. -/
def byField (field : String) (direction : Direction) : Except NameError Order := do
  return { ← withField {} field with ownDirection := some direction }

/-- The random order. -/
def shuffled : Order :=
  { mode := some .random }

/-- The order by a text of the caller's own. -/
def custom (text : String) : Order :=
  { mode := some .custom, condition := some text }

/-- The order by the place of a field in a list of values. -/
def byValues (field : String) (values : List Scalar) : Except NameError Order := do
  return { ← withField { mode := some .values } field with values }

/-- The direction: its own, or else the one that the mode is. -/
def direction (order : Order) : Option Direction :=
  order.ownDirection.or (order.mode.bind OrderMode.direction?)

/-- The text of the caller's own, if it is not empty. -/
def ownText? (order : Order) : Option String :=
  order.condition.filter fun text => !text.isEmpty

/-- The key of the text of the caller's own, which must be there. -/
def customKeys (order : Order) : Except ExpressionError (List SortKey) :=
  match order.ownText? with
  | some text => .ok [.raw text]
  | none => .error .noCondition

/-- A key for the place of every column in the values; there must be fields, values and columns. -/
def valueKeys (order : Order) (resolver : Resolver) : Except ExpressionError (List SortKey) := do
  if order.fields.isEmpty then throw .noColumn
  if order.values.isEmpty then throw .noValues
  return (← resolver.columns order.fields).map (.position · order.values order.direction)

/-- A key for every column, of which there must be one. -/
def fieldKeys (order : Order) (resolver : Resolver) : Except ExpressionError (List SortKey) := do
  return (← resolver.columns order.fields).map (.column · order.direction)

/-- The keys that an order sorts by. -/
def keys (order : Order) (resolver : Resolver) : Except ExpressionError (List SortKey) :=
  if !order.active then .ok []
  else match order.mode with
    | some .random => .ok [.random]
    | some .custom => order.customKeys
    | some .values => order.valueKeys resolver
    | some .asc | some .desc | none =>
      if order.ownText?.isSome then order.customKeys
      else if !order.values.isEmpty then order.valueKeys resolver
      else if !order.fields.isEmpty then order.fieldKeys resolver
      else .ok []

/-- Compiles the keys of an order one after the other. -/
def compile (order : Order) (writer : Writer) : Except ExpressionError (String × Writer) := do
  let keys ← order.keys writer.context.resolver
  let (texts, writer) := writer.writeEach (keys.map (·.template writer.context.dialect))
  return (", ".intercalate texts, writer)

instance : Expression Order where
  isActive order := order.active
  condition? order := order.condition
  compile := compile

end Order

end Criteria
