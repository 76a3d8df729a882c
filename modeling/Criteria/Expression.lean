/-
Expressions.

Filters, orders, pages and custom conditions have one interface: an
expression is active or not, may carry a condition of the caller's own,
which goes into the query as it is, and compiles to a text with a writer
that takes up its values on the way.  An expression that is not active
compiles to nothing.
-/
import Criteria.Writer

namespace Criteria

/-- What compiles to a part of a query. -/
class Expression (ε : Type) where
  /-- The expression takes part in the query. -/
  isActive : ε → Bool
  /-- The condition of the caller's own. -/
  condition? : ε → Option String
  /-- Compiles with a writer that may have parameters already. -/
  compile : ε → Writer → Except ExpressionError (String × Writer)

namespace Expression

variable {ε : Type} [Expression ε]

/-- The expression carries a condition that is not empty. -/
def hasCondition (e : ε) : Bool :=
  (condition? e).any fun text => !text.isEmpty

/-- The text and the parameters. -/
def render (e : ε) (context : Context) (mode : BindMode) : Except ExpressionError Fragment := do
  let (sql, writer) ← compile e (Writer.start context mode)
  return writer.finish sql

/-- The text with its values quoted in place. -/
def sql (e : ε) (context : Context) : Except ExpressionError String := do
  return (← compile e (Writer.start context .inline)).1

/-- The text with placeholders, and the values bound to them. -/
def toFragment (e : ε) (context : Context) : Except ExpressionError Fragment :=
  render e context .parameterized

end Expression

/-- Nothing but a condition of the caller's own. -/
structure CustomExpression where
  active : Bool := true
  condition : Option String := none
deriving DecidableEq

instance : Expression CustomExpression where
  isActive e := e.active
  condition? e := e.condition
  compile e writer := .ok (if e.active then e.condition.getD "" else "", writer)

end Criteria
