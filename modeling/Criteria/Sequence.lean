/-
Expressions in sequence.

Expressions of any kind may be compiled with one writer, one after the other:
each goes on with the writer that the one before it leaves behind.  The first
that fails ends the sequence.

How a writer is to come out of this is said in terms of each expression alone:
its text is the same whatever the writer has taken up before, and its
parameters go behind those that are there.
-/
import Criteria.Filter.Basic
import Criteria.Order.Basic
import Criteria.Page.Basic

namespace Criteria

/-- An expression of one of the four kinds. -/
inductive AnyExpression where
  | filter (f : Filter)
  | order (order : Order)
  | page (page : Page)
  | custom (e : CustomExpression)

instance : Expression AnyExpression where
  isActive
    | .filter f => Expression.isActive f
    | .order order => Expression.isActive order
    | .page page => Expression.isActive page
    | .custom e => Expression.isActive e
  condition?
    | .filter f => Expression.condition? f
    | .order order => Expression.condition? order
    | .page page => Expression.condition? page
    | .custom e => Expression.condition? e
  compile
    | .filter f => Expression.compile f
    | .order order => Expression.compile order
    | .page page => Expression.compile page
    | .custom e => Expression.compile e

namespace Expression

variable {ε : Type} [Expression ε]

/-- Compiles expressions one after the other, with one writer for all of them. -/
def compileEach (writer : Writer) : List ε → Except ExpressionError (List String × Writer)
  | [] => .ok ([], writer)
  | e :: rest => do
    let (text, writer) ← compile e writer
    let (texts, writer) ← compileEach writer rest
    return (text :: texts, writer)

/-- All that compiling an expression does to a writer is to add parameters behind its own. -/
structure OnlyAppends (e : ε) (writer : Writer) : Prop where
  /-- The text, or the error, is that of a writer without parameters. -/
  outcome : Prod.fst <$> compile e writer =
    Prod.fst <$> compile e (.start writer.context writer.mode)
  /-- The expression compiles where it does alone; the parameters are then those of the writer, and
  behind them those of the expression alone, and nothing else of the writer changes. -/
  appended : ∀ text after, compile e writer = .ok (text, after) ↔
    ∃ fragment, render e writer.context writer.mode = .ok fragment ∧ fragment.sql = text ∧
      after.params = writer.params ++ fragment.params ∧ after.mode = writer.mode ∧
      after.context = writer.context

/-- Compiling expressions in sequence adds the parameters of each of them alone, in their order. -/
structure AppendInTurn (es : List ε) (writer : Writer) : Prop where
  /-- The sequence fails with the first expression that fails alone. -/
  failed : ∀ error, compileEach writer es = .error error ↔
    ∃ before e rest, es = before ++ e :: rest ∧
      (∀ b ∈ before, ∃ fragment, render b writer.context writer.mode = .ok fragment) ∧
      render e writer.context writer.mode = .error error
  /-- The sequence compiles where each of its expressions does alone, to the same texts; the
  parameters are then those of the writer, and behind them those of each expression. -/
  appended : ∀ texts after, compileEach writer es = .ok (texts, after) ↔
    ∃ fragments : List Fragment,
      es.map (render · writer.context writer.mode) = fragments.map .ok ∧
      fragments.map Fragment.sql = texts ∧
      after.params = writer.params ++ fragments.flatMap Fragment.params ∧
      after.mode = writer.mode ∧ after.context = writer.context

end Expression

end Criteria
