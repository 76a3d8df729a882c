/-
Writing a query.

A writer knows the dialect, the resolver and what becomes of values: they
are quoted where they stand, or a placeholder takes their place and they
are added to the parameters.
-/
import Criteria.Dialect
import Criteria.Resolver

namespace Criteria

/-- What becomes of values: quoted in place, or bound to placeholders. -/
inductive BindMode where
  | inline
  | parameterized
deriving DecidableEq, Repr

namespace BindMode

/-- The name of the mode. -/
def name : BindMode → String
  | inline => "inline"
  | parameterized => "parameterized"

/-- The mode with a name. -/
def ofName? (name : String) : Option BindMode :=
  [inline, parameterized].find? (·.name = name)

end BindMode

/-- Query text and the values bound to its placeholders, in their order. -/
structure Fragment where
  sql : String
  params : List Scalar
deriving DecidableEq

namespace Fragment

/-- The fragment has no text. -/
def isEmpty (fragment : Fragment) : Bool :=
  fragment.sql.isEmpty

end Fragment

/-- What an expression is compiled for. -/
structure Context where
  dialect : Dialect
  resolver : Resolver

/-- A context, what becomes of values, and the parameters so far. -/
structure Writer where
  context : Context
  mode : BindMode
  params : List Scalar

namespace Writer

/-- A writer without parameters. -/
def start (context : Context) (mode : BindMode) : Writer :=
  ⟨context, mode, []⟩

/-- Writes a value. -/
def literal (writer : Writer) (value : Scalar) : String × Writer :=
  match writer.mode with
  | .inline => (writer.context.dialect.quote value, writer)
  | .parameterized =>
    let params := writer.params ++ [value]
    (writer.context.dialect.placeholder params.length, { writer with params })

/-- Writes a piece. -/
def piece (writer : Writer) : Piece → String × Writer
  | .text text => (text, writer)
  | .value value => writer.literal value

/-- Writes the pieces of a template one after the other. -/
def write (writer : Writer) : Template → String × Writer
  | [] => ("", writer)
  | p :: rest =>
    let (head, writer) := writer.piece p
    let (tail, writer) := writer.write rest
    (head ++ tail, writer)

/-- Writes templates one after the other, each as a text of its own. -/
def writeEach (writer : Writer) : List Template → List String × Writer
  | [] => ([], writer)
  | t :: rest =>
    let (text, writer) := writer.write t
    let (texts, writer) := writer.writeEach rest
    (text :: texts, writer)

/-- The columns of fields. -/
def columns (writer : Writer) (fields : List FieldName) :
    Except ExpressionError (List FieldName) :=
  writer.context.resolver.columns fields

/-- A text with the parameters so far. -/
def finish (writer : Writer) (sql : String) : Fragment :=
  ⟨sql, writer.params⟩

end Writer

namespace Template

/-- The text and the parameters of a template. -/
def render (t : Template) (context : Context) (mode : BindMode) : Fragment :=
  let (sql, writer) := (Writer.start context mode).write t
  writer.finish sql

end Template

end Criteria
