/-
Compiling queries.

A compiler is made from a configuration that breaks no rule and names a
known dialect.  It compiles the filter, the orders and the page of a query
document, each by itself, into the bodies of the three clauses that follow a
SELECT; the parameters of the parts follow one another.
-/
import Criteria.Config.Basic
import Criteria.Filter.OfInput
import Criteria.Input.Query
import Criteria.Order.OfInput
import Criteria.Page.OfInput

namespace Criteria

/-- Why a query is not compiled. -/
inductive CompileError where
  | expression (error : ExpressionError)
  | config (error : ConfigError)
  | input (error : InputError)
  | unsupportedDialect (name : String)

namespace CompileError

/-- What a reader is told. -/
def message : CompileError → String
  | expression error => "Expression error: " ++ error.message
  | config error => "Configuration error: " ++ error.message
  | input error => "Invalid query data: " ++ error.message
  | unsupportedDialect name => "Unsupported dialect: " ++ name

end CompileError

/-- The bodies of the clauses of a query, each empty where there is none, and the parameters. -/
structure CompiledQuery where
  whereBody : String := ""
  orderBody : String := ""
  limit : String := ""
  params : List Scalar := []
deriving DecidableEq

namespace CompiledQuery

/-- No clause has a body. -/
def isEmpty (query : CompiledQuery) : Bool :=
  query.whereBody.isEmpty && query.orderBody.isEmpty && query.limit.isEmpty

/-- A clause with its words in front, unless it has no body. -/
def clause (words body : String) : List String :=
  if body.isEmpty then [] else [words ++ body]

/-- What follows a SELECT. -/
def suffix (query : CompiledQuery) : String :=
  " ".intercalate
    (clause "WHERE " query.whereBody ++ clause "ORDER BY " query.orderBody ++
      clause "" query.limit)

end CompiledQuery

/-- What compiles queries. -/
structure Compiler where
  config : Config
  dialect : Dialect
  resolver : Resolver

namespace Compiler

/-- The resolver of an alias, which may be empty. -/
def resolverOfAlias (tableAlias : String) : Except NameError Resolver :=
  if tableAlias.isEmpty then .ok .plain else Resolver.ofAlias tableAlias

/-- The compiler of a configuration. -/
def ofConfig (config : Config) : Except CompileError Compiler := do
  config.check.mapError .config
  match Dialect.ofName? config.dialect with
  | none => throw (.unsupportedDialect config.dialect)
  | some dialect =>
    let resolver ← (resolverOfAlias config.tableAlias).mapError (.expression ∘ .badField)
    return { config, dialect, resolver }

/-- The same compiler with another resolver. -/
def withResolver (compiler : Compiler) (resolver : Resolver) : Compiler :=
  { compiler with resolver }

/-- What expressions are compiled for. -/
def context (compiler : Compiler) : Context :=
  ⟨compiler.dialect, compiler.resolver⟩

/-- Compiles an expression. -/
def render {ε : Type} [Expression ε] (compiler : Compiler) (e : ε) :
    Except ExpressionError Fragment :=
  Expression.render e compiler.context compiler.config.bindMode

/-- Compiles the filter that is described. -/
def compileFilter (compiler : Compiler) (input : FilterInput) :
    Except ExpressionError Fragment := do
  compiler.render (← input.toFilter compiler.config.maxDepth)

/-- Compiles the order that is described. -/
def compileOrder (compiler : Compiler) (input : OrderInput) : Except ExpressionError Fragment := do
  compiler.render (← input.toOrder)

/-- Compiles the page that is described. -/
def compilePage (compiler : Compiler) (input : PageInput) : Except ExpressionError Fragment :=
  compiler.render (input.toPageWithin compiler.config.pageSizes)

/-- Compiles a part of a query that may be missing. -/
def compileOptional {α : Type} (compile : α → Except ExpressionError Fragment) :
    Option α → Except ExpressionError Fragment
  | none => .ok ⟨"", []⟩
  | some input => compile input

/-- Compiles orders one after the other; those without text are left out. -/
def compileOrders (compiler : Compiler) (inputs : List OrderInput) :
    Except ExpressionError Fragment := do
  let fragments := (← inputs.mapM compiler.compileOrder).filter fun f => !f.isEmpty
  return ⟨", ".intercalate (fragments.map Fragment.sql), fragments.flatMap Fragment.params⟩

/-- Compiles a query: its filter, then its orders, then its page. -/
def compile (compiler : Compiler) (input : QueryInput) :
    Except ExpressionError CompiledQuery := do
  let filter ← compileOptional compiler.compileFilter input.filter
  let orders ← compileOptional compiler.compileOrders (input.order.map OneOrMany.toList)
  let page ← compileOptional compiler.compilePage input.page
  return {
    whereBody := filter.sql
    orderBody := orders.sql
    limit := page.sql
    params := filter.params ++ orders.params ++ page.params }

/-- Compiles a query document. -/
def compileJson (compiler : Compiler) (json : Json) : Except CompileError CompiledQuery := do
  let input ← (QueryInput.ofJson json).mapError .input
  (compiler.compile input).mapError .expression

end Compiler

end Criteria
