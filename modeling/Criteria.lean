import Criteria.Blanked
import Criteria.Calendar.Date
import Criteria.Calendar.Timestamp
import Criteria.Compiler
import Criteria.Condition
import Criteria.Config.Basic
import Criteria.Config.OfToml
import Criteria.Dialect
import Criteria.Error
import Criteria.Expression
import Criteria.Field.Identifier
import Criteria.Field.Name
import Criteria.Filter.Basic
import Criteria.Filter.Description
import Criteria.Filter.Meaning
import Criteria.Filter.OfInput
import Criteria.Filter.Predicate
import Criteria.Input.Error
import Criteria.Input.Filter
import Criteria.Input.Grammar
import Criteria.Input.OneOrMany
import Criteria.Input.Order
import Criteria.Input.Page
import Criteria.Input.Query
import Criteria.Input.Record
import Criteria.Input.Respelling
import Criteria.Input.Token
import Criteria.Input.Value
import Criteria.Json.Basic
import Criteria.Json.Numeral
import Criteria.Json.Printer
import Criteria.Json.Reader
import Criteria.Json.Token
import Criteria.Number.Decimal
import Criteria.Number.Double
import Criteria.Number.Shortest
import Criteria.Number.WideInt
import Criteria.Number.Word
import Criteria.Order.Basic
import Criteria.Order.OfInput
import Criteria.Page.Basic
import Criteria.Page.OfInput
import Criteria.Resolver
import Criteria.Scalar.Basic
import Criteria.Scalar.Tagged
import Criteria.Sql.Keyword
import Criteria.Sql.Literal
import Criteria.Template
import Criteria.Text.Blank
import Criteria.Text.Case
import Criteria.Text.CodePoints
import Criteria.Text.Hex
import Criteria.Text.Property.Extend
import Criteria.Text.Property.Other
import Criteria.Text.Quoted
import Criteria.Toml.Basic
import Criteria.Toml.Moment
import Criteria.Toml.Number
import Criteria.Toml.Reader
import Criteria.Toml.Text
import Criteria.Uuid
import Criteria.Vocabulary.Conjunction
import Criteria.Vocabulary.Function
import Criteria.Vocabulary.Operator
import Criteria.Vocabulary.Sorting
import Criteria.Vocabulary.Token
import Criteria.Writer
import Criteria.Proofs.Writing
import Criteria.Proofs.Binding
import Criteria.Proofs.Query
import Criteria.Proofs.Scanning
import Criteria.Proofs.Lexemes
import Criteria.Sql.Formula
import Criteria.Filter.Tree
import Criteria.Proofs.Reading
import Criteria.Proofs.Acceptance
import Criteria.Proofs.Noninterference
import Criteria.Sql.Limit
import Criteria.Sql.Machine
import Criteria.Sql.Symbol
import Criteria.Sql.Outline
import Criteria.Proofs.PageCap
import Criteria.Proofs.Nesting
import Criteria.Proofs.Precedence
import Criteria.Proofs.Operands
import Criteria.Proofs.Splicing
import Criteria.Proofs.RoundTrip
import Criteria.Proofs.Describing
import Criteria.Proofs.Respelling
import Criteria.Sql.Clauses
import Criteria.Proofs.Cutting
import Criteria.Proofs.Boundaries
import Criteria.Filter.Rules
import Criteria.Proofs.Validity
import Criteria.Field.Grammar
import Criteria.Proofs.Names
import Criteria.Proofs.Columns
import Criteria.Proofs.Checks
import Criteria.Order.Description
import Criteria.Proofs.OrderDescriptions
import Criteria.Order.Meaning
import Criteria.Proofs.SortKeys
import Criteria.Filter.Rewriting
import Criteria.Proofs.Rewriting
import Criteria.Filter.Live
import Criteria.Proofs.Faults
import Criteria.Proofs.Negation
import Criteria.Proofs.Resolution
import Criteria.Proofs.Spreading
import Criteria.Page.Window
import Criteria.Proofs.Tiling
import Criteria.Order.Strategy
import Criteria.Proofs.Strategies
import Criteria.Sql.Quotation
import Criteria.Proofs.Escaping
import Criteria.Vocabulary.Reading
import Criteria.Proofs.Parts
import Criteria.Proofs.Words
import Criteria.Vocabulary.Spelling
import Criteria.Proofs.Vocabularies
import Criteria.Sql.Row
import Criteria.Proofs.Membership
import Criteria.Number.Canonical
import Criteria.Proofs.Integers
import Criteria.Sequence
import Criteria.Proofs.Appending
