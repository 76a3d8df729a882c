/-
Configurations.

A configuration names the dialect, the alias of the table that fields
without a table belong to, what becomes of values, how deep filters may be
nested, and the sizes of pages.  `check` names the first rule that a
configuration breaks.
-/
import Criteria.Field.Identifier
import Criteria.Text.Blank
import Criteria.Writer

namespace Criteria

/-- The number of rows on a page where none is asked for, and the most there may be; 0 rows stand
for all rows, and a greatest number of 0 for no limit. -/
structure PageSizes where
  default : UInt64 := 20
  max : UInt64 := 0
deriving DecidableEq

namespace PageSizes

/-- The number of rows on a page for which a number is asked, or none. -/
def effective (sizes : PageSizes) (requested : Option UInt64) : UInt64 :=
  let size := requested.getD sizes.default
  if sizes.max > 0 then min size sizes.max else size

end PageSizes

/-- The configuration of a compiler. -/
structure Config where
  dialect : String := "mysql"
  tableAlias : String := ""
  bindMode : BindMode := .inline
  maxDepth : Nat := 64
  pageSizes : PageSizes := {}
deriving DecidableEq

/-- Why a configuration is refused. -/
inductive ConfigError where
  | emptyDialect
  | zeroDepth
  | badAlias (text : String) (fault : Identifier.Fault)
  | defaultAboveMax
  | malformed
deriving DecidableEq

namespace ConfigError

/-- What is said about an alias that breaks a rule. -/
def faultMessage : Identifier.Fault → String
  | .empty => "is empty"
  | .tooLong _ => s!"is longer than {Identifier.maxLength} characters"
  | .badStart => "must start with a letter or underscore"
  | .badCharacter => "may only contain alphanumeric characters and underscores"
  | .reserved => "is a reserved SQL keyword"

/-- What a reader is told; a text that is no configuration is told by its reader. -/
def message : ConfigError → String
  | emptyDialect => "Invalid configuration: Compiler dialect cannot be empty"
  | zeroDepth => "Invalid configuration: Compiler max_nesting_depth must be greater than 0"
  | badAlias text fault =>
    s!"Invalid configuration: Compiler default_table_alias '{text}' " ++ faultMessage fault
  | defaultAboveMax =>
    "Invalid configuration: Pagination default_num_per_page cannot be greater than max_num_per_page"
  | malformed => "TOML parsing error"

end ConfigError

namespace Config

/-- The first rule that the alias of a table breaks.  It may be empty, and is one word otherwise; a
point is a character like any other here. -/
def aliasFault? (text : String) : Option Identifier.Fault :=
  match text.toList with
  | [] => none
  | first :: rest =>
    if Identifier.maxLength < text.utf8ByteSize then some (.tooLong text.utf8ByteSize)
    else if !(first.isAlpha || first = '_') then some .badStart
    else if !(first :: rest).all (fun c => c.isAlphanum || c = '_') then some .badCharacter
    else if Sql.isKeyword text then some .reserved
    else none

/-- Refuses a configuration that breaks a rule. -/
def check (config : Config) : Except ConfigError Unit := do
  if (Text.trim config.dialect).isEmpty then throw .emptyDialect
  if config.maxDepth = 0 then throw .zeroDepth
  if let some fault := aliasFault? config.tableAlias then
    throw (.badAlias config.tableAlias fault)
  if config.pageSizes.max > 0 && config.pageSizes.default > config.pageSizes.max then
    throw .defaultAboveMax

end Config

end Criteria
