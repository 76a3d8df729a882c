/-
Configurations from TOML.

A document has a section for the compiler and one for pages.  What is
missing keeps its default, and unknown names are passed over.  A section is
a table, or an array with its values in a fixed order.  A configuration that
is read breaks no rule.
-/
import Criteria.Config.Basic
import Criteria.Toml.Reader

namespace Criteria.Config

/-- The value is a text. -/
def stringOf? : Toml → Option String
  | .string text => some text
  | _ => none

/-- The value is a whole number that fits an unsigned word. -/
def wordOf? : Toml → Option UInt64
  | .integer n => (WideInt.ofInt? n).bind WideInt.toUInt64?
  | _ => none

/-- The value is nothing: an empty array or table. -/
def isUnit : Toml → Bool
  | .array items _ => items.isEmpty
  | .table _ entries => entries.isEmpty
  | _ => false

/-- The value is the name of a mode, or a table with that name as its only key and nothing in it. -/
def modeOf? : Toml → Option BindMode
  | .string name => BindMode.ofName? name
  | .table _ [(name, content)] => if isUnit content then BindMode.ofName? name else none
  | _ => none

/-- A value of a section: its name, and how it is put into the configuration. -/
abbrev Setting := String × (Config → Toml → Option Config)

/-- Puts the entries of a table into a configuration.  Those of other names must be readable. -/
def readTable (settings : List Setting) (config : Config) (entries : Toml.Entries) :
    Option Config :=
  entries.foldlM (fun config (name, value) =>
    match settings.lookup name with
    | some put => put config value
    | none => if value.isReadable then some config else none) config

/-- Puts the values of a section into a configuration.  Items of an array behind the last setting
are not looked at, and a date or a time has no values. -/
def readSection (settings : List Setting) (config : Config) : Toml → Option Config
  | .table _ entries => readTable settings config entries
  | .array items _ =>
    (settings.zip items).foldlM (fun config (setting, value) => setting.2 config value) config
  | .moment => some config
  | _ => none

/-- The values of the section for the compiler. -/
def compilerSettings : List Setting :=
  [("dialect", fun c v => do return { c with dialect := ← stringOf? v }),
    ("default_table_alias", fun c v => do return { c with tableAlias := ← stringOf? v }),
    ("bind_mode", fun c v => do return { c with bindMode := ← modeOf? v }),
    ("max_nesting_depth", fun c v => do return { c with maxDepth := (← wordOf? v).toNat })]

/-- The values of the section for pages. -/
def pageSettings : List Setting :=
  [("default_num_per_page", fun c v => do
      return { c with pageSizes := { c.pageSizes with default := ← wordOf? v } }),
    ("max_num_per_page", fun c v => do
      return { c with pageSizes := { c.pageSizes with max := ← wordOf? v } })]

/-- The sections. -/
def sections : List Setting :=
  [("compiler", readSection compilerSettings), ("pagination", readSection pageSettings)]

/-- Reads a configuration without checking its rules. -/
def parse? (text : String) : Option Config := do
  readTable sections {} (← Toml.parse? text)

/-- Reads a configuration that breaks no rule. -/
def ofToml (text : String) : Except ConfigError Config :=
  match parse? text with
  | none => .error .malformed
  | some config => do
    config.check
    return config

end Criteria.Config
