/-
TOML values and tables.

A table remembers how it came to be: from a header of its own, as a part of
a longer header, from a dotted key, or between braces.  This decides what
may still be added to it: a table between braces is closed, a table has one
header at most, and a dotted key adds only to tables that dotted keys made.

A number that is written but cannot be held is a value without a content.
Only a reader that looks at it has to refuse it.
-/
namespace Criteria

/-- How a table came to be. -/
inductive TableOrigin where
  | header
  | implied
  | dotted
  | inline
deriving DecidableEq

/-- A TOML value.  The values of floats and dates are left out: only their kind is told apart. -/
inductive Toml where
  | string (text : String)
  | integer (value : Int)
  | float
  | bool (value : Bool)
  | moment
  | unreadable
  | array (items : List Toml) (ofTables : Bool)
  | table (origin : TableOrigin) (entries : List (String × Toml))
deriving Inhabited

namespace Toml

/-- The entries of a table. -/
abbrev Entries := List (String × Toml)

mutual

/-- All numbers in the value can be read. -/
def isReadable : Toml → Bool
  | .unreadable => false
  | .array items _ => areReadable items
  | .table _ entries => entriesReadable entries
  | .string _ | .integer _ | .float | .bool _ | .moment => true

/-- All numbers in the values can be read. -/
def areReadable : List Toml → Bool
  | [] => true
  | item :: rest => item.isReadable && areReadable rest

/-- All numbers in the entries can be read. -/
def entriesReadable : List (String × Toml) → Bool
  | [] => true
  | (_, value) :: rest => value.isReadable && entriesReadable rest

end

/-- Puts a value in the place of the value of a key. -/
def replace (key : String) (value : Toml) (entries : Entries) : Entries :=
  entries.map fun (k, v) => if k = key then (k, value) else (k, v)

/-- The table that a key names, for adding to it: a new one, one that is there, or the last of an
array of tables.  `add` gets its origin and its entries. -/
def inside (key : String) (dotted : Bool)
    (add : TableOrigin → Entries → Option Entries) (entries : Entries) : Option Entries :=
  match entries.lookup key with
  | none => do
    let origin := if dotted then .dotted else .implied
    return entries ++ [(key, .table origin (← add origin []))]
  | some (.table origin inner) =>
    if origin = .inline || (dotted && origin = .header) then none
    else do return replace key (.table origin (← add origin inner)) entries
  | some (.array items true) =>
    match items.getLast? with
    | some (.table origin inner) => do
      return replace key (.array (items.dropLast ++ [.table origin (← add origin inner)]) true)
        entries
    | _ => none
  | some _ => none

/-- Adds to the table at the end of a path. -/
def within (dotted : Bool) (path : List String)
    (add : TableOrigin → Entries → Option Entries) : TableOrigin → Entries → Option Entries :=
  path.foldr (fun key add _ entries => inside key dotted add entries) add

/-- Adds a value under a key, which must be new; a dotted key adds only to a table that a dotted
key made. -/
def insertAt (path : List String) (key : String) (value : Toml) (entries : Entries) :
    Option Entries :=
  within true path (fun origin inner =>
    if !path.isEmpty && origin ≠ .dotted then none
    else if (inner.lookup key).isSome then none
    else some (inner ++ [(key, value)])) .header entries

/-- Opens the table of a header. -/
def openTable (path : List String) (key : String) (entries : Entries) : Option Entries :=
  within false path (fun _ inner =>
    match inner.lookup key with
    | none => some (inner ++ [(key, .table .header [])])
    | some (.table .implied content) => some (replace key (.table .header content) inner)
    | some _ => none) .header entries

/-- Opens one more table of an array of tables. -/
def openArrayItem (path : List String) (key : String) (entries : Entries) : Option Entries :=
  within false path (fun _ inner =>
    match inner.lookup key with
    | none => some (inner ++ [(key, .array [.table .header []] true)])
    | some (.array items true) =>
      some (replace key (.array (items ++ [.table .header []]) true) inner)
    | some _ => none) .header entries

end Toml

end Criteria
