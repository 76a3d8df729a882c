/-
Universally unique identifiers.

An identifier is 128 bits, written as 32 hexadecimal digits in groups of 8,
4, 4, 4 and 12 with hyphens between.  It is read without the hyphens too,
and with them also in braces or behind `urn:uuid:` in any letter case.
-/
import Criteria.Text.Hex

namespace Criteria

/-- An identifier of 128 bits. -/
structure Uuid where
  bits : BitVec 128
deriving DecidableEq

namespace Uuid

/-- The sizes of the groups of digits. -/
def groups : List Nat := [8, 4, 4, 4, 12]

/-- The digits, the highest first. -/
def digits (u : Uuid) : List Char :=
  (List.range 32).map fun i => Text.hexDigit (u.bits.toNat / Nat.pow 16 (31 - i))

/-- Cuts a text into groups of the given sizes. -/
def cut : List Nat → List Char → List (List Char)
  | [], _ => []
  | size :: sizes, cs => cs.take size :: cut sizes (cs.drop size)

/-- The groups of digits with hyphens between. -/
def text (u : Uuid) : String :=
  String.ofList (['-'].intercalate (cut groups u.digits))

/-- Reads 32 digits. -/
def ofDigits? (cs : List Char) : Option Uuid :=
  if cs.length = 32 then (Text.hexNumber? cs).map fun n => ⟨.ofNat 128 n⟩ else none

/-- Reads groups of digits with hyphens between. -/
def ofHyphenated? (cs : List Char) : Option Uuid :=
  let bare := cs.filter (· ≠ '-')
  if ['-'].intercalate (cut groups bare) = cs then ofDigits? bare else none

/-- Reads an identifier in any of its forms. -/
def ofText? (text : String) : Option Uuid :=
  let cs := text.toList
  let urn := "urn:uuid:".toList
  if (cs.take urn.length).map Char.toLower = urn then ofHyphenated? (cs.drop urn.length)
  else match cs with
    | '\x7b' :: rest => if rest.getLast? = some '\x7d' then ofHyphenated? rest.dropLast else none
    | cs => (ofDigits? cs).orElse fun _ => ofHyphenated? cs

end Uuid

end Criteria
