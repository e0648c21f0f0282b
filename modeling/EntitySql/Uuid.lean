import EntitySql.Text.Hex

/-!
# UUIDs

A `Uuid` is 128 bits.  Its text has 32 lower-case hexadecimal digits in groups of 8, 4, 4, 4 and 12;
`Uuid.ofText?` reads also upper case, the digits without hyphens, and the hyphenated form in braces
or after `urn:uuid:`, which may be in any case.
-/

namespace EntitySql

/-- A universally unique identifier. -/
structure Uuid where
  bits : BitVec 128
deriving DecidableEq, Repr, Inhabited

namespace Uuid

/-- The identifier of all zero bits. -/
def nil : Uuid := ⟨0⟩

/-- The sizes of the groups of digits. -/
def groups : List Nat := [8, 4, 4, 4, 12]

/-- Cuts a list into groups of the given sizes, with a hyphen between two groups. -/
def hyphenate : List Nat → List Char → List Char
  | [], s => s
  | [_], s => s
  | size :: sizes, s => s.take size ++ '-' :: hyphenate sizes (s.drop size)

/-- The canonical text. -/
def text (u : Uuid) : String :=
  String.ofList (hyphenate groups (Hex.digits 32 u.bits.toNat))

/-- The bytes, the highest first. -/
def bytes (u : Uuid) : List Nat :=
  (List.range 16).map fun i => u.bits.toNat >>> (8 * (15 - i)) % 256

/-- 32 digits without separators. -/
def ofDigits? (s : List Char) : Option Uuid :=
  if s.length = 32 then (Hex.value? s).map fun n => ⟨BitVec.ofNat 128 n⟩ else none

/-- 32 digits with the four hyphens. -/
def ofHyphenated? (s : List Char) : Option Uuid :=
  let ds := s.filter (· ≠ '-')
  if hyphenate groups ds = s then ofDigits? ds else none

/-- Reads a text in one of its forms. -/
def ofText? (text : String) : Option Uuid :=
  let s := text.toList
  let inner := s.tail.dropLast
  if s.length = 32 then ofDigits? s
  else if s.length = 38 ∧ s = Char.ofNat 0x7b :: (inner ++ [Char.ofNat 0x7d]) then
    ofHyphenated? inner
  else if (s.take 9).map Char.toLower = "urn:uuid:".toList then ofHyphenated? (s.drop 9)
  else ofHyphenated? s

end Uuid

end EntitySql
