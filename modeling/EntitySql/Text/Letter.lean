import EntitySql.Text.Letter.Table

/-!
# Letters and their case

The classes and case mappings that names are split and respelled by.  ASCII characters are decided
by arithmetic, all others by the tables.
-/

namespace EntitySql.Letter

/-- Code points below this are ASCII. -/
def asciiEnd : Nat := 0x80

/-- A letter, or a number of any kind. -/
def isAlphanumeric (c : Char) : Bool :=
  if c.toNat < asciiEnd then c.isAlphanum else inIntervals alphanumeric c.toNat

/-- An upper-case letter. -/
def isUpper (c : Char) : Bool :=
  if c.toNat < asciiEnd then c.isUpper else upper.any (·.has c.toNat)

/-- A lower-case letter. -/
def isLower (c : Char) : Bool :=
  if c.toNat < asciiEnd then c.isLower else lower.any (·.has c.toNat)

/-- A case mapping beyond ASCII: the table of single characters, then that of longer texts. -/
def mapped (single : List Shift) (long : List (Nat × List Nat)) (c : Char) : List Char :=
  match Shift.find? single c.toNat with
  | some n => [Char.ofNat n]
  | none =>
    match long.lookup c.toNat with
    | some ns => ns.map Char.ofNat
    | none => [c]

/-- The lower case of a character. -/
def lowered (c : Char) : List Char :=
  if c.toNat < asciiEnd then [c.toLower] else mapped toLower toLowerLong c

/-- The upper case of a character. -/
def raised (c : Char) : List Char :=
  if c.toNat < asciiEnd then [c.toUpper] else mapped toUpper toUpperLong c

end EntitySql.Letter
