import EntitySql.Text.Blank

/-!
# Column tags

The tags of a column are entries separated by `;`, each a key or a key and a value with `:` between
them.  White space around entries, keys and values does not count, nor does the ASCII case of keys;
unknown keys are passed over.  A flag is set by its key with or without a value, the other tags only
by a value, and the last one that is given holds.
-/

namespace EntitySql

/-- What the tags of a column say. -/
structure ColumnTags where
  primary : Bool := false
  unique : Bool := false
  index : Bool := false
  notNull : Bool := false
  autoIncrement : Bool := false
  size : Option UInt32 := none
  sqlType : Option String := none
  comment : Option String := none
  default : Option String := none
deriving DecidableEq, Repr, Inhabited

namespace ColumnTags

/-- One entry: its key in lower case, and its value if it has one. -/
structure Entry where
  key : List Char
  value : Option (List Char)
deriving DecidableEq, Repr

/-- Cuts a text at every occurrence of a character. -/
def splitAll (sep : Char) : List Char → List (List Char)
  | [] => [[]]
  | c :: rest =>
    if c = sep then [] :: splitAll sep rest
    else match splitAll sep rest with
      | [] => [[c]]
      | w :: ws => (c :: w) :: ws

/-- Cuts a text at the first occurrence of a character, if there is one. -/
def splitFirst (sep : Char) : List Char → Option (List Char × List Char)
  | [] => none
  | c :: rest =>
    if c = sep then some ([], rest) else (splitFirst sep rest).map fun (a, b) => (c :: a, b)

/-- The entry of a text without white space around it. -/
def Entry.ofTrimmed (s : List Char) : Entry :=
  match splitFirst ':' s with
  | some (key, value) => ⟨(Blank.trim key).map Char.toLower, some (Blank.trim value)⟩
  | none => ⟨s.map Char.toLower, none⟩

/-- The entries of a text of tags, without the blank ones. -/
def entries (s : List Char) : List Entry :=
  (((splitAll ';' s).map Blank.trim).filter (!·.isEmpty)).map Entry.ofTrimmed

/-- A decimal number below `2^32`, with an optional plus sign. -/
def readSize? (s : List Char) : Option UInt32 :=
  let ds := match s with
    | '+' :: rest => rest
    | _ => s
  if !ds.isEmpty && ds.all Char.isDigit then
    let n := ds.foldl (fun n c => 10 * n + (c.toNat - 48)) 0
    if n < UInt32.size then some (UInt32.ofNat n) else none
  else none

/-- The tags after one more entry. -/
def add (tags : ColumnTags) (e : Entry) : ColumnTags :=
  let key := String.ofList e.key
  if key = "primary" then { tags with primary := true }
  else if key = "unique" then { tags with unique := true }
  else if key = "index" then { tags with index := true }
  else if key = "not null" then { tags with notNull := true }
  else if key = "auto_increment" then { tags with autoIncrement := true }
  else match e.value with
    | none => tags
    | some v =>
      if key = "size" then { tags with size := readSize? v }
      else if key = "type" then { tags with sqlType := some (String.ofList v) }
      else if key = "comment" then { tags with comment := some (String.ofList v) }
      else if key = "default" then { tags with default := some (String.ofList v) }
      else tags

/-- Reads a text of tags. -/
def parse (s : String) : ColumnTags := (entries s.toList).foldl add {}

end ColumnTags

end EntitySql
