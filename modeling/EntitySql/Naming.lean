import EntitySql.Text.Letter

/-!
# Words of a name, and their spellings

A name is cut into words at every character that is neither a letter nor a number, and inside a run
of those where the case changes: before an upper-case letter that follows a lower-case one, and
before the last of several upper-case letters when a lower-case one follows (`HTTPLog` is `HTTP` and
`Log`).  Numbers belong to the word that they stand in and have no case.

`snake` writes the words in lower case with underscores between them, `shouty` in upper case.  The
default column of a field and the default table of a type are their names in snake case, where one
leading `r#` is not part of the name.
-/

namespace EntitySql.Naming

/-- The case of the last cased letter of the current word, if the word has one yet. -/
inductive Mode where
  | boundary
  | lower
  | upper
deriving DecidableEq, Repr

/-- The mode after a letter. -/
def Mode.after (mode : Mode) (c : Char) : Mode :=
  if Letter.isLower c then .lower else if Letter.isUpper c then .upper else mode

/-- Puts a letter before the first word. -/
def attach (c : Char) : List (List Char) → List (List Char)
  | [] => [[c]]
  | w :: ws => (c :: w) :: ws

/-- The words of a run of letters and numbers, of which the first continues a word in the given
mode.

A word that ends before its first letter here is empty and is filled by what stands before it. -/
def chop : Mode → List Char → List (List Char)
  | _, [] => []
  | _, [c] => [[c]]
  | mode, c :: next :: rest =>
    if mode.after c = .lower ∧ Letter.isUpper next then
      [c] :: chop .boundary (next :: rest)
    else if mode = .upper ∧ Letter.isUpper c ∧ Letter.isLower next then
      [] :: attach c (chop .boundary (next :: rest))
    else attach c (chop (mode.after c) (next :: rest))

/-- The runs of letters and numbers of a text, empty ones included. -/
def runs : List Char → List (List Char)
  | [] => [[]]
  | c :: rest => if Letter.isAlphanumeric c then attach c (runs rest) else [] :: runs rest

/-- The words of a name. -/
def words (s : List Char) : List (List Char) := (runs s).flatMap (chop .boundary)

/-- A word in lower case; a capital sigma at its end takes the final form. -/
def lowerWord : List Char → List Char
  | [] => []
  | ['Σ'] => ['ς']
  | c :: rest => Letter.lowered c ++ lowerWord rest

/-- A word in upper case. -/
def upperWord (w : List Char) : List Char := w.flatMap Letter.raised

/-- The words in lower case. -/
def snakeChars (s : List Char) : List Char := ['_'].intercalate ((words s).map lowerWord)

/-- The words in upper case. -/
def shoutyChars (s : List Char) : List Char := ['_'].intercalate ((words s).map upperWord)

/-- A name without one leading `r#`. -/
def unmarked : List Char → List Char
  | 'r' :: '#' :: rest => rest
  | s => s

/-- A declared name without its mark. -/
def plain (name : String) : String := String.ofList (unmarked name.toList)

/-- The snake case of a declared name. -/
def snake (name : String) : String := String.ofList (snakeChars (unmarked name.toList))

/-- The upper snake case of a name. -/
def shouty (name : String) : String := String.ofList (shoutyChars name.toList)

/-- The default table of a type: its name in snake case. -/
def tableFor (typeName : String) : String := snake typeName

end EntitySql.Naming
