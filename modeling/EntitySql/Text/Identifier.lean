import EntitySql.Text.Identifier.Table
import EntitySql.Text.Span

/-!
# Identifiers

A word is a character that may start an identifier, or an underscore, followed by characters that
may continue one.  A declared name is a word that is not reserved, or any word after the mark `r#`;
five words that stand for places in a path take no mark, the lone underscore among them.
-/

namespace EntitySql.Identifier

/-- A character that a word may start with. -/
def isStart (c : Char) : Bool :=
  c == '_' || (if c.toNat < 0x80 then c.isAlpha else inIntervals (start ++ startLater) c.toNat)

/-- A character that a word may go on with. -/
def isContinue (c : Char) : Bool :=
  if c.toNat < 0x80 then c.isAlphanum || c == '_'
  else inIntervals (continuing ++ continuingLater ++ startLater) c.toNat

/-- A start and any number of characters that go on. -/
def isWord : List Char → Bool
  | [] => false
  | c :: rest => isStart c && rest.all isContinue

/-- The words that are no names. -/
def reserved : List String :=
  ["_", "abstract", "as", "async", "await", "become", "box", "break", "const", "continue", "crate",
    "do", "dyn", "else", "enum", "extern", "false", "final", "fn", "for", "if", "impl", "in", "let",
    "loop", "macro", "match", "mod", "move", "mut", "override", "priv", "pub", "ref", "return",
    "Self", "self", "static", "struct", "super", "trait", "true", "try", "type", "typeof", "unsafe",
    "unsized", "use", "virtual", "where", "while", "yield"]

/-- The words that are no names with the mark either. -/
def unmarkable : List String := ["_", "super", "self", "Self", "crate"]

/-- A name that may be declared. -/
def isName (name : String) : Bool :=
  match name.toList with
  | 'r' :: '#' :: word => isWord word && !unmarkable.contains (String.ofList word)
  | word => isWord word && !reserved.contains name

/-- A reserved word becomes a name by the mark. -/
example : isName "type" = false ∧ isName "r#type" = true := by decide

end EntitySql.Identifier
