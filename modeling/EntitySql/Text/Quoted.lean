import EntitySql.Text.Printable

/-!
# Described texts

How a text is shown inside a described value: in double quotes, with a backslash before a quote and
a backslash, the short escapes of tab, line feed, carriage return and NUL, and the code point in
hexadecimal for what has no visible form of its own.
-/

namespace EntitySql.Quoted

/-- The escape of a code point: its lower-case hexadecimal digits in braces. -/
def codePoint (c : Char) : List Char :=
  '\\' :: 'u' :: Char.ofNat 0x7b :: (Nat.toDigits 16 c.toNat ++ [Char.ofNat 0x7d])

/-- A character inside the quotes. -/
def escape (c : Char) : List Char :=
  if c = '"' then ['\\', '"']
  else if c = '\\' then ['\\', '\\']
  else if c = '\t' then ['\\', 't']
  else if c = '\n' then ['\\', 'n']
  else if c.toNat = 13 then ['\\', 'r']
  else if c.toNat = 0 then ['\\', '0']
  else if Printable.isVisible c then [c]
  else codePoint c

/-- The described text. -/
def describe (s : String) : String :=
  String.ofList ('"' :: (s.toList.flatMap escape ++ ['"']))

end EntitySql.Quoted
