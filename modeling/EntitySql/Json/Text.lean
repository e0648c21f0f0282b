import EntitySql.Text.Hex

/-!
# Texts in JSON

A text stands between double quotes.  Written are only the escapes that have to be: of the quote, of
the backslash, and of the control characters below the blank, five of which have a letter.  Read is
every escape of JSON; two escapes `\u` of a surrogate pair are one character, and half of a pair is
refused, as is a control character that stands for itself.
-/

namespace EntitySql.Json

/-! ### Writing -/

/-- The letters of the escapes with the code points that they stand for. -/
def letters : List (Char × Nat) :=
  [('"', 0x22), ('\\', 0x5c), ('b', 8), ('f', 12), ('n', 10), ('r', 13), ('t', 9)]

/-- A character between the quotes. -/
def escape (c : Char) : List Char :=
  match letters.find? (·.2 == c.toNat) with
  | some (letter, _) => ['\\', letter]
  | none => if c.toNat < 0x20 then '\\' :: 'u' :: Hex.digits 4 c.toNat else [c]

/-- A text in quotes. -/
def textChars (s : List Char) : List Char := '"' :: (s.flatMap escape ++ ['"'])

/-! ### Reading -/

/-- The character that an escape with a letter stands for; a slash stands for itself. -/
def unescape? (letter : Char) : Option Char :=
  if letter = '/' then some '/' else (letters.lookup letter).map Char.ofNat

/-- The first half of a surrogate pair. -/
def isLeading (n : Nat) : Bool := 0xd800 ≤ n && n ≤ 0xdbff

/-- The second half of a surrogate pair. -/
def isTrailing (n : Nat) : Bool := 0xdc00 ≤ n && n ≤ 0xdfff

/-- The character of a surrogate pair. -/
def paired (leading trailing : Nat) : Char :=
  Char.ofNat (0x10000 + (leading - 0xd800) * 0x400 + (trailing - 0xdc00))

/-- The characters up to the closing quote, and what comes after it. -/
def untilQuote : List Char → Option (List Char × List Char)
  | [] => none
  | '"' :: rest => some ([], rest)
  | '\\' :: 'u' :: a :: b :: c :: d :: '\\' :: 'u' :: e :: f :: g :: h :: rest => do
    let n ← Hex.value? [a, b, c, d]
    if isLeading n then
      let m ← Hex.value? [e, f, g, h]
      if isTrailing m then
        let (s, after) ← untilQuote rest
        return (paired n m :: s, after)
      else none
    else if isTrailing n then none
    else
      let (s, after) ← untilQuote ('\\' :: 'u' :: e :: f :: g :: h :: rest)
      return (Char.ofNat n :: s, after)
  | '\\' :: 'u' :: a :: b :: c :: d :: rest => do
    let n ← Hex.value? [a, b, c, d]
    if isLeading n || isTrailing n then none
    else
      let (s, after) ← untilQuote rest
      return (Char.ofNat n :: s, after)
  | '\\' :: letter :: rest => do
    let c ← unescape? letter
    let (s, after) ← untilQuote rest
    return (c :: s, after)
  | ['\\'] => none
  | c :: rest => do
    if c.toNat < 0x20 then none
    else
      let (s, after) ← untilQuote rest
      return (c :: s, after)

/-- A text in quotes at the start of the characters. -/
def readText : List Char → Option (List Char × List Char)
  | '"' :: rest => untilQuote rest
  | _ => none

end EntitySql.Json
