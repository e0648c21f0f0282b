import EntitySql.Number.Shortest

/-!
# Written floating-point numbers

A numeral carries the fewest digits that read back.  A `Numeral` says which of two equally near ones
are taken and how they are laid out: which decimal exponents are written positionally, and whether a
positive exponent has a sign.  There is always a point or an exponent, so that a numeral never reads
as an integer.

`Numeral.described` is the layout inside a described value, `Numeral.jsonDouble` and
`Numeral.jsonSingle` are the layouts of the two formats in JSON.
-/

namespace EntitySql

/-- A layout of numerals. -/
structure Numeral where
  /-- Which of two equally near decimals is written. -/
  tie : Tie
  /-- The least exponent of a leading digit that is written positionally. -/
  least : Int
  /-- The greatest exponent of a leading digit that is written positionally. -/
  greatest : Int
  /-- Whether a positive exponent is written with a plus sign. -/
  plus : Bool
deriving DecidableEq, Repr

namespace Numeral

/-- Positional from `0.0001` up to below `1e16`, no plus sign, ties away from zero. -/
def described : Numeral := ⟨.up, -4, 15, false⟩

/-- Positional from `0.00001` up to below `1e+16`, ties to even. -/
def jsonDouble : Numeral := ⟨.even, -5, 15, true⟩

/-- Positional from `0.000001` up to below `1e+13`, ties to even. -/
def jsonSingle : Numeral := ⟨.even, -6, 12, true⟩

/-- The digits `ds` with the leading one at `10^lead`, written positionally. -/
def positional (ds : List Char) (lead : Int) : List Char :=
  if lead < 0 then '0' :: '.' :: (List.replicate (-lead - 1).toNat '0' ++ ds)
  else
    let whole := lead.toNat + 1
    if ds.length ≤ whole then ds ++ List.replicate (whole - ds.length) '0' ++ ['.', '0']
    else ds.take whole ++ '.' :: ds.drop whole

/-- The digits `ds` with the leading one at `10^lead`, written with an exponent. -/
def scientific (plus : Bool) (ds : List Char) (lead : Int) : List Char :=
  let mantissa := match ds with
    | [] => []
    | [d] => [d]
    | d :: rest => d :: '.' :: rest
  let sign := if lead < 0 then ['-'] else if plus then ['+'] else []
  mantissa ++ 'e' :: (sign ++ Decimal.digitChars lead.natAbs)

/-- The text of the magnitude of a decimal; zero is `0.0`. -/
def magnitude (s : Numeral) (d : Decimal) : List Char :=
  if d.digits = 0 then ['0', '.', '0']
  else
    let ds := Decimal.digitChars d.digits
    let lead := d.exponent + ds.length - 1
    if s.least ≤ lead ∧ lead ≤ s.greatest then positional ds lead else scientific s.plus ds lead

/-- The text of a decoded number of a format: `NaN`, `inf`, `-inf`, or its numeral. -/
def ofDecoded (s : Numeral) (f : Format) : Decoded → String
  | .nan => "NaN"
  | .infinite negative => if negative then "-inf" else "inf"
  | .finite negative m q =>
    let ds := s.magnitude (Decimal.shortest s.tie f m q)
    String.ofList (if negative then '-' :: ds else ds)

/-- The text of a 64-bit number. -/
def ofDouble (s : Numeral) (x : Double) : String := s.ofDecoded .double x.decode

/-- The text of a 32-bit number. -/
def ofSingle (s : Numeral) (x : Single) : String := s.ofDecoded .single x.decode

end Numeral

end EntitySql
