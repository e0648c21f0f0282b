import EntitySql.Number.Binary
import EntitySql.Number.Power

/-!
# Numbers in JSON

A number without point and exponent is an integer as long as it fits 64 bits, signed or unsigned;
any other number is a float, and so is `-0`.

A float is read by the digits that fit 64 bits: integer digits beyond them only move the point, and
further digits behind the point are dropped.  The digits, taken as a float, are then multiplied or
divided once by the power of ten, taken as a float too (`scaled?`).  A number beyond the greatest
float is refused.
-/

namespace EntitySql.Json

/-- A number as it is read. -/
inductive Numeric where
  | integer (n : Int)
  | float (x : Double)
deriving DecidableEq, Repr, Inhabited

/-! ### Digits -/

/-- Whether a digit can be appended without leaving 64 bits. -/
def fits (significand digit : Nat) : Bool := 10 * significand + digit < UInt64.size

/-- The digits that were read: those that fit, and how far they are from their place. -/
structure Digits where
  significand : Nat := 0
  exponent : Int := 0
  /-- Whether a digit was left out. -/
  full : Bool := false
deriving DecidableEq, Repr, Inhabited

namespace Digits

/-- One more digit before the point. -/
def addInteger (ds : Digits) (digit : Nat) : Digits :=
  if !ds.full && fits ds.significand digit then
    { ds with significand := 10 * ds.significand + digit }
  else { ds with exponent := ds.exponent + 1, full := true }

/-- One more digit behind the point. -/
def addFraction (ds : Digits) (digit : Nat) : Digits :=
  if !ds.full && fits ds.significand digit then
    { ds with significand := 10 * ds.significand + digit, exponent := ds.exponent - 1 }
  else { ds with full := true }

end Digits

/-- The values of the digits at the start, and what comes after them. -/
def leadingDigits (s : List Char) : List Nat × List Char :=
  ((s.takeWhile Char.isDigit).map fun c => c.toNat - 48, s.dropWhile Char.isDigit)

/-- The digits before the point: a single zero, or digits that do not begin with zero. -/
def integerDigits (s : List Char) : Option (Digits × List Char) :=
  match leadingDigits s with
  | ([], _) => none
  | (0 :: _ :: _, _) => none
  | (ds, rest) => some (ds.foldl Digits.addInteger {}, rest)

/-- Point and digits after the given ones; nothing to read leaves them as they are. -/
def fractionDigits (ds : Digits) : List Char → Option (Digits × List Char)
  | '.' :: s =>
    match leadingDigits s with
    | ([], _) => none
    | (fs, rest) => some (fs.foldl Digits.addFraction { ds with full := false }, rest)
  | s => some (ds, s)

/-- The exponent behind its mark. -/
def exponentDigits (s : List Char) : Option (Int × List Char) :=
  let (negative, s) := match s with
    | '+' :: rest => (false, rest)
    | '-' :: rest => (true, rest)
    | _ => (false, s)
  match leadingDigits s with
  | ([], _) => none
  | (ds, rest) =>
    let n : Nat := ds.foldl (fun n d => 10 * n + d) 0
    some (if negative then -(n : Int) else n, rest)

/-! ### Scaling -/

/-- The float nearest to a ratio, as a ratio of its own; nothing if it is infinite. -/
def nearest? (num den : Nat) : Option (Nat × Nat) :=
  (Double.ofRatio false num den).ratio?.map (·.2)

/-- The greatest exponent of ten that floats have. -/
def greatestExponent : Nat := 308

/-- A float times a power of ten, where each factor and each result is rounded to a float.
Exponents below the range of floats are taken in portions. -/
def scaled? (num den : Nat) (e : Int) : Option (Nat × Nat) :=
  if 0 ≤ e then
    if num = 0 then some (0, 1)
    else if e ≤ greatestExponent then do
      let (a, b) ← nearest? (powerOfTen e.toNat) 1
      nearest? (num * a) (den * b)
    else none
  else if -e ≤ greatestExponent then do
    let (a, b) ← nearest? (powerOfTen (-e).toNat) 1
    nearest? (num * b) (den * a)
  else if num = 0 then some (0, 1)
  else do
    let (a, b) ← nearest? (powerOfTen greatestExponent) 1
    let (num, den) ← nearest? (num * b) (den * a)
    scaled? num den (e + greatestExponent)
termination_by (-e).toNat
decreasing_by simp only [greatestExponent] at *; omega

/-- The float of digits and sign. -/
def Digits.toDouble? (ds : Digits) (negative : Bool) (e : Int) : Option Double := do
  let (num, den) ← nearest? ds.significand 1
  let (num, den) ← scaled? num den (ds.exponent + e)
  return Double.ofRatio negative num den

/-! ### Reading -/

/-- Digits before the point as an integer, if they fit and are not a negative zero. -/
def Digits.toInteger? (ds : Digits) (negative : Bool) : Option Int :=
  let n := ds.significand
  if ds.full then none
  else if !negative then some n
  else if 0 < n ∧ n ≤ Int64.minValue.toInt.natAbs then some (-(n : Int))
  else none

/-- A number without sign at the start of the characters. -/
def readUnsigned (negative : Bool) (s : List Char) : Option (Numeric × List Char) := do
  let (whole, s₁) ← integerDigits s
  let (ds, s₂) ← fractionDigits whole s₁
  match s₂ with
  | 'e' :: rest | 'E' :: rest =>
    let (e, after) ← exponentDigits rest
    return (.float (← ds.toDouble? negative e), after)
  | _ =>
    match if s₁.length = s₂.length then whole.toInteger? negative else none with
    | some n => return (.integer n, s₂)
    | none => return (.float (← ds.toDouble? negative 0), s₂)

/-- A number at the start of the characters. -/
def readNumeric : List Char → Option (Numeric × List Char)
  | '-' :: rest => readUnsigned true rest
  | s => readUnsigned false s

end EntitySql.Json
