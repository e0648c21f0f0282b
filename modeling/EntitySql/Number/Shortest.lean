import EntitySql.Number.Binary
import EntitySql.Number.Power

/-!
# The fewest decimal digits that read back

`Decimal` is the value `digits · 10^exponent`.  `Decimal.shortest tie f m q` is the decimal with
the fewest digits that lies between the halfway points around the finite number `m · 2^q` of the
format `f`, and the nearest one to that number among those; `tie` decides between two that are
equally near.  A halfway point itself counts exactly when `m` is even, because a tie is read as the
even significand.

Below a power of two the numbers of a format stand twice as dense, so there the lower halfway point
is at half the distance.
-/

namespace EntitySql

/-- The value `digits · 10^exponent`. -/
structure Decimal where
  digits : Nat
  exponent : Int
deriving DecidableEq, Repr, Inhabited

/-- Which of two equally near decimals is taken. -/
inductive Tie where
  /-- The one with the even last digit. -/
  | even
  /-- The greater one. -/
  | up
deriving DecidableEq, Repr

/-- Whether the lower of two equally near decimals is taken. -/
def Tie.takesBelow (tie : Tie) (below : Nat) : Bool :=
  match tie with
  | .even => below % 2 == 0
  | .up => false

namespace Decimal

/-- The decimal digits of a natural number, the highest first. -/
def digitChars (n : Nat) : List Char := Nat.toDigits 10 n

/-- The same value without trailing zero digits; `fuel` bounds their number. -/
def strip : Nat → Decimal → Decimal
  | 0, d => d
  | fuel + 1, d =>
    if d.digits ≠ 0 ∧ d.digits % 10 = 0 then strip fuel ⟨d.digits / 10, d.exponent + 1⟩ else d

/-- The neighbourhood of `m · 2^q`, in units of `2^(q-2)`: its lower and upper halfway points. -/
def halfway (f : Format) (m : Nat) (q : Int) : Nat × Nat :=
  let dense := decide (m = f.hiddenBit ∧ f.leastExponent < q)
  (4 * m - (if dense then 1 else 2), 4 * m + 2)

/-- The point of the decimal grid `10^e` that reads back and is nearest to the number, if one does.

`low`, `value` and `high` are counted in units of `num / den`; only the two neighbours of the number
on the grid need a look. -/
def onGrid? (tie : Tie) (closed : Bool) (low value high num den : Nat) (e : Int) : Option Nat :=
  let (a, b) :=
    if 0 ≤ e then (num, den * powerOfTen e.toNat) else (num * powerOfTen (-e).toNat, den)
  let below := value * a / b
  let above := below + 1
  let lowFits := if closed then decide (low * a ≤ below * b) else decide (low * a < below * b)
  let highFits := if closed then decide (above * b ≤ high * a) else decide (above * b < high * a)
  let lowIsNearer := match compare (value * a - below * b) (above * b - value * a) with
    | .lt => true
    | .eq => tie.takesBelow below
    | .gt => false
  if lowFits && (!highFits || lowIsNearer) then some below
  else if highFits then some above
  else none

/-- Tries the grids of `n`, `n + 1`, … digits, at most `fuel` of them. -/
def search (grid? : Nat → Option Decimal) : Nat → Nat → Option Decimal
  | 0, _ => none
  | fuel + 1, n => (grid? n).or (search grid? fuel (n + 1))

/-- How many digits stand before the decimal point of `num / den`; zero or less for a fraction.

`powerOfTen shift` must be large enough to bring the ratio to at least one. -/
def pointPlace (shift num den : Nat) : Int :=
  (digitChars (num * powerOfTen shift / den)).length - (shift : Int)

/-- The decimal with the fewest digits that reads back as `m · 2^q`; `0` for zero. -/
def shortest (tie : Tie) (f : Format) (m : Nat) (q : Int) : Decimal :=
  if m = 0 then ⟨0, 0⟩
  else
    let (low, high) := halfway f m q
    let (num, den) := dyadicRatio 1 (q - 2)
    let place := pointPlace (-f.leastExponent).toNat (4 * m * num) den
    let grid? (n : Nat) : Option Decimal :=
      let e := place - n
      (onGrid? tie (m % 2 == 0) low (4 * m) high num den e).map (⟨·, e⟩)
    match search grid? 20 1 with
    | some d => strip 20 d
    | none => ⟨0, 0⟩

end Decimal

end EntitySql
