/-!
# Hexadecimal digits

`Hex.digits count n` writes the lowest `count` digits of `n`, in lower case and the highest first.
`Hex.value?` reads digits of either case.
-/

namespace EntitySql.Hex

/-- `count` hexadecimal digits of `n`, the highest first. -/
def digits : Nat → Nat → List Char
  | 0, _ => []
  | count + 1, n => digits count (n / 16) ++ [Nat.digitChar (n % 16)]

/-- The value of a hexadecimal digit of either case. -/
def digitValue? (c : Char) : Option Nat :=
  let n := c.toNat
  if 48 ≤ n ∧ n ≤ 57 then some (n - 48)
  else if 97 ≤ n ∧ n ≤ 102 then some (n - 87)
  else if 65 ≤ n ∧ n ≤ 70 then some (n - 55)
  else none

/-- The value of hexadecimal digits, the highest first. -/
def value? (s : List Char) : Option Nat :=
  s.foldlM (fun n c => (digitValue? c).map (16 * n + ·)) 0

end EntitySql.Hex
