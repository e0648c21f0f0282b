/-!
# Powers of ten

`powerOfTen n` is the number that is written as a one and `n` zeros.  Powers of two are shifts and
need no definition of their own.
-/

namespace EntitySql

/-- The power of ten with the given exponent. -/
def powerOfTen (n : Nat) : Nat := Nat.pow 10 n

end EntitySql
