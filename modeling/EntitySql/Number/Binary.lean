/-!
# Binary floating-point numbers

A `Format` is an IEEE 754 binary interchange format, `Double` and `Single` are the numbers of the
two formats, held as their bit patterns.  A finite number is `m · 2^q` with natural `m`
(`Format.decode`); `Format.round` takes a ratio of natural numbers to the nearest number of the
format, a tie to the even significand, and a value too large to infinity.

Everything is arithmetic on natural numbers and integers, so that statements about it need no
axioms on floating-point operations.
-/

namespace EntitySql

/-- A binary interchange format: significand bits (the hidden one included) and exponent bits. -/
structure Format where
  precision : Nat
  exponentBits : Nat
deriving DecidableEq, Repr

/-- What a bit pattern stands for. -/
inductive Decoded where
  | nan
  | infinite (negative : Bool)
  /-- The value `± m · 2^q`. -/
  | finite (negative : Bool) (m : Nat) (q : Int)
deriving DecidableEq, Repr

namespace Format

/-- The format of `Double`: 53 significand bits, 11 exponent bits. -/
def double : Format := ⟨53, 11⟩

/-- The format of `Single`: 24 significand bits, 8 exponent bits. -/
def single : Format := ⟨24, 8⟩

/-- The bit above the fraction, which normal numbers have and do not store. -/
def hiddenBit (f : Format) : Nat := 1 <<< (f.precision - 1)

/-- The least `q` of the format: `-1074` for `double`, `-149` for `single`. -/
def leastExponent (f : Format) : Int :=
  3 - ((1 <<< (f.exponentBits - 1) + f.precision : Nat) : Int)

/-- The magnitude bits of infinity: every exponent bit set, the fraction zero. -/
def infinityBits (f : Format) : Nat :=
  ((1 <<< f.exponentBits) - 1) * f.hiddenBit

/-- The bit that carries the sign. -/
def signBit (f : Format) : Nat :=
  f.hiddenBit <<< f.exponentBits

/-- The number that a bit pattern stands for. -/
def decode (f : Format) (bits : Nat) : Decoded :=
  let negative := decide (f.signBit ≤ bits)
  let magnitude := bits % f.signBit
  if f.infinityBits < magnitude then .nan
  else if magnitude = f.infinityBits then .infinite negative
  else
    let field := magnitude / f.hiddenBit
    let fraction := magnitude % f.hiddenBit
    if field = 0 then .finite negative fraction f.leastExponent
    else .finite negative (f.hiddenBit + fraction) (f.leastExponent + field - 1)

/-- The nearest natural number to `num / den`, a tie to the even one. -/
def roundQuotient (num den : Nat) : Nat :=
  let low := num / den
  let rest := num % den
  if den < 2 * rest ∨ (2 * rest = den ∧ low % 2 = 1) then low + 1 else low

/-- `num / den` as a ratio of natural numbers after division by `2 ^ q`. -/
def dividePow2 (num den : Nat) (q : Int) : Nat × Nat :=
  if 0 ≤ q then (num, den <<< q.toNat) else (num <<< (-q).toNat, den)

/-- The binary exponent of a positive ratio: the `e` with `2^e ≤ num / den < 2^(e+1)`. -/
def ratioExponent (num den : Nat) : Int :=
  let guess : Int := (Nat.log2 num : Int) - (Nat.log2 den : Int)
  let (a, b) := dividePow2 num den guess
  if b ≤ a then guess else guess - 1

/-- The magnitude bits of the number nearest to `num / den`.

A significand `m` at exponent `q` has the bits `(q - leastExponent) · 2^(precision-1) + m`, below
the normal range as well as in it, and a significand rounded up to the next power of two carries
into the exponent by the same sum. -/
def round (f : Format) (num den : Nat) : Nat :=
  if num = 0 then 0
  else
    let q := max f.leastExponent (ratioExponent num den - (f.precision - 1))
    let (a, b) := dividePow2 num den q
    min f.infinityBits ((q - f.leastExponent).toNat * f.hiddenBit + roundQuotient a b)

end Format

/-- The value `m · 2^q` as a ratio of natural numbers. -/
def dyadicRatio (m : Nat) (q : Int) : Nat × Nat :=
  if 0 ≤ q then (m <<< q.toNat, 1) else (m, 1 <<< (-q).toNat)

/-- Places two finite magnitudes with signs; both zeros are one place. -/
def signedPlace (signBit bits : Nat) : Int :=
  if signBit ≤ bits then -((bits - signBit : Nat) : Int) else bits

/-! ### The 64-bit format -/

/-- A 64-bit floating-point number, held as its bits. -/
structure Double where
  bits : UInt64
deriving DecidableEq, Repr, Inhabited

namespace Double

/-- What the number stands for. -/
def decode (x : Double) : Decoded := Format.double.decode x.bits.toNat

/-- Neither infinite nor a NaN. -/
def isFinite (x : Double) : Bool :=
  match x.decode with
  | .finite .. => true
  | _ => false

/-- No number. -/
def isNaN (x : Double) : Bool := x.decode == .nan

/-- Positive zero. -/
def zero : Double := ⟨0⟩

/-- The number with the given sign and magnitude bits. -/
def ofMagnitude (negative : Bool) (magnitude : Nat) : Double :=
  ⟨UInt64.ofNat (if negative then Format.double.signBit + magnitude else magnitude)⟩

/-- The number nearest to `± num / den`. -/
def ofRatio (negative : Bool) (num den : Nat) : Double :=
  ofMagnitude negative (Format.double.round num den)

/-- The ratio and sign of a finite number. -/
def ratio? (x : Double) : Option (Bool × Nat × Nat) :=
  match x.decode with
  | .finite negative m q => some (negative, dyadicRatio m q)
  | _ => none

/-- The order of the numbers; a NaN has no place in it, and the two zeros are equal. -/
def compare? (x y : Double) : Option Ordering :=
  if x.isNaN || y.isNaN then none
  else
    let place (z : Double) := signedPlace Format.double.signBit z.bits.toNat
    some (compare (place x) (place y))

end Double

/-! ### The 32-bit format -/

/-- A 32-bit floating-point number, held as its bits. -/
structure Single where
  bits : UInt32
deriving DecidableEq, Repr, Inhabited

namespace Single

/-- What the number stands for. -/
def decode (x : Single) : Decoded := Format.single.decode x.bits.toNat

/-- Positive zero. -/
def zero : Single := ⟨0⟩

/-- Neither infinite nor a NaN. -/
def isFinite (x : Single) : Bool :=
  match x.decode with
  | .finite .. => true
  | _ => false

/-- No number. -/
def isNaN (x : Single) : Bool := x.decode == .nan

/-- The number with the given sign and magnitude bits. -/
def ofMagnitude (negative : Bool) (magnitude : Nat) : Single :=
  ⟨UInt32.ofNat (if negative then Format.single.signBit + magnitude else magnitude)⟩

/-- The number nearest to `± num / den`. -/
def ofRatio (negative : Bool) (num den : Nat) : Single :=
  ofMagnitude negative (Format.single.round num den)

/-- The same number in 64 bits; a NaN keeps its sign and payload and becomes quiet. -/
def toDouble (x : Single) : Double :=
  match x.decode with
  | .finite negative m q =>
    let (num, den) := dyadicRatio m q
    Double.ofRatio negative num den
  | .infinite negative => Double.ofMagnitude negative Format.double.infinityBits
  | .nan =>
    let bits := x.bits.toNat
    let payload := (bits % (1 <<< 22)) <<< 29
    Double.ofMagnitude (decide (Format.single.signBit ≤ bits))
      (Format.double.infinityBits + 1 <<< 51 + payload)

/-- The order of the numbers; a NaN has no place in it, and the two zeros are equal. -/
def compare? (x y : Single) : Option Ordering :=
  if x.isNaN || y.isNaN then none
  else
    let place (z : Single) := signedPlace Format.single.signBit z.bits.toNat
    some (compare (place x) (place y))

end Single

/-- The number rounded to 32 bits; a NaN keeps its sign and the top of its payload. -/
def Double.toSingle (x : Double) : Single :=
  match x.decode with
  | .finite negative m q =>
    let (num, den) := dyadicRatio m q
    Single.ofRatio negative num den
  | .infinite negative => Single.ofMagnitude negative Format.single.infinityBits
  | .nan =>
    let bits := x.bits.toNat
    Single.ofMagnitude (decide (Format.double.signBit ≤ bits))
      (Format.single.infinityBits + 1 <<< 22 + (bits >>> 29) % (1 <<< 22))

end EntitySql
