import EntitySql.Entity.FieldType
import EntitySql.Proofs.Number.Widening

/-!
# Scalars that read back

A scalar is written as one value, and the cell with this value is read as the scalar again.  Only a
signalling NaN of 32 bits is not: it is written as a quiet one of 64 bits
(`ScalarType.ofValue?_toValue`).
-/

namespace EntitySql

/-! ### Integers -/

section

variable {α : Type} {least greatest : Int} {make : Int → α} {n : Int64} {k : Int} {a : α}

/-- An integer in the range of its type is read as what it was made of. -/
theorem ofRange?_eq (hn : n.toInt = k) (hlow : least ≤ k) (hhigh : k ≤ greatest)
    (ha : make k = a) : Scalar.ofRange? least greatest make (.int n) = some a := by
  rw [Scalar.ofRange?, hn, if_pos ⟨hlow, hhigh⟩, ha]

/-- A natural number below `2^63` is a 64-bit integer. -/
theorem toInt_ofInt_natCast {k : Nat} (h : k < 2 ^ 63) : (Int64.ofInt k).toInt = k := by
  refine Int64.toInt_ofInt_of_le ?_ ?_ <;> omega

/-- So is a natural number of one of the smaller types without signs. -/
theorem ofRange?_natCast {m : Nat} {make : Nat → α} (hm : (m : Int) ≤ greatest)
    (hgreatest : greatest < 2 ^ 63) (ha : make m = a) :
    Scalar.ofRange? 0 greatest (make ·.toNat) (.int (Int64.ofInt m)) = some a := by
  refine ofRange?_eq (toInt_ofInt_natCast (by omega)) (Int.natCast_nonneg m) hm ?_
  rw [Int.toNat_natCast, ha]

end

/-! ### Scalars -/

namespace ScalarType

/-- A scalar is not written as null. -/
theorem toValue_ne_null (t : ScalarType) (x : t.Carrier) : Scalar.toValue x ≠ .null := by
  cases t <;> exact nofun

/-- A NaN that does not survive being widened. -/
def Signalling : (t : ScalarType) → t.Carrier → Prop
  | .single, x => x.IsSignalling
  | _, _ => False

/-- A scalar reads back from the value that it is written as unless it is a signalling NaN. -/
theorem ofValue?_toValue (t : ScalarType) (x : t.Carrier) :
    Scalar.ofValue? (Scalar.toValue x) = some x ↔ ¬ t.Signalling x := by
  cases t with
  | int8 => exact iff_of_true (ofRange?_eq x.toInt_toInt64 x.le_toInt x.toInt_le x.ofInt_toInt) id
  | int16 => exact iff_of_true (ofRange?_eq x.toInt_toInt64 x.le_toInt x.toInt_le x.ofInt_toInt) id
  | int32 => exact iff_of_true (ofRange?_eq x.toInt_toInt64 x.le_toInt x.toInt_le x.ofInt_toInt) id
  | uint8 =>
    have hx := x.toNat_lt
    exact iff_of_true (ofRange?_natCast (by omega) (by decide) UInt8.ofNat_toNat) id
  | uint16 =>
    have hx := x.toNat_lt
    exact iff_of_true (ofRange?_natCast (by omega) (by decide) UInt16.ofNat_toNat) id
  | uint32 =>
    have hx := x.toNat_lt
    exact iff_of_true (ofRange?_natCast (by omega) (by decide) UInt32.ofNat_toNat) id
  -- the only type that is written in another one
  | single =>
    rw [Signalling, ← Single.toSingle_toDouble]
    exact Option.some_inj
  | _ => exact iff_of_true rfl id

end ScalarType

end EntitySql
