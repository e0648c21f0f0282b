import EntitySql.Json.Scalar
import Mathlib.Data.List.TakeWhile

/-!
# Integers in JSON

The decimal digits of an integer are read as that integer (`Json.readNumeric_integerChars`), as long
as it is one of the integers that a number without point stands for: those of 64 bits, signed or
unsigned.

Digits are collected from the left as long as they fit.  What carries the proof is that appending
digits never makes the number smaller, so that every beginning of the digits of a number that fits
does fit too (`Json.foldl_addInteger`).
-/

namespace EntitySql.Json

/-! ### Digits -/

/-- Further digits make a number no smaller. -/
theorem le_ofDigitChars (cs : List Char) (n : Nat) : n ≤ Nat.ofDigitChars 10 cs n := by
  induction cs generalizing n with
  | nil => simp
  | cons c cs ih =>
    have hnext := ih (10 * n + (c.toNat - 48))
    rw [Nat.ofDigitChars_cons]
    show n ≤ Nat.ofDigitChars 10 cs (10 * n + (c.toNat - 48))
    omega

/-- Digits are collected to the number that they write, if that fits. -/
theorem foldl_addInteger {cs : List Char} {n : Nat}
    (h : Nat.ofDigitChars 10 cs n < UInt64.size) :
    (cs.map fun c => c.toNat - 48).foldl Digits.addInteger { significand := n } =
      { significand := Nat.ofDigitChars 10 cs n } := by
  induction cs generalizing n with
  | nil => simp
  | cons c cs ih =>
    rw [Nat.ofDigitChars_cons] at h ⊢
    have hfits : fits n (c.toNat - 48) = true :=
      decide_eq_true (Nat.lt_of_le_of_lt (le_ofDigitChars cs _) h)
    have hstep : Digits.addInteger { significand := n } (c.toNat - 48) =
        { significand := 10 * n + (c.toNat - 48) } := by
      simp [Digits.addInteger, hfits]
    rw [List.map_cons, List.foldl_cons, hstep]
    exact ih h

/-- Nothing but digits is read to its end. -/
theorem leadingDigits_of_isDigit {cs : List Char} (h : ∀ c ∈ cs, c.isDigit = true) :
    leadingDigits cs = (cs.map fun c => c.toNat - 48, []) := by
  rw [leadingDigits, List.takeWhile_eq_self_iff.2 h, List.dropWhile_eq_nil_iff.2 h]

/-! ### Decimal numbers -/

theorem isDigit_of_mem_toDigits {n : Nat} {c : Char} (h : c ∈ Nat.toDigits 10 n) :
    c.isDigit = true :=
  Nat.isDigit_of_mem_toDigits (by decide) (by decide) h

/-- Only zero begins with a zero. -/
theorem head_toDigits {n : Nat} (h : 0 < n) :
    ∃ d cs, 0 < d ∧ d < 10 ∧ Nat.toDigits 10 n = Nat.digitChar d :: cs := by
  induction n using Nat.strongRecOn with
  | _ n ih =>
    by_cases hn : n < 10
    · exact ⟨n, [], h, hn, Nat.toDigits_of_lt_base hn⟩
    · obtain ⟨d, cs, hpos, hlt, heq⟩ := ih (n / 10) (by omega) (by omega)
      refine ⟨d, cs ++ [Nat.digitChar (n % 10)], hpos, hlt, ?_⟩
      rw [Nat.toDigits_of_base_le (by decide) (by omega), heq, List.cons_append]

/-- The digits of a number before the point are that number. -/
theorem integerDigits_toDigits {n : Nat} (h : n < UInt64.size) :
    integerDigits (Nat.toDigits 10 n) = some ({ significand := n }, []) := by
  have hvalue : Nat.ofDigitChars 10 (Nat.toDigits 10 n) 0 = n := Nat.ofDigitChars_ten_toDigits
  have hfold := foldl_addInteger (hvalue.symm ▸ h)
  rw [hvalue] at hfold
  rw [integerDigits, leadingDigits_of_isDigit fun _ => isDigit_of_mem_toDigits]
  rcases Nat.eq_zero_or_pos n with rfl | hpos
  · rfl
  · obtain ⟨d, cs, hd, hlt, heq⟩ := head_toDigits hpos
    have hdigit : (Nat.digitChar d).toNat - 48 = d := Nat.toNat_digitChar_sub_48_of_lt_ten hlt
    obtain ⟨d, rfl⟩ := Nat.exists_eq_add_of_lt hd
    rw [heq, List.map_cons, hdigit] at hfold ⊢
    exact congrArg (fun ds => some (ds, [])) hfold

/-! ### Reading -/

/-- The integers that a number without point can stand for. -/
def Fits (n : Int) : Prop := Int64.minValue.toInt ≤ n ∧ n < UInt64.size

theorem readUnsigned_toDigits {n : Nat} (h : n < UInt64.size) {negative : Bool} {i : Int}
    (hi : Digits.toInteger? { significand := n } negative = some i) :
    readUnsigned negative (Nat.toDigits 10 n) = some (.integer i, []) := by
  simp [readUnsigned, integerDigits_toDigits h, fractionDigits, hi]

/-- An integer is read from its digits. -/
theorem readNumeric_integerChars {n : Int} (h : Fits n) :
    readNumeric (integerChars n) = some (.integer n, []) := by
  have hleast : -9223372036854775808 ≤ n := h.1
  have hgreatest : n < 18446744073709551616 := h.2
  by_cases hneg : n < 0
  · have hread : Digits.toInteger? { significand := n.natAbs } true = some n := by
      have hmin : Int64.minValue.toInt.natAbs = 9223372036854775808 := by decide
      have hbound : 0 < n.natAbs ∧ n.natAbs ≤ Int64.minValue.toInt.natAbs := by omega
      simp only [Digits.toInteger?, Bool.false_eq_true, ↓reduceIte, Bool.not_true, hbound,
        and_self, Option.some.injEq]
      omega
    rw [integerChars, if_pos hneg]
    exact readUnsigned_toDigits (by rw [UInt64.size]; omega) hread
  · have hread : Digits.toInteger? { significand := n.natAbs } false = some n := by
      simp only [Digits.toInteger?, Bool.false_eq_true, ↓reduceIte, Bool.not_false,
        Option.some.injEq]
      omega
    have hsize : n.natAbs < UInt64.size := by rw [UInt64.size]; omega
    rw [integerChars, if_neg hneg]
    -- the first character is a digit and no sign
    obtain ⟨c, cs, heq⟩ : ∃ c cs, Nat.toDigits 10 n.natAbs = c :: cs :=
      List.exists_cons_of_ne_nil Nat.toDigits_ne_nil
    have hc : c.isDigit = true := isDigit_of_mem_toDigits (heq ▸ List.mem_cons_self)
    have hsign : c ≠ '-' := by rintro rfl; exact absurd hc (by decide)
    have hrun := readUnsigned_toDigits hsize hread
    rw [heq] at hrun ⊢
    rw [readNumeric.eq_def]
    split
    · next heq' => exact absurd (List.cons.inj heq').1 hsign
    · exact hrun

end EntitySql.Json
