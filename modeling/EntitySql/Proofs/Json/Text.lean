import EntitySql.Json.Text
import Mathlib.Algebra.Group.Nat.Defs

/-!
# Texts in JSON

A text that is written between quotes is read as itself (`Json.readText_textChars`).  The step is
that reading what a character is written as, before anything else, gives that character and goes on
behind it (`Json.untilQuote_escape`).

Control characters are written with four hexadecimal digits, which are read as their code point
(`Hex.value?_digits`).
-/

namespace EntitySql

/-! ### Hexadecimal digits -/

namespace Hex

theorem digitValue?_digitChar : ∀ d < 16, digitValue? (Nat.digitChar d) = some d := by decide

@[simp] theorem length_digits (count n : Nat) : (digits count n).length = count := by
  induction count generalizing n with
  | zero => rfl
  | succ count ih => rw [digits, List.length_append, ih, List.length_singleton]

/-- The lowest digits of a number are read as what is left of it. -/
theorem value?_digits (count n : Nat) : value? (digits count n) = some (n % 16 ^ count) := by
  induction count generalizing n with
  | zero => simp [digits, value?, Nat.mod_one]
  | succ count ih =>
    have hdigit : digitValue? (Nat.digitChar (n % 16)) = some (n % 16) :=
      digitValue?_digitChar _ (Nat.mod_lt n (by decide))
    have hhigh := ih (n / 16)
    rw [value?] at hhigh
    have hsplit : n % 16 ^ (count + 1) = 16 * (n / 16 % 16 ^ count) + n % 16 := by
      rw [Nat.pow_succ', Nat.mod_mul, Nat.add_comm]
    rw [digits, value?, List.foldlM_append, hhigh]
    simp [hdigit, hsplit]

end Hex

namespace Json

/-! ### Characters -/

/-- What is read with one more character before it. -/
def after? (c : Char) (r : Option (List Char × List Char)) : Option (List Char × List Char) :=
  r.bind fun (s, rest) => some (c :: s, rest)

/-- The letter of an escape is read as its code point, and is not the mark of a number. -/
theorem unescape?_of_mem_letters :
    ∀ p ∈ letters, p.1 ≠ 'u' ∧ unescape? p.1 = some (Char.ofNat p.2) := by
  decide

theorem untilQuote_letter {letter c : Char} (hletter : letter ≠ 'u')
    (hc : unescape? letter = some c) (rest : List Char) :
    untilQuote ('\\' :: letter :: rest) = after? c (untilQuote rest) := by
  cases h : untilQuote rest <;> simp [untilQuote, after?, hletter, hc, h]

theorem untilQuote_number {a b c d : Char} {n : Nat} (hn : Hex.value? [a, b, c, d] = some n)
    (hleading : isLeading n = false) (htrailing : isTrailing n = false) (rest : List Char) :
    untilQuote ('\\' :: 'u' :: a :: b :: c :: d :: rest) =
      after? (Char.ofNat n) (untilQuote rest) := by
  -- the next escape of a number is looked at only behind the first half of a pair
  by_cases hnext : ∃ e f g h rest', rest = '\\' :: 'u' :: e :: f :: g :: h :: rest'
  · obtain ⟨e, f, g, h, rest', rfl⟩ := hnext
    rw [untilQuote]
    simp [after?, hn, hleading, htrailing]
  · rw [untilQuote]
    · simp [after?, hn, hleading, htrailing]
    · exact fun e f g h rest' heq => hnext ⟨e, f, g, h, rest', heq⟩

theorem untilQuote_plain {c : Char} (hquote : c ≠ '"') (hslash : c ≠ '\\')
    (hc : 0x20 ≤ c.toNat) (rest : List Char) :
    untilQuote (c :: rest) = after? c (untilQuote rest) := by
  have hlow : ¬ c.toNat < 0x20 := Nat.not_lt.2 hc
  cases h : untilQuote rest <;> simp [untilQuote, after?, hslash, hlow, h]

/-- Reading what a character is written as gives the character and goes on behind it. -/
theorem untilQuote_escape (c : Char) (rest : List Char) :
    untilQuote (escape c ++ rest) = after? c (untilQuote rest) := by
  rw [escape]
  cases hfind : letters.find? (·.2 == c.toNat) with
  | some p =>
    -- the escapes that have a letter
    obtain ⟨hletter, hc⟩ := unescape?_of_mem_letters p (List.mem_of_find?_eq_some hfind)
    have hcode : p.2 = c.toNat := by simpa using List.find?_some hfind
    rw [hcode, Char.ofNat_toNat] at hc
    exact untilQuote_letter hletter hc rest
  | none =>
    have hcode : ∀ p ∈ letters, p.2 ≠ c.toNat := by simpa using hfind
    by_cases hlow : c.toNat < 0x20
    · -- the other control characters
      have hdigits : Hex.value? (Hex.digits 4 c.toNat) = some c.toNat := by
        rw [Hex.value?_digits, Nat.mod_eq_of_lt (by omega)]
      have hleading : isLeading c.toNat = false := by simp [isLeading]; omega
      have htrailing : isTrailing c.toNat = false := by simp [isTrailing]; omega
      have hnumber := untilQuote_number hdigits hleading htrailing rest
      rw [Char.ofNat_toNat] at hnumber
      simp only [if_pos hlow]
      exact hnumber
    · have hquote : c ≠ '"' := fun h => hcode ('"', 0x22) (by decide) (by rw [h]; rfl)
      have hslash : c ≠ '\\' := fun h => hcode ('\\', 0x5c) (by decide) (by rw [h]; rfl)
      simp only [if_neg hlow]
      exact untilQuote_plain hquote hslash (Nat.not_lt.1 hlow) rest

/-! ### Texts -/

/-- A text in quotes is read as the text, up to the quote that closes it. -/
theorem readText_textChars (s rest : List Char) :
    readText (textChars s ++ rest) = some (s, rest) := by
  show untilQuote ((s.flatMap escape ++ ['"']) ++ rest) = some (s, rest)
  induction s with
  | nil => simp [untilQuote]
  | cons c s ih =>
    rw [List.flatMap_cons, List.append_assoc, List.append_assoc, untilQuote_escape,
      ← List.append_assoc, ih]
    rfl

end Json

end EntitySql
