import EntitySql.Uuid
import EntitySql.Proofs.Json.Text

/-!
# Texts of UUIDs

The canonical text of a UUID is read as that UUID (`Uuid.ofText?_text`).  The text is none of the
other forms that are read: it is longer than 32 digits, shorter than a form in braces, and has no
`u`, which is no hexadecimal digit.  Without its hyphens it is the digits that it was made of.
-/

namespace EntitySql

/-! ### Digits -/

namespace Hex

/-- What the digits are. -/
theorem exists_digitChar {c : Char} {count n : Nat} (h : c ∈ digits count n) :
    ∃ d < 16, c = Nat.digitChar d := by
  induction count generalizing n with
  | zero => simp [digits] at h
  | succ count ih =>
    rcases List.mem_append.1 h with hhigh | hlow
    · exact ih hhigh
    · exact ⟨n % 16, Nat.mod_lt n (by decide), List.mem_singleton.1 hlow⟩

/-- No digit is a hyphen or, in either case, a `u`. -/
theorem digitChar_ne : ∀ d < 16, Nat.digitChar d ≠ '-' ∧ (Nat.digitChar d).toLower ≠ 'u' := by
  decide

end Hex

namespace Uuid

/-! ### Hyphens -/

theorem length_hyphenate (sizes : List Nat) (s : List Char) :
    (hyphenate sizes s).length = s.length + (sizes.length - 1) := by
  fun_induction hyphenate sizes s with
  | case1 s => rfl
  | case2 size s => rfl
  | case3 size sizes s hne ih =>
    have hpos : 0 < sizes.length := List.length_pos_iff.2 hne
    rw [List.length_append, List.length_cons, ih, List.length_take, List.length_drop,
      List.length_cons]
    omega

/-- Without hyphens the groups are together again. -/
theorem filter_hyphenate (sizes : List Nat) (s : List Char) :
    (hyphenate sizes s).filter (· ≠ '-') = s.filter (· ≠ '-') := by
  fun_induction hyphenate sizes s with
  | case1 s => rfl
  | case2 size s => rfl
  | case3 size sizes s hne ih =>
    calc (s.take size ++ '-' :: hyphenate sizes (s.drop size)).filter (· ≠ '-')
        = (s.take size).filter (· ≠ '-') ++ (s.drop size).filter (· ≠ '-') := by
          rw [List.filter_append, List.filter_cons_of_neg (by decide), ih]
      _ = s.filter (· ≠ '-') := by rw [← List.filter_append, List.take_append_drop]

theorem eq_or_mem_of_mem_hyphenate {c : Char} {sizes : List Nat} {s : List Char}
    (h : c ∈ hyphenate sizes s) : c = '-' ∨ c ∈ s := by
  by_cases hc : c = '-'
  · exact Or.inl hc
  · have hmem : c ∈ (hyphenate sizes s).filter (· ≠ '-') :=
      List.mem_filter.2 ⟨h, decide_eq_true hc⟩
    rw [filter_hyphenate] at hmem
    exact Or.inr (List.mem_filter.1 hmem).1

/-! ### Reading -/

variable (u : Uuid)

theorem ofDigits?_digits : ofDigits? (Hex.digits 32 u.bits.toNat) = some u := by
  have hlt : u.bits.toNat < 16 ^ 32 := u.bits.isLt
  have hvalue : Hex.value? (Hex.digits 32 u.bits.toNat) = some u.bits.toNat := by
    rw [Hex.value?_digits, Nat.mod_eq_of_lt hlt]
  rw [ofDigits?, if_pos (Hex.length_digits 32 _), hvalue, Option.map_some, BitVec.ofNat_toNat,
    BitVec.setWidth_eq]

theorem ofHyphenated?_hyphenate :
    ofHyphenated? (hyphenate groups (Hex.digits 32 u.bits.toNat)) = some u := by
  have hdigits : (Hex.digits 32 u.bits.toNat).filter (· ≠ '-') = Hex.digits 32 u.bits.toNat := by
    refine List.filter_eq_self.2 fun c hc => ?_
    obtain ⟨d, hd, rfl⟩ := Hex.exists_digitChar hc
    exact decide_eq_true (Hex.digitChar_ne d hd).1
  rw [ofHyphenated?]
  simp only [filter_hyphenate, hdigits, ↓reduceIte]
  exact ofDigits?_digits u

/-- The canonical text of a UUID is read as the UUID. -/
theorem ofText?_text : ofText? u.text = some u := by
  have hlength : (hyphenate groups (Hex.digits 32 u.bits.toNat)).length = 36 := by
    rw [length_hyphenate, Hex.length_digits]
    rfl
  -- a digit is never the letter that the prefix begins with
  have hurn : ((hyphenate groups (Hex.digits 32 u.bits.toNat)).take 9).map Char.toLower ≠
      "urn:uuid:".toList := by
    intro heq
    have hu : 'u' ∈ "urn:uuid:".toList := by decide
    rw [← heq, List.mem_map] at hu
    obtain ⟨c, hc, hlower⟩ := hu
    rcases eq_or_mem_of_mem_hyphenate (List.mem_of_mem_take hc) with rfl | hdigit
    · exact absurd hlower (by decide)
    · obtain ⟨d, hd, rfl⟩ := Hex.exists_digitChar hdigit
      exact (Hex.digitChar_ne d hd).2 hlower
  have hread := ofHyphenated?_hyphenate u
  simp only [ofText?, text, String.toList_ofList]
  rw [if_neg (by omega), if_neg (fun h => by omega), if_neg hurn, hread]

end Uuid

end EntitySql
