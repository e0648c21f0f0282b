import EntitySql.Proofs.Naming.Spelling
import EntitySql.Text.Identifier

/-!
# Constants

The constant of a name is its words in upper case.  They are not empty, and there is no small ASCII
letter and no underscore in them (`capital_raised`).  All reserved words but the lone underscore
have small letters, so a constant that is a word is a name (`isName_shouty`).
-/

namespace EntitySql.Naming

/-! ### Upper case -/

/-- Neither a small ASCII letter nor an underscore. -/
def Capital (c : Char) : Prop := c ≠ '_' ∧ c.isLower = false

/-- A character before the underscore or behind the small letters is one. -/
theorem capital_of_toNat {c : Char} (h : c.toNat < 0x5f ∨ 0x7a < c.toNat) : Capital c := by
  constructor
  · rintro rfl
    exact absurd h (by decide)
  · rw [Bool.eq_false_iff]
    intro hlower
    obtain ⟨hfirst, hlast⟩ := Bool.and_eq_true_iff.1 hlower
    have hfirst : 0x61 ≤ c.toNat := UInt32.le_iff_toNat_le.1 (of_decide_eq_true hfirst)
    have hlast : c.toNat ≤ 0x7a := UInt32.le_iff_toNat_le.1 (of_decide_eq_true hlast)
    omega

theorem capital_ofNat {n : Nat} (h : n < 0x5f ∨ 0x7a < n) : Capital (Char.ofNat n) := by
  refine capital_of_toNat ?_
  by_cases hn : n.isValidChar
  · have hchar : Char.ofNat n = Char.ofNatAux n hn := dif_pos hn
    have htoNat : (Char.ofNatAux n hn).toNat = n := rfl
    rw [hchar, htoNat]
    exact h
  · have hchar : Char.ofNat n = '\x00' := dif_neg hn
    rw [hchar]
    exact Or.inl (by decide)

/-- A shift moves its points as it moves the first and the last of them. -/
theorem moved_of_has {s : Shift} {n : Nat} (h : s.has n = true)
    (hclear : (s.last : Int) + s.distance < 0x5f ∨ 0x7a < (s.first : Int) + s.distance) :
    ((n : Int) + s.distance).toNat < 0x5f ∨ 0x7a < ((n : Int) + s.distance).toNat := by
  simp only [Shift.has, Span.has, Bool.and_eq_true, decide_eq_true_eq] at h
  obtain ⟨⟨hfirst, hlast⟩, -⟩ := h
  omega

/-- No character beyond ASCII is raised to a small ASCII letter or an underscore. -/
theorem capital_mapped {c : Char} (h : Letter.asciiEnd ≤ c.toNat) :
    Letter.mapped Letter.toUpper Letter.toUpperLong c ≠ [] ∧
      ∀ x ∈ Letter.mapped Letter.toUpper Letter.toUpperLong c, Capital x := by
  -- both tables are finite, so what they map to is checked entry by entry
  have hshifts : (Letter.toUpper.all fun s =>
      decide ((s.last : Int) + s.distance < 0x5f ∨ 0x7a < (s.first : Int) + s.distance)) = true :=
    by decide
  have hlong : (Letter.toUpperLong.all fun e =>
      !e.2.isEmpty && e.2.all fun n => decide (n < 0x5f ∨ 0x7a < n)) = true := by decide
  unfold Letter.mapped
  cases hshift : Shift.find? Letter.toUpper c.toNat with
  | some n =>
    obtain ⟨s, hs, rfl⟩ := Option.map_eq_some_iff.1 hshift
    have hclear := List.all_eq_true.1 hshifts s (List.mem_of_find?_eq_some hs)
    have hhas : s.has c.toNat = true := by simpa using List.find?_some hs
    have hn := moved_of_has hhas (of_decide_eq_true hclear)
    exact ⟨List.cons_ne_nil _ _, List.forall_mem_singleton.2 (capital_ofNat hn)⟩
  | none =>
    cases hlookup : Letter.toUpperLong.lookup c.toNat with
    | some ns =>
      obtain ⟨before, behind, htable, -⟩ := List.lookup_eq_some_iff.1 hlookup
      have hmem : (c.toNat, ns) ∈ Letter.toUpperLong := by
        rw [htable]
        exact List.mem_append_right before List.mem_cons_self
      obtain ⟨hne, hns⟩ := Bool.and_eq_true_iff.1 (List.all_eq_true.1 hlong _ hmem)
      refine ⟨by simpa using hne, fun x hx => ?_⟩
      obtain ⟨n, hn, rfl⟩ := List.mem_map.1 hx
      exact capital_ofNat (of_decide_eq_true (List.all_eq_true.1 hns n hn))
    | none =>
      -- a character of neither table stays, and it is beyond ASCII
      have hc : 0x80 ≤ c.toNat := h
      exact ⟨List.cons_ne_nil _ _, List.forall_mem_singleton.2 (capital_of_toNat (by omega))⟩

theorem capital_raised {c : Char} (h : Letter.isAlphanumeric c = true) :
    Letter.raised c ≠ [] ∧ ∀ x ∈ Letter.raised c, Capital x := by
  unfold Letter.raised
  by_cases hc : c.toNat < Letter.asciiEnd
  · rw [Letter.isAlphanumeric, if_pos hc] at h
    have hall : ∀ n : Fin Letter.asciiEnd, (Char.ofNat n).isAlphanum = true →
        (Char.ofNat n).toUpper ≠ '_' ∧ (Char.ofNat n).toUpper.isLower = false := by decide
    have hcapital : Capital c.toUpper := by
      simpa [Capital] using hall ⟨c.toNat, hc⟩ (by simpa using h)
    rw [if_pos hc]
    exact ⟨List.cons_ne_nil _ _, List.forall_mem_singleton.2 hcapital⟩
  · rw [if_neg hc]
    exact capital_mapped (Nat.le_of_not_lt hc)

theorem ne_nil_of_upperWord {s w : List Char} (hw : w ∈ words s) : upperWord w ≠ [] := by
  obtain ⟨c, rest, rfl⟩ := List.exists_cons_of_ne_nil (ne_nil_of_mem_words hw)
  have hc := (capital_raised (mem_of_mem_words hw List.mem_cons_self).2).1
  rw [upperWord, List.flatMap_cons]
  exact List.append_ne_nil_of_left_ne_nil hc _

theorem capital_of_mem_upperWord {s w : List Char} (hw : w ∈ words s) :
    ∀ x ∈ upperWord w, Capital x := by
  intro x hx
  obtain ⟨c, hc, hx⟩ := List.mem_flatMap.1 hx
  exact (capital_raised (mem_of_mem_words hw hc).2).2 x hx

/-! ### Constants -/

/-- A constant has underscores and no small ASCII letters. -/
theorem capital_of_mem_shoutyChars {s : List Char} {x : Char} (h : x ∈ shoutyChars s) :
    x = '_' ∨ Capital x := by
  rcases mem_of_mem_intercalate h with hsep | ⟨w, hw, hx⟩
  · exact Or.inl (List.mem_singleton.1 hsep)
  · obtain ⟨w, hword, rfl⟩ := List.mem_map.1 hw
    exact Or.inr (capital_of_mem_upperWord hword x hx)

/-- An underscore has a word on each side. -/
theorem shoutyChars_ne_underscore (s : List Char) : shoutyChars s ≠ ['_'] := by
  intro h
  rw [shoutyChars] at h
  have hwords : ∀ w ∈ (words s).map upperWord, w ≠ [] ∧ ∀ x ∈ w, Capital x := by
    intro w hw
    obtain ⟨w, hword, rfl⟩ := List.mem_map.1 hw
    exact ⟨ne_nil_of_upperWord hword, capital_of_mem_upperWord hword⟩
  cases hws : (words s).map upperWord with
  | nil =>
    rw [hws] at h
    cases h
  | cons w rest =>
    rw [hws] at h hwords
    obtain ⟨⟨hne, hcapital⟩, -⟩ := List.forall_mem_cons.1 hwords
    -- the first word is not empty and its first character is capital: it is no underscore
    obtain ⟨c, w, rfl⟩ := List.exists_cons_of_ne_nil hne
    have hfirst : c = '_' := by
      cases rest with
      | nil =>
        rw [List.intercalate_singleton] at h
        exact (List.cons.inj h).1
      | cons v rest =>
        rw [List.intercalate_cons_cons, List.append_assoc, List.cons_append] at h
        exact (List.cons.inj h).1
    exact (hcapital c List.mem_cons_self).1 hfirst

/-- A constant that is a word is a name: it is not reserved. -/
theorem isName_shouty {name : String} (h : Identifier.isWord (shouty name).toList = true) :
    Identifier.isName (shouty name) = true := by
  -- reserved words have small letters, or are the lone underscore
  have hsmall :
      (Identifier.reserved.all fun w => w == "_" || w.toList.any Char.isLower) = true := by decide
  have hchars : ∀ c ∈ (shouty name).toList, c = '_' ∨ Capital c := by
    intro c hc
    rw [shouty, String.toList_ofList] at hc
    exact capital_of_mem_shoutyChars hc
  have hfree : shouty name ∉ Identifier.reserved := by
    intro hmem
    rcases Bool.or_eq_true_iff.1 (List.all_eq_true.1 hsmall _ hmem) with hlone | hlower
    · refine shoutyChars_ne_underscore name.toList ?_
      rw [← String.ofList_inj]
      exact beq_iff_eq.1 hlone
    · obtain ⟨c, hc, hlower⟩ := List.any_eq_true.1 hlower
      rcases hchars c hc with rfl | hcapital
      · exact absurd hlower (by decide)
      · exact absurd hlower (Bool.eq_false_iff.1 hcapital.2)
  unfold Identifier.isName
  split
  next word hmarked =>
    -- a mark begins with a small letter
    rcases hchars 'r' (hmarked ▸ List.mem_cons_self) with hr | hr
    · exact absurd hr (by decide)
    · exact absurd hr.2 (by decide)
  next =>
    rw [h, Bool.true_and, Bool.not_eq_true', List.contains_eq_mem, decide_eq_false_iff_not]
    exact hfree

end EntitySql.Naming
