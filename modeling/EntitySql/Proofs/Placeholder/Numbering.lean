import EntitySql.Dialect
import Mathlib.Tactic.ByContra

/-!
# Plain texts and numbered placeholders

A text is `Plain` if its quotes are closed and it has neither `?` nor `$` outside of them.  Plain
texts can be put together (`Plain.append`), and a text of ordinary characters is plain
(`plain_of_ordinary`).

`dollars` reads a numbered text back: it lists the digits behind each `$` outside quotes.  In a text
without such a `$` of its own, and without a digit directly behind a placeholder (`separated`),
numbering with `$` gives exactly the numbers `1, 2, …` in this order (`dollars_number`), and no `?`
is left outside quotes (`count_number`).
-/

namespace EntitySql.Placeholder

/-! ### Reading numbers back -/

/-- The digits directly behind each `$` outside quotes. -/
def dollars : State → List Char → List (List Char)
  | _, [] => []
  | state, c :: rest =>
    if state.isNone && c == '$' then rest.takeWhile Char.isDigit :: dollars (next state c) rest
    else dollars (next state c) rest

theorem dollars_append_eq_nil (state : State) (s t : List Char) :
    dollars state (s ++ t) = [] ↔ dollars state s = [] ∧ dollars (after state s) t = [] := by
  induction s generalizing state with
  | nil => simp [dollars, after]
  | cons c rest ih =>
    by_cases h : (state.isNone && c == '$') = true
    · simp [dollars, h]
    · simp only [List.cons_append, dollars, h, Bool.false_eq_true, ↓reduceIte, ih]
      rfl

/-! ### Plain texts -/

/-- A text with closed quotes and neither `?` nor `$` outside of them. -/
def Plain (s : String) : Prop :=
  after none s.toList = none ∧ count none s.toList = 0 ∧ dollars none s.toList = []

instance (s : String) : Decidable (Plain s) := inferInstanceAs (Decidable (_ ∧ _ ∧ _))

theorem plain_empty : Plain "" := ⟨rfl, rfl, rfl⟩

theorem Plain.append {s t : String} (hs : Plain s) (ht : Plain t) : Plain (s ++ t) := by
  obtain ⟨hs₁, hs₂, hs₃⟩ := hs
  obtain ⟨ht₁, ht₂, ht₃⟩ := ht
  refine ⟨?_, ?_, ?_⟩
  · rw [String.toList_append, after_append, hs₁, ht₁]
  · rw [String.toList_append, count_append, hs₁, hs₂, ht₂]
  · rw [String.toList_append, dollars_append_eq_nil, hs₁]
    exact ⟨hs₃, ht₃⟩

/-- A character that the scanner passes over. -/
def isOrdinary (c : Char) : Bool := !isQuote c && c != '?' && c != '$'

theorem plain_of_ordinary {s : String} (h : s.toList.all isOrdinary = true) : Plain s := by
  unfold Plain
  generalize s.toList = cs at h
  induction cs with
  | nil => exact ⟨rfl, rfl, rfl⟩
  | cons c rest ih =>
    rw [List.all_cons, Bool.and_eq_true] at h
    obtain ⟨hc, hrest⟩ := h
    simp only [isOrdinary, Bool.and_eq_true, Bool.not_eq_true', bne_iff_ne, ne_eq] at hc
    obtain ⟨⟨hquote, hmark⟩, hdollar⟩ := hc
    -- the scanner stays outside quotes
    have hnext : next none c = none := by simp [next, hquote]
    obtain ⟨h₁, h₂, h₃⟩ := ih hrest
    refine ⟨?_, ?_, ?_⟩
    · rw [after, List.foldl_cons, hnext]
      exact h₁
    · simp [count, isMark, hmark, hnext, h₂]
    · simp [dollars, hdollar, hnext, h₃]

/-! ### Placeholders apart from digits -/

/-- Whether a text begins with a digit. -/
def startsWithDigit (s : List Char) : Bool := s.head?.any Char.isDigit

theorem startsWithDigit_append {s t : List Char} (hs : startsWithDigit s = false)
    (ht : startsWithDigit t = false) : startsWithDigit (s ++ t) = false := by
  cases s with
  | nil => exact ht
  | cons c rest => exact hs

/-- The first character of a text that has one decides. -/
theorem startsWithDigit_toList_append {s : String} (hs : startsWithDigit s.toList = false)
    (hne : s ≠ "") (t : List Char) : startsWithDigit (s.toList ++ t) = false := by
  cases hcs : s.toList with
  | nil => exact absurd (String.toList_eq_nil_iff.1 hcs) hne
  | cons c rest =>
    rw [hcs] at hs
    exact hs

/-- Whether no placeholder of a text stands directly before a digit. -/
def separated : State → List Char → Bool
  | _, [] => true
  | state, c :: rest =>
    (!isMark state c || !startsWithDigit rest) && separated (next state c) rest

theorem count_cons_eq_zero {state : State} {c : Char} {rest : List Char} :
    count state (c :: rest) = 0 ↔ isMark state c = false ∧ count (next state c) rest = 0 := by
  by_cases hc : isMark state c = true
  · simp [count, hc]
  · simp [count, hc]

/-- Behind a text without placeholders anything may stand. -/
theorem separated_append_of_count_eq_zero (state : State) {s t : List Char}
    (hs : count state s = 0) (ht : separated (after state s) t = true) :
    separated state (s ++ t) = true := by
  induction s generalizing state with
  | nil => exact ht
  | cons c rest ih =>
    obtain ⟨hc, hrest⟩ := count_cons_eq_zero.1 hs
    simp only [List.cons_append, separated, hc, Bool.not_false, Bool.true_or, Bool.true_and]
    exact ih _ hrest ht

/-- Behind any text something may stand that does not begin with a digit. -/
theorem separated_append (state : State) {s t : List Char} (hs : separated state s = true)
    (ht : separated (after state s) t = true) (hdigit : startsWithDigit t = false) :
    separated state (s ++ t) = true := by
  induction s generalizing state with
  | nil => exact ht
  | cons c rest ih =>
    simp only [separated, Bool.and_eq_true, Bool.or_eq_true, Bool.not_eq_true'] at hs
    obtain ⟨hc, hrest⟩ := hs
    simp only [List.cons_append, separated, Bool.and_eq_true, Bool.or_eq_true, Bool.not_eq_true']
    refine ⟨?_, ih _ hrest ht⟩
    rcases hc with hc | hc
    · exact Or.inl hc
    · exact Or.inr (startsWithDigit_append hc hdigit)

/-! ### Numbering -/

/-- Numbering leaves a text without placeholders as it is. -/
theorem number_of_count_eq_zero (mark : Nat → List Char) (state : State) (n : Nat)
    {s : List Char} (h : count state s = 0) : number mark state n s = s := by
  induction s generalizing state with
  | nil => rfl
  | cons c rest ih =>
    obtain ⟨hc, hrest⟩ := count_cons_eq_zero.1 h
    rw [number, hc, if_neg Bool.false_ne_true, ih _ hrest]

/-- The placeholder `$` with a number. -/
def dollarMark (n : Nat) : List Char := '$' :: (toString n).toList

theorem isDigit_of_mem_toString (n : Nat) {c : Char} (h : c ∈ (toString n).toList) :
    c.isDigit = true := by
  rw [Nat.toString_eq_repr, Nat.toList_repr] at h
  exact Nat.isDigit_of_mem_toDigits (by decide) (by decide) h

theorem not_isMark_of_isDigit {c : Char} (h : c.isDigit = true) :
    isQuote c = false ∧ c ≠ '?' ∧ c ≠ '$' := by
  refine ⟨?_, ?_, ?_⟩
  · by_contra hc
    simp only [isQuote, Bool.not_eq_false, Bool.or_eq_true, beq_iff_eq] at hc
    rcases hc with rfl | rfl <;> exact absurd h (by decide)
  · rintro rfl
    exact absurd h (by decide)
  · rintro rfl
    exact absurd h (by decide)

/-- The scanner passes over digits. -/
theorem count_digits_append {ds : List Char} (hds : ∀ c ∈ ds, c.isDigit = true) (t : List Char) :
    count none (ds ++ t) = count none t := by
  induction ds with
  | nil => rfl
  | cons c rest ih =>
    obtain ⟨hquote, hmark, -⟩ := not_isMark_of_isDigit (hds c List.mem_cons_self)
    have hnext : next none c = none := by simp [next, hquote]
    rw [List.cons_append, count, hnext, ih fun d hd => hds d (List.mem_cons_of_mem c hd)]
    simp [isMark, hmark]

theorem dollars_digits_append {ds : List Char} (hds : ∀ c ∈ ds, c.isDigit = true)
    (t : List Char) : dollars none (ds ++ t) = dollars none t := by
  induction ds with
  | nil => rfl
  | cons c rest ih =>
    obtain ⟨hquote, -, hdollar⟩ := not_isMark_of_isDigit (hds c List.mem_cons_self)
    have hnext : next none c = none := by simp [next, hquote]
    rw [List.cons_append, dollars, hnext, ih fun d hd => hds d (List.mem_cons_of_mem c hd)]
    simp [hdollar]

/-- Numbering leaves no placeholder behind. -/
theorem count_number (state : State) (n : Nat) (s : List Char) :
    count state (number dollarMark state n s) = 0 := by
  induction s generalizing state n with
  | nil => rfl
  | cons c rest ih =>
    by_cases h : isMark state c = true
    · -- a placeholder is outside quotes, and `$` with its digits stays there
      obtain ⟨rfl, rfl⟩ : state = none ∧ c = '?' := by simpa [isMark] using h
      rw [number, if_pos h, dollarMark, List.cons_append, count]
      rw [show next none '$' = none by decide,
        count_digits_append fun _ => isDigit_of_mem_toString _]
      exact (Nat.add_eq_zero_iff.2 ⟨by decide, ih _ _⟩)
    · rw [number, if_neg h, count, if_neg h, Nat.zero_add]
      exact ih _ _

/-- A numbered text begins with a digit only where the text does. -/
theorem startsWithDigit_number {state : State} {n : Nat} {s : List Char}
    (h : startsWithDigit s = false) : startsWithDigit (number dollarMark state n s) = false := by
  cases s with
  | nil => rfl
  | cons c rest =>
    by_cases hc : isMark state c = true
    · rw [number, if_pos hc]
      rfl
    · rw [number, if_neg hc]
      exact h

theorem takeWhile_digits_append {ds t : List Char} (hds : ∀ c ∈ ds, c.isDigit = true)
    (ht : startsWithDigit t = false) : (ds ++ t).takeWhile Char.isDigit = ds := by
  rw [List.takeWhile_append_of_pos hds]
  cases t with
  | nil => simp
  | cons c rest =>
    have hc : c.isDigit = false := by simpa [startsWithDigit] using ht
    simp [hc]

/-- The numbers of a numbered text are those after `n`, from left to right. -/
theorem dollars_number (state : State) (n : Nat) {s : List Char} (hs : dollars state s = [])
    (hsep : separated state s = true) :
    dollars state (number dollarMark state n s) =
      (List.range' (n + 1) (count state s)).map fun k => (toString k).toList := by
  induction s generalizing state n with
  | nil => rfl
  | cons c rest ih =>
    have hdollar : ¬ (state.isNone && c == '$') = true := by
      intro h
      simp [dollars, h] at hs
    have hrest : dollars (next state c) rest = [] := by
      rw [dollars, if_neg hdollar] at hs
      exact hs
    simp only [separated, Bool.and_eq_true, Bool.or_eq_true, Bool.not_eq_true'] at hsep
    obtain ⟨hdigit, hsep⟩ := hsep
    by_cases h : isMark state c = true
    · replace hdigit : startsWithDigit rest = false := by simpa [h] using hdigit
      obtain ⟨rfl, rfl⟩ : state = none ∧ c = '?' := by simpa [isMark] using h
      have hds : ∀ d ∈ (toString (n + 1)).toList, d.isDigit = true :=
        fun _ => isDigit_of_mem_toString _
      -- the digits read back are those of the number, because what follows begins with none
      rw [number, if_pos h, dollarMark, List.cons_append, dollars, if_pos (by decide),
        takeWhile_digits_append hds (startsWithDigit_number hdigit)]
      rw [show next none '$' = none by decide, dollars_digits_append hds]
      rw [show next none '?' = none by decide] at hrest hsep ⊢
      rw [ih none (n + 1) hrest hsep, count, if_pos h, show next none '?' = none by decide,
        Nat.add_comm 1, List.range'_succ, List.map_cons]
    · rw [number, if_neg h, dollars, if_neg hdollar, ih _ _ hrest hsep, count, if_neg h,
        Nat.zero_add]

/-- The dialect with numbered placeholders numbers with `$`. -/
theorem toList_number_postgres (sql : String) :
    (Dialect.postgres.number sql).toList = number dollarMark none 0 sql.toList := by
  have hmark : (fun n => (Dialect.postgres.placeholder n).toList) = dollarMark := by
    funext n
    show ("$" ++ toString n).toList = dollarMark n
    rw [String.toList_append]
    rfl
  show (String.ofList (number (fun n => (Dialect.postgres.placeholder n).toList) none 0
    sql.toList)).toList = _
  rw [hmark, String.toList_ofList]

end EntitySql.Placeholder
