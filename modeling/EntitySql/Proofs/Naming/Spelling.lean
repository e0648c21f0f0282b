import EntitySql.Naming
import Mathlib

/-!
# One name in two spellings

The words of a name hold its letters and numbers, in order and nothing else (`flatten_words`), and
no word is empty (`ne_nil_of_mem_words`).

An ASCII letter has one upper case, whatever case it was in.  So the upper snake case of an ASCII
name is its snake case with every letter raised (`shouty_eq_map_snake`), and names of the same snake
case have the same upper snake case.
-/

namespace EntitySql.Naming

/-! ### The letters of the words -/

theorem flatten_attach (c : Char) (ws : List (List Char)) :
    (attach c ws).flatten = c :: ws.flatten := by
  cases ws <;> rfl

theorem flatten_chop (mode : Mode) (s : List Char) : (chop mode s).flatten = s := by
  induction mode, s using chop.induct with
  | case1 mode => rw [chop, List.flatten_nil]
  | case2 mode c => rw [chop, List.flatten_singleton]
  | case3 mode c next rest hrise ih =>
    rw [chop, if_pos hrise, List.flatten_cons, ih, List.singleton_append]
  | case4 mode c next rest hrise hfall ih =>
    rw [chop, if_neg hrise, if_pos hfall, List.flatten_cons, flatten_attach, ih, List.nil_append]
  | case5 mode c next rest hrise hfall ih =>
    rw [chop, if_neg hrise, if_neg hfall, flatten_attach, ih]

theorem flatten_runs (s : List Char) : (runs s).flatten = s.filter Letter.isAlphanumeric := by
  induction s with
  | nil => rfl
  | cons c rest ih =>
    by_cases hc : Letter.isAlphanumeric c = true
    · rw [runs, if_pos hc, flatten_attach, ih, List.filter_cons_of_pos hc]
    · rw [runs, if_neg hc, List.flatten_cons, ih, List.filter_cons_of_neg hc, List.nil_append]

/-- No letter and no number is lost, and nothing else is in a word. -/
theorem flatten_words (s : List Char) : (words s).flatten = s.filter Letter.isAlphanumeric := by
  rw [words, ← flatten_runs]
  induction runs s with
  | nil => rfl
  | cons run rest ih =>
    rw [List.flatMap_cons, List.flatten_append, flatten_chop, ih, List.flatten_cons]

theorem mem_of_mem_words {s w : List Char} (hw : w ∈ words s) {c : Char} (hc : c ∈ w) :
    c ∈ s ∧ Letter.isAlphanumeric c = true := by
  have hletter : c ∈ s.filter Letter.isAlphanumeric :=
    flatten_words s ▸ List.mem_flatten_of_mem hw hc
  exact List.mem_filter.1 hletter

theorem ne_nil_of_mem_attach {c : Char} {ws : List (List Char)} (h : ∀ w ∈ ws.tail, w ≠ []) :
    ∀ w ∈ attach c ws, w ≠ [] := by
  cases ws with
  | nil => exact List.forall_mem_singleton.2 (List.cons_ne_nil c [])
  | cons w ws => exact List.forall_mem_cons.2 ⟨List.cons_ne_nil c w, h⟩

/-- Only the first word of a run can be empty, and only if it goes on after upper case. -/
theorem ne_nil_of_mem_chop (mode : Mode) (s : List Char) :
    (∀ w ∈ (chop mode s).tail, w ≠ []) ∧ (mode ≠ .upper → ∀ w ∈ chop mode s, w ≠ []) := by
  -- where no word is empty, both parts hold
  have hwhole {mode : Mode} {s : List Char} (h : ∀ w ∈ chop mode s, w ≠ []) :
      (∀ w ∈ (chop mode s).tail, w ≠ []) ∧ (mode ≠ .upper → ∀ w ∈ chop mode s, w ≠ []) :=
    ⟨fun w hw => h w (List.mem_of_mem_tail hw), fun _ => h⟩
  induction mode, s using chop.induct with
  | case1 mode => exact hwhole (by rw [chop]; exact List.forall_mem_nil _)
  | case2 mode c =>
    exact hwhole (by rw [chop]; exact List.forall_mem_singleton.2 (List.cons_ne_nil c []))
  | case3 mode c next rest hrise ih =>
    refine hwhole ?_
    rw [chop, if_pos hrise]
    exact List.forall_mem_cons.2 ⟨List.cons_ne_nil c [], ih.2 (by decide)⟩
  | case4 mode c next rest hrise hfall ih =>
    rw [chop, if_neg hrise, if_pos hfall]
    exact ⟨ne_nil_of_mem_attach ih.1, fun hmode => absurd hfall.1 hmode⟩
  | case5 mode c next rest hrise hfall ih =>
    refine hwhole ?_
    rw [chop, if_neg hrise, if_neg hfall]
    exact ne_nil_of_mem_attach ih.1

theorem ne_nil_of_mem_words {s w : List Char} (h : w ∈ words s) : w ≠ [] := by
  obtain ⟨run, -, hw⟩ := List.mem_flatMap.1 h
  exact (ne_nil_of_mem_chop .boundary run).2 (by decide) w hw

/-! ### Raising lower case -/

/-- A text of ASCII characters. -/
def Ascii (s : List Char) : Prop := ∀ c ∈ s, c.toNat < Letter.asciiEnd

instance (s : List Char) : Decidable (Ascii s) :=
  List.decidableBAll (fun c : Char => c.toNat < Letter.asciiEnd) s

theorem upperWord_eq_map_lowerWord {w : List Char} (h : Ascii w) :
    upperWord w = (lowerWord w).map Char.toUpper := by
  induction w using lowerWord.induct with
  | case1 => rfl
  | case2 => exact absurd (h 'Σ' List.mem_cons_self) (by decide)
  | case3 c rest hsigma ih =>
    obtain ⟨hc, hrest⟩ := List.forall_mem_cons.1 h
    have hraised : Letter.raised c = [c.toUpper] := if_pos hc
    have hlowered : Letter.lowered c = [c.toLower] := if_pos hc
    rw [lowerWord.eq_3 c rest hsigma, hlowered, List.singleton_append, List.map_cons,
      Char.toUpper_toLower_eq_toUpper, ← ih hrest, upperWord, List.flatMap_cons, hraised,
      List.singleton_append, upperWord]

theorem map_intercalate {α β : Type} (f : α → β) (sep : List α) (xs : List (List α)) :
    (sep.intercalate xs).map f = (sep.map f).intercalate (xs.map (List.map f)) := by
  induction xs with
  | nil => rfl
  | cons x rest ih =>
    cases rest with
    | nil => simp
    | cons y rest =>
      rw [List.intercalate_cons_cons, List.map_append, List.map_append, ih, List.map_cons,
        List.map_cons, List.map_cons, List.intercalate_cons_cons]

theorem mem_of_mem_intercalate {α : Type} {sep : List α} {xs : List (List α)} {x : α}
    (h : x ∈ sep.intercalate xs) : x ∈ sep ∨ ∃ y ∈ xs, x ∈ y := by
  induction xs with
  | nil => cases h
  | cons y rest ih =>
    cases rest with
    | nil =>
      rw [List.intercalate_singleton] at h
      exact Or.inr ⟨y, List.mem_cons_self, h⟩
    | cons z rest =>
      rw [List.intercalate_cons_cons, List.mem_append, List.mem_append] at h
      rcases h with (h | h) | h
      · exact Or.inr ⟨y, List.mem_cons_self, h⟩
      · exact Or.inl h
      · exact (ih h).imp_right fun ⟨w, hw, hx⟩ => ⟨w, List.mem_cons_of_mem y hw, hx⟩

theorem shoutyChars_eq_map_snakeChars {s : List Char} (h : Ascii s) :
    shoutyChars s = (snakeChars s).map Char.toUpper := by
  have hwords : (words s).map upperWord =
      ((words s).map lowerWord).map (List.map Char.toUpper) := by
    rw [List.map_map]
    exact List.map_congr_left fun w hw =>
      upperWord_eq_map_lowerWord fun c hc => h c (mem_of_mem_words hw hc).1
  rw [shoutyChars, snakeChars, hwords, map_intercalate]
  rfl

/-- A mark is taken away, and any other name stays as it is. -/
theorem unmarked_cases (s : List Char) :
    (∃ rest, s = 'r' :: '#' :: rest ∧ unmarked s = rest) ∨
      (∀ rest, s ≠ 'r' :: '#' :: rest) ∧ unmarked s = s := by
  unfold unmarked
  split
  next rest => exact Or.inl ⟨rest, rfl, rfl⟩
  next hplain => exact Or.inr ⟨hplain, rfl⟩

theorem unmarked_of_not_mem {s : List Char} (h : '#' ∉ s) : unmarked s = s := by
  rcases unmarked_cases s with ⟨rest, rfl, -⟩ | ⟨-, hs⟩
  · exact absurd (List.mem_cons_of_mem 'r' List.mem_cons_self) h
  · exact hs

/-- The characters of a name without its mark are characters of the name. -/
theorem mem_of_mem_unmarked {s : List Char} {c : Char} (h : c ∈ unmarked s) : c ∈ s := by
  rcases unmarked_cases s with ⟨rest, rfl, hrest⟩ | ⟨-, hs⟩
  · rw [hrest] at h
    exact List.mem_cons_of_mem 'r' (List.mem_cons_of_mem '#' h)
  · rwa [hs] at h

/-- The upper snake case of an ASCII name without a mark is its snake case, raised. -/
theorem shouty_eq_map_snake {name : String} (hmark : '#' ∉ name.toList) (h : Ascii name.toList) :
    shouty name = (snake name).map Char.toUpper := by
  rw [← String.toList_inj, String.toList_map, shouty, snake, unmarked_of_not_mem hmark,
    String.toList_ofList, String.toList_ofList, shoutyChars_eq_map_snakeChars h]

end EntitySql.Naming
