import EntitySql.Proofs.Placeholder.Joined
import Mathlib.Data.List.Chain
import Mathlib.Logic.ExistsUnique

/-!
# Quoted regions and the placeholders outside of them

A text is cut into pieces: characters outside quotes, regions from a quote to the next one of the
same kind, and possibly a last region whose quote does not come again.  `Cut` states these rules
without a scanner, and every text is cut in exactly one way (`existsUnique_cut`).

Numbering replaces the pieces that are a bare `?` by the placeholders of their numbers and writes
every other piece as it is (`number_of_cut`).  What follows from that for texts put together, for
numbering twice and for reading the numbers back is collected in `number_regions`.

The scanner enters a region with its quote, and what the region holds leaves it in that state
(`after_inside`, `count_inside`); this carries all the lemmas about regions.
-/

namespace EntitySql

namespace Placeholder

/-! ### Pieces -/

/-- A piece of a text. -/
inductive Piece where
  /-- A character outside quotes. -/
  | bare (c : Char)
  /-- A region that is closed by the quote that opened it. -/
  | closed (quote : Char) (body : List Char)
  /-- A region that runs to the end of the text. -/
  | unclosed (quote : Char) (body : List Char)
deriving DecidableEq, Repr

namespace Piece

/-- The characters of a piece, quotes included. -/
def text : Piece → List Char
  | bare c => [c]
  | closed quote body => quote :: (body ++ [quote])
  | unclosed quote body => quote :: body

/-- Whether the text goes on outside quotes behind the piece. -/
def leavesOutside : Piece → Bool
  | unclosed .. => false
  | _ => true

end Piece

/-- The pieces that a text is cut into. -/
inductive Cut : List Piece → List Char → Prop
  | nil : Cut [] []
  | bare {c : Char} {ps : List Piece} {s : List Char} (hsingle : c ≠ '\x27') (hdouble : c ≠ '"')
      (rest : Cut ps s) : Cut (.bare c :: ps) (c :: s)
  | closed {q : Char} {body : List Char} {ps : List Piece} {s : List Char}
      (hquote : q = '\x27' ∨ q = '"') (hbody : q ∉ body) (rest : Cut ps s) :
      Cut (.closed q body :: ps) (q :: (body ++ q :: s))
  | unclosed {q : Char} {body : List Char} (hquote : q = '\x27' ∨ q = '"') (hbody : q ∉ body) :
      Cut [.unclosed q body] (q :: body)

/-- No character is lost or added. -/
theorem Cut.text_eq {ps : List Piece} {s : List Char} (h : Cut ps s) :
    ps.flatMap Piece.text = s := by
  induction h with
  | nil => rfl
  | bare hsingle hdouble rest ih => rw [List.flatMap_cons, ih]; rfl
  | closed hquote hbody rest ih =>
    rw [List.flatMap_cons, ih, Piece.text, List.cons_append, List.append_assoc]
    rfl
  | unclosed hquote hbody => rw [List.flatMap_singleton, Piece.text]

theorem exists_cut (s : List Char) : ∃ ps, Cut ps s := by
  -- on the length, since a region takes more than one character at once
  induction hn : s.length using Nat.strong_induction_on generalizing s with
  | _ n ih =>
    cases s with
    | nil => exact ⟨[], .nil⟩
    | cons c rest =>
      have hrest : rest.length < n := by rw [← hn]; exact Nat.lt_succ_self _
      by_cases hquote : c = '\x27' ∨ c = '"'
      · by_cases hc : c ∈ rest
        · -- the region ends at the first occurrence of its quote
          obtain ⟨body, after, rfl, hbody⟩ := List.eq_append_cons_of_mem hc
          have hafter : after.length < n := by
            simp only [List.length_append, List.length_cons] at hrest
            omega
          obtain ⟨ps, hps⟩ := ih _ hafter after rfl
          exact ⟨_, .closed hquote hbody hps⟩
        · exact ⟨_, .unclosed hquote hc⟩
      · obtain ⟨hsingle, hdouble⟩ := not_or.1 hquote
        obtain ⟨ps, hps⟩ := ih _ hrest rest rfl
        exact ⟨_, .bare hsingle hdouble hps⟩

/-- What stands before the first occurrence of a character, and behind it, is determined. -/
theorem append_cons_inj {q : Char} {b b' s s' : List Char} (hb : q ∉ b) (hb' : q ∉ b')
    (h : b ++ q :: s = b' ++ q :: s') : b = b' ∧ s = s' := by
  -- both bodies are what can be taken while the quote has not come
  have hwhile {b s : List Char} (hb : q ∉ b) : (b ++ q :: s).takeWhile (· != q) = b := by
    have hall : ∀ c ∈ b, (c != q) = true := fun c hc => bne_iff_ne.2 (ne_of_mem_of_not_mem hc hb)
    rw [List.takeWhile_append_of_pos hall, List.takeWhile_cons_of_neg (by simp), List.append_nil]
  obtain rfl : b = b' := by rw [← hwhile hb (s := s), h, hwhile hb']
  exact ⟨rfl, (List.cons.inj (List.append_cancel_left h)).2⟩

theorem Cut.unique {ps qs : List Piece} {s : List Char} (hps : Cut ps s) (hqs : Cut qs s) :
    ps = qs := by
  -- what the text begins with decides which kind of piece comes first
  induction hps generalizing qs with
  | nil => cases hqs with | nil => rfl
  | bare hsingle hdouble rest ih =>
    cases hqs with
    | bare _ _ rest' => rw [ih rest']
    | closed hquote _ _ | unclosed hquote _ => exact absurd hquote (not_or.2 ⟨hsingle, hdouble⟩)
  | @closed q body ps s hquote hbody rest ih =>
    generalize hs : body ++ q :: s = tail at hqs
    cases hqs with
    | bare hsingle hdouble _ => exact absurd hquote (not_or.2 ⟨hsingle, hdouble⟩)
    | @closed _ body' qs' s' _ hbody' rest' =>
      obtain ⟨rfl, rfl⟩ := append_cons_inj hbody hbody' hs
      rw [ih rest']
    | unclosed _ hbody' =>
      rw [← hs] at hbody'
      exact absurd (List.mem_append_right body List.mem_cons_self) hbody'
  | @unclosed q body hquote hbody =>
    cases hqs with
    | bare hsingle hdouble _ => exact absurd hquote (not_or.2 ⟨hsingle, hdouble⟩)
    | closed _ _ _ => exact absurd (List.mem_append_right _ List.mem_cons_self) hbody
    | unclosed _ _ => rfl

/-- The pieces of a text are determined by it. -/
theorem existsUnique_cut (s : List Char) : ∃! ps, Cut ps s := by
  obtain ⟨ps, hps⟩ := exists_cut s
  exact ⟨ps, hps, fun _ hqs => hqs.unique hps⟩

/-! ### Scanning the pieces -/

section

variable {q : Char} {body : List Char} (hbody : q ∉ body)
include hbody

/-- What a region holds does not end it. -/
theorem after_inside : after (some q) body = some q := by
  induction body with
  | nil => rfl
  | cons c rest ih =>
    have hc : c ≠ q := (List.ne_of_not_mem_cons hbody).symm
    rw [after, List.foldl_cons, next, if_neg hc]
    exact ih (List.not_mem_of_not_mem_cons hbody)

theorem count_inside : count (some q) body = 0 := by
  induction body with
  | nil => rfl
  | cons c rest ih =>
    have hc : c ≠ q := (List.ne_of_not_mem_cons hbody).symm
    rw [count_cons_eq_zero, next, if_neg hc]
    exact ⟨rfl, ih (List.not_mem_of_not_mem_cons hbody)⟩

theorem dollars_inside : dollars (some q) body = [] := by
  induction body with
  | nil => rfl
  | cons c rest ih =>
    have hc : c ≠ q := (List.ne_of_not_mem_cons hbody).symm
    rw [dollars, if_neg (by simp), next, if_neg hc]
    exact ih (List.not_mem_of_not_mem_cons hbody)

end

section

variable {q : Char} (hquote : q = '\x27' ∨ q = '"')
include hquote

theorem next_quote : next none q = some q := by
  rcases hquote with rfl | rfl <;> rfl

theorem isMark_quote (state : State) : isMark state q = false := by
  rcases hquote with rfl | rfl <;> cases state <;> rfl

end

theorem next_bare {c : Char} (hsingle : c ≠ '\x27') (hdouble : c ≠ '"') : next none c = none := by
  simp [next, isQuote, hsingle, hdouble]

/-- Numbering passes over a closed region. -/
theorem number_region (mark : Nat → List Char) (n : Nat) {q : Char} {body : List Char}
    (hquote : q = '\x27' ∨ q = '"') (hbody : q ∉ body) (s : List Char) :
    number mark none n (q :: (body ++ q :: s)) = q :: (body ++ q :: number mark none n s) := by
  rw [number, if_neg (by simp [isMark_quote hquote]), next_quote hquote, number_append,
    after_inside hbody, count_inside hbody, number_of_count_eq_zero mark _ n (count_inside hbody),
    number, if_neg (by simp [isMark_quote hquote]), next, if_pos rfl, Nat.add_zero]

/-- How many placeholders are among the pieces. -/
def marks (ps : List Piece) : Nat := ps.count (.bare '?')

/-- The pieces with the `k`-th bare `?` replaced by the placeholder of the number `n + k`. -/
def renumbered (mark : Nat → List Char) (n : Nat) (ps : List Piece) : List Char :=
  (ps.mapIdx fun i p => if p = .bare '?' then mark (n + marks (ps.take i) + 1) else p.text).flatten

theorem renumbered_cons (mark : Nat → List Char) (n : Nat) (p : Piece) (ps : List Piece) :
    renumbered mark n (p :: ps) =
      if p = .bare '?' then mark (n + 1) ++ renumbered mark (n + 1) ps
      else p.text ++ renumbered mark n ps := by
  rw [renumbered, List.mapIdx_cons, List.flatten_cons]
  by_cases hp : p = .bare '?'
  · have hmarks (i : Nat) :
        n + marks ((p :: ps).take (i + 1)) + 1 = n + 1 + marks (ps.take i) + 1 := by
      rw [List.take_succ_cons, marks, hp, List.count_cons_self, ← marks]
      omega
    simp only [hmarks, if_pos hp]
    rfl
  · have hmarks (i : Nat) : marks ((p :: ps).take (i + 1)) = marks (ps.take i) := by
      rw [List.take_succ_cons, marks, List.count_cons_of_ne hp, marks]
    simp only [hmarks, if_neg hp]
    rfl

namespace Cut

variable {ps : List Piece} {s : List Char} (h : Cut ps s)
include h

/-- The bare `?`, and nothing else, are replaced, each by the placeholder of its number. -/
theorem number_eq (mark : Nat → List Char) (n : Nat) :
    number mark none n s = renumbered mark n ps := by
  induction h generalizing n with
  | nil => rfl
  | @bare c ps s hsingle hdouble rest ih =>
    rw [renumbered_cons, number, next_bare hsingle hdouble, ih, ih]
    -- only a bare mark is renumbered, and it raises the number of those behind it
    by_cases hc : c = '?'
    · subst hc
      rfl
    · rw [if_neg (by simpa [isMark] using hc), if_neg (by simpa using hc)]
      rfl
  | closed hquote hbody rest ih =>
    rw [number_region mark n hquote hbody, ih, renumbered_cons, if_neg (by simp), Piece.text,
      List.cons_append, List.append_assoc]
    rfl
  | unclosed hquote hbody =>
    rw [renumbered_cons, if_neg (by simp), number_of_count_eq_zero]
    · exact (List.append_nil _).symm
    · rw [count_cons_eq_zero, next_quote hquote]
      exact ⟨isMark_quote hquote none, count_inside hbody⟩

theorem count_eq : count none s = marks ps := by
  induction h with
  | nil => rfl
  | @bare c ps s hsingle hdouble rest ih =>
    rw [count, next_bare hsingle hdouble, ih, marks, marks, List.count_cons, Nat.add_comm]
    simp [isMark]
  | @closed q body ps s hquote hbody rest ih =>
    have hmarks : marks (.closed q body :: ps) = marks ps := List.count_cons_of_ne (by simp)
    rw [count, isMark_quote hquote, next_quote hquote, count_append, count_inside hbody,
      after_inside hbody, count, isMark_quote hquote, next, if_pos rfl, ih, hmarks]
    simp
  | unclosed hquote hbody =>
    rw [count, isMark_quote hquote, next_quote hquote, count_inside hbody]
    rfl

/-- Behind closed regions the scanner stands outside quotes. -/
theorem after_eq (hclosed : ∀ p ∈ ps, p.leavesOutside = true) : after none s = none := by
  induction h with
  | nil => rfl
  | bare hsingle hdouble rest ih =>
    rw [after, List.foldl_cons, next_bare hsingle hdouble]
    exact ih (List.forall_mem_cons.1 hclosed).2
  | closed hquote hbody rest ih =>
    rw [after, List.foldl_cons, next_quote hquote, ← after, after_append, after_inside hbody, after,
      List.foldl_cons, next, if_pos rfl]
    exact ih (List.forall_mem_cons.1 hclosed).2
  | unclosed hquote hbody => exact absurd (hclosed _ List.mem_cons_self) Bool.false_ne_true

theorem dollars_eq_nil (hdollar : .bare '$' ∉ ps) : dollars none s = [] := by
  induction h with
  | nil => rfl
  | @bare c ps s hsingle hdouble rest ih =>
    have hc : c ≠ '$' := fun hc => hdollar (hc ▸ List.mem_cons_self)
    rw [dollars, if_neg (by simpa using hc), next_bare hsingle hdouble]
    exact ih (List.not_mem_of_not_mem_cons hdollar)
  | @closed q body ps s hquote hbody rest ih =>
    have hq : q ≠ '$' := by rcases hquote with rfl | rfl <;> decide
    rw [dollars, if_neg (by simpa using hq), next_quote hquote, dollars_append_eq_nil,
      after_inside hbody, dollars, if_neg (by simp), next, if_pos rfl]
    exact ⟨dollars_inside hbody, ih (List.not_mem_of_not_mem_cons hdollar)⟩
  | @unclosed q body hquote hbody =>
    have hq : q ≠ '$' := by rcases hquote with rfl | rfl <;> decide
    rw [dollars, if_neg (by simpa using hq), next_quote hquote, dollars_inside hbody]

end Cut

/-! ### Reading the numbers back -/

theorem startsWithDigit_text_append (p : Piece) (t : List Char) :
    startsWithDigit (p.text ++ t) = startsWithDigit p.text := by
  cases p <;> rfl

/-- No bare `?` stands directly before a digit. -/
def Apart (ps : List Piece) : Prop :=
  ps.IsChain fun p q => p = .bare '?' → startsWithDigit q.text = false

instance (ps : List Piece) : Decidable (Apart ps) := inferInstanceAs (Decidable (List.IsChain _ _))

theorem Cut.separated_of_apart {ps : List Piece} {s : List Char} (h : Cut ps s)
    (hapart : Apart ps) :
    separated none s = true := by
  induction h with
  | nil => rfl
  | @bare c ps s hsingle hdouble rest ih =>
    -- the character behind a mark is the first of the next piece
    have hbefore : isMark none c = true → startsWithDigit s = false := by
      intro hmark
      obtain rfl : c = '?' := by simpa [isMark] using hmark
      cases ps with
      | nil =>
        rw [← rest.text_eq]
        rfl
      | cons q ps =>
        rw [← rest.text_eq, List.flatMap_cons, startsWithDigit_text_append]
        exact (List.isChain_cons_cons.1 hapart).1 rfl
    rw [separated, next_bare hsingle hdouble, ih hapart.tail, Bool.and_true]
    cases hmark : isMark none c with
    | false => rfl
    | true => rw [hbefore hmark]; rfl
  | closed hquote hbody rest ih =>
    rw [separated, isMark_quote hquote, next_quote hquote]
    refine separated_append_of_count_eq_zero _ (count_inside hbody) ?_
    rw [after_inside hbody, separated, isMark_quote hquote, next, if_pos rfl]
    exact ih hapart.tail
  | @unclosed q body hquote hbody =>
    rw [separated, isMark_quote hquote, next_quote hquote, ← List.append_nil body]
    exact separated_append_of_count_eq_zero _ (count_inside hbody) rfl

/-- The text with `?` for each `$` outside quotes that digits follow, and for these digits.  The
flag says whether the scanner stands behind such a `$` and has passed over digits only. -/
def restore : State → Bool → List Char → List Char
  | _, _, [] => []
  | state, inNumber, c :: rest =>
    if inNumber && c.isDigit then restore state true rest
    else if state.isNone && c == '$' && startsWithDigit rest then '?' :: restore state true rest
    else c :: restore (next state c) false rest

/-- The digits of a number are passed over. -/
theorem restore_digits_append {ds : List Char} (hds : ∀ c ∈ ds, c.isDigit = true) {t : List Char}
    (ht : startsWithDigit t = false) : restore none true (ds ++ t) = restore none false t := by
  induction ds with
  | nil =>
    cases t with
    | nil => rfl
    | cons c rest =>
      have hc : c.isDigit = false := by simpa [startsWithDigit] using ht
      simp only [List.nil_append, restore, hc, Bool.and_false]
  | cons d ds ih =>
    obtain ⟨hd, hds⟩ := List.forall_mem_cons.1 hds
    rw [List.cons_append, restore, hd, Bool.and_true, if_pos rfl]
    exact ih hds

/-- Where the text has no such `$` of its own, and no digit directly behind a placeholder, the
numbers give way to the placeholders that they stand for. -/
theorem restore_number (state : State) (n : Nat) {s : List Char} (hdollar : dollars state s = [])
    (hsep : separated state s = true) : restore state false (number dollarMark state n s) = s := by
  induction s generalizing state n with
  | nil => rfl
  | cons c rest ih =>
    -- the character is no bare dollar sign, so it is never taken for the start of a number
    have hc : (state.isNone && c == '$') = false := by
      cases hc : state.isNone && c == '$' with
      | false => rfl
      | true => simp [dollars, hc] at hdollar
    rw [dollars, if_neg (by simp [hc])] at hdollar
    rw [separated, Bool.and_eq_true] at hsep
    obtain ⟨hbefore, hsep⟩ := hsep
    by_cases hmark : isMark state c = true
    · obtain ⟨rfl, rfl⟩ : state = none ∧ c = '?' := by simpa [isMark] using hmark
      have hbehind : startsWithDigit rest = false := by simpa [isMark] using hbefore
      have hds : ∀ d ∈ (toString (n + 1)).toList, d.isDigit = true :=
        fun _ => isDigit_of_mem_toString _
      -- the number has at least one digit, so its `$` is one to be replaced
      have hdigit (t : List Char) : startsWithDigit ((toString (n + 1)).toList ++ t) = true := by
        cases hnumber : (toString (n + 1)).toList with
        | nil =>
          rw [Nat.toString_eq_repr, Nat.toList_repr] at hnumber
          exact absurd hnumber Nat.toDigits_ne_nil
        | cons d ds => exact hds d (hnumber ▸ List.mem_cons_self)
      rw [number, if_pos hmark, dollarMark, List.cons_append, restore, if_neg (by decide),
        if_pos (by rw [hdigit]; rfl), restore_digits_append hds (startsWithDigit_number hbehind)]
      exact congrArg _ (ih none (n + 1) hdollar hsep)
    · rw [number, if_neg hmark, restore, if_neg (by simp), if_neg (by simp [hc]),
        ih _ _ hdollar hsep]

end Placeholder

/-! ### Numbering a text -/

namespace Dialect

open Placeholder

/-- The characters of a placeholder. -/
def mark (d : Dialect) (n : Nat) : List Char := (d.placeholder n).toList

theorem toList_number {d : Dialect} (hd : d.numbered = true) (s : String) :
    (d.number s).toList = Placeholder.number d.mark none 0 s.toList := by
  rw [number, if_pos hd, String.toList_ofList]
  rfl

theorem mark_eq_dollarMark {d : Dialect} (hmark : d.placeholder = basicPlaceholder true) :
    d.mark = dollarMark := by
  funext n
  rw [mark, hmark, basicPlaceholder, if_pos rfl, String.toList_append]
  rfl

/-- In a dialect that numbers its placeholders:

* every text is cut into bare characters and quoted regions in one way;
* the `k`-th bare `?` is replaced by the placeholder of the number `k`, and every other piece stays;
* behind a text that is left outside quotes, numbering goes on with the numbers behind those of it;
* where the placeholders are `$1`, `$2` and so on, numbering twice is numbering once, and turning
  the numbers back gives the text again, if it has no bare `$` and no digit directly behind a bare
  `?`. -/
theorem number_regions {d : Dialect} (hd : d.numbered = true) :
    (∀ s : String, ∃! ps, Cut ps s.toList) ∧
    (∀ (s : String) (ps : List Piece), Cut ps s.toList →
      (d.number s).toList = renumbered d.mark 0 ps) ∧
    (∀ (s t : String) (ps qs : List Piece), Cut ps s.toList → Cut qs t.toList →
      (∀ p ∈ ps, p.leavesOutside = true) →
      (d.number (s ++ t)).toList = (d.number s).toList ++ renumbered d.mark (marks ps) qs) ∧
    (d.placeholder = basicPlaceholder true →
      (∀ s : String, d.number (d.number s) = d.number s) ∧
      ∀ (s : String) (ps : List Piece), Cut ps s.toList → .bare '$' ∉ ps → Apart ps →
        restore none false (d.number s).toList = s.toList) := by
  refine ⟨fun s => existsUnique_cut s.toList, ?_, ?_, fun hdefault => ⟨?_, ?_⟩⟩
  · -- a numbered text has no bare mark left to be replaced
    intro s ps hps
    rw [toList_number hd, hps.number_eq]
  · intro s t ps qs hps hqs hclosed
    rw [toList_number hd, toList_number hd, String.toList_append, number_append,
      hps.after_eq hclosed, hps.count_eq, hqs.number_eq, Nat.zero_add]
  · intro s
    have hcount : count none (d.number s).toList = 0 := by
      rw [toList_number hd, mark_eq_dollarMark hdefault, count_number]
    rw [← String.toList_inj, toList_number hd, number_of_count_eq_zero _ _ _ hcount]
  · intro s ps hps hdollar hapart
    rw [toList_number hd, mark_eq_dollarMark hdefault]
    exact restore_number none 0 (hps.dollars_eq_nil hdollar) (hps.separated_of_apart hapart)

/-- A doubled quote, a quote of the other kind and an open region around two placeholders. -/
theorem number_regions_doubled :
    postgres.numbered = true ∧
    postgres.number "'it''s \x22?'||?" = "'it''s \x22?'||$1" ∧
    postgres.number ("'it''s \x22?'||?" ++ "<?+\x22?") = "'it''s \x22?'||$1<$2+\x22?" ∧
    postgres.number "'it''s \x22?'||$1" = "'it''s \x22?'||$1" ∧
    restore none false "'it''s \x22?'||$1".toList = "'it''s \x22?'||?".toList := by
  have hd : postgres.numbered = true := rfl
  have hps : Cut [.closed '\x27' ['i', 't'], .closed '\x27' ['s', ' ', '"', '?'],
      .bare '|', .bare '|', .bare '?'] "'it''s \x22?'||?".toList :=
    .closed (.inl rfl) (by decide) <| .closed (.inl rfl) (by decide) <|
      .bare (by decide) (by decide) <| .bare (by decide) (by decide) <|
      .bare (by decide) (by decide) .nil
  have hqs : Cut [.bare '<', .bare '?', .bare '+', .unclosed '"' ['?']] "<?+\x22?".toList :=
    .bare (by decide) (by decide) <| .bare (by decide) (by decide) <|
      .bare (by decide) (by decide) <| .unclosed (.inr rfl) (by decide)
  obtain ⟨-, hnumber, happend, hbasic⟩ := number_regions hd
  obtain ⟨htwice, hrestore⟩ := hbasic rfl
  have hone : postgres.number "'it''s \x22?'||?" = "'it''s \x22?'||$1" :=
    String.toList_inj.1 ((hnumber _ _ hps).trans (by decide))
  refine ⟨hd, hone, ?_, ?_, ?_⟩
  · refine String.toList_inj.1 ((happend _ _ _ _ hps hqs (by decide)).trans ?_)
    rw [hone]
    decide
  · rw [← hone, htwice]
  · rw [← hone]
    exact hrestore _ _ hps (by decide) (by decide)

end Dialect

end EntitySql
