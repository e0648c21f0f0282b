import EntitySql.Proofs.Layout.Level

/-!
# Tidy layouts

A layout is tidy if its texts are plain and no place stands directly before a digit.  It is closed
as well if it does not end in a place, so that anything may follow it.  `Layout.Tidy` has the ways
in which tidy layouts are put together, for hand-written SQL of any kind.

Tidy layouts are layouts of plain texts (`Tidy.plainWith`).  If the hand-written SQL keeps its
placeholders apart from digits, so does the whole text (`Tidy.separated`).
-/

namespace EntitySql

namespace Layout

/-- A layout that does not begin with a digit: it may follow a place. -/
def MayFollow (l : Layout) : Prop := Placeholder.startsWithDigit l.fragment.text.toList = false

/-- A layout of plain texts without a place directly before a digit; closed if the flag is set. -/
inductive Tidy (Q : RawSql → Prop) : Bool → Layout → Prop
  | nil : Tidy Q true []
  | text {s : String} (hs : Placeholder.Plain s) : Tidy Q true [.text s]
  | stray (v : Value) : Tidy Q true [.stray v]
  | slot (v : Value) : Tidy Q false [.slot v]
  | raw {sql : RawSql} (h : Q sql) : Tidy Q false [.raw sql]
  /-- Anything may follow a closed layout. -/
  | append {closed : Bool} {a b : Layout} (ha : Tidy Q true a) (hb : Tidy Q closed b) :
      Tidy Q closed (a ++ b)
  /-- A place is followed by something that begins with no digit. -/
  | follow {a b : Layout} (ha : Tidy Q false a) (hb : Tidy Q false b) (h : MayFollow b) :
      Tidy Q false (a ++ b)
  /-- A text with a first character that is no digit closes a layout. -/
  | close {a : Layout} {s : String} (ha : Tidy Q false a) (hs : Filler s) (hne : s ≠ "") :
      Tidy Q true (a ++ [.text s])
  | opened {l : Layout} (h : Tidy Q true l) : Tidy Q false l

variable {Q : RawSql → Prop} {closed : Bool} {l : Layout}

/-! ### What is tidy -/

theorem Tidy.plainWith (h : Tidy Q closed l) : PlainWith Q l := by
  induction h with
  | nil => exact plainWith_nil
  | text hs => exact plainWith_cons.2 ⟨hs, plainWith_nil⟩
  | stray v => exact plainWith_cons.2 ⟨trivial, plainWith_nil⟩
  | slot v => exact plainWith_cons.2 ⟨trivial, plainWith_nil⟩
  | raw h => exact plainWith_cons.2 ⟨h, plainWith_nil⟩
  | append _ _ iha ihb => exact plainWith_append.2 ⟨iha, ihb⟩
  | follow _ _ _ iha ihb => exact plainWith_append.2 ⟨iha, ihb⟩
  | close _ hs _ iha => exact plainWith_append.2 ⟨iha, plainWith_cons.2 ⟨hs.1, plainWith_nil⟩⟩
  | opened _ ih => exact ih

/-- The text of a tidy layout keeps its placeholders apart from digits, and that of a closed one
does so before any text. -/
theorem Tidy.separated_append (h : Tidy Q closed l)
    (hQ : ∀ sql, Q sql → sql.Plain ∧ Placeholder.separated none sql.sql.toList = true)
    {t : List Char} (ht : Placeholder.separated none t = true)
    (hclosed : closed = true ∨ Placeholder.startsWithDigit t = false) :
    Placeholder.separated none (l.fragment.text.toList ++ t) = true := by
  -- on how the layout is put together: `t` is what stands behind it
  induction h generalizing t with
  | nil => exact ht
  | text hs =>
    rw [fragment_text]
    exact Placeholder.separated_append_of_count_eq_zero none hs.2.1 (by rw [hs.1]; exact ht)
  | stray v => exact ht
  | slot v =>
    obtain hclosed | hdigit := hclosed
    · cases hclosed
    · exact Placeholder.separated_append (s := "?".toList) none (by decide) ht hdigit
  | @raw sql hsql =>
    obtain hclosed | hdigit := hclosed
    · cases hclosed
    · rw [fragment_cons, fragment_nil, Fragment.append_empty]
      refine Placeholder.separated_append none (hQ sql hsql).2 ?_ hdigit
      rw [show Placeholder.after none (Piece.raw sql).fragment.text.toList = none from
        (hQ sql hsql).1.1]
      exact ht
  | append ha hb iha ihb =>
    rw [fragment_append, Fragment.text_append, String.toList_append, List.append_assoc]
    -- the front is closed, so the back may begin with a digit
    exact iha (ihb ht hclosed) (Or.inl rfl)
  | follow ha hb hfirst iha ihb =>
    obtain hclosed | hdigit := hclosed
    · cases hclosed
    · rw [fragment_append, Fragment.text_append, String.toList_append, List.append_assoc]
      exact iha (ihb ht (Or.inr hdigit)) (Or.inr (Placeholder.startsWithDigit_append hfirst hdigit))
  | @close a s ha hs hne iha =>
    rw [fragment_append, fragment_text, Fragment.text_append, String.toList_append,
      List.append_assoc]
    -- the text has a first character, which stands before whatever follows
    refine iha (Placeholder.separated_append_of_count_eq_zero none hs.1.2.1 ?_) (Or.inr ?_)
    · rw [hs.1.1]
      exact ht
    · exact Placeholder.startsWithDigit_toList_append hs.2 hne t
  | opened h ih => exact ih ht (Or.inl rfl)

theorem Tidy.separated (h : Tidy Q closed l)
    (hQ : ∀ sql, Q sql → sql.Plain ∧ Placeholder.separated none sql.sql.toList = true) :
    Placeholder.separated none l.fragment.text.toList = true := by
  have hsep := h.separated_append hQ (t := []) rfl (Or.inr rfl)
  rwa [List.append_nil] at hsep

/-! ### Beginnings -/

theorem mayFollow_nil : MayFollow [] := rfl

theorem mayFollow_append {a b : Layout} (ha : MayFollow a) (hb : MayFollow b) :
    MayFollow (a ++ b) := by
  rw [MayFollow, fragment_append, Fragment.text_append, String.toList_append]
  exact Placeholder.startsWithDigit_append ha hb

theorem mayFollow_slot (v : Value) (l : Layout) : MayFollow (.slot v :: l) := by
  rw [MayFollow, fragment_cons, Fragment.text_append, String.toList_append]
  show Placeholder.startsWithDigit ("?".toList ++ _) = false
  rw [show "?".toList = ['?'] from rfl]
  rfl

/-- A layout that begins with a text is decided by its first character, if it has one. -/
theorem mayFollow_text_cons {s : String} (hs : Filler s) (hl : s = "" → MayFollow l) :
    MayFollow (.text s :: l) := by
  rw [MayFollow, fragment_cons, Fragment.text_append, String.toList_append]
  by_cases hne : s = ""
  · subst hne
    exact hl rfl
  · exact Placeholder.startsWithDigit_toList_append hs.2 hne _

/-! ### Layouts put together -/

theorem Tidy.weaken (h : Tidy Q closed l) : Tidy Q false l := by
  cases closed with
  | false => exact h
  | true => exact h.opened

theorem Tidy.text_cons {s : String} (hs : Placeholder.Plain s) (h : Tidy Q closed l) :
    Tidy Q closed (.text s :: l) :=
  (Tidy.text hs).append h

/-- A text with a first character that is no digit separates two layouts. -/
theorem Tidy.append_text_cons {a b : Layout} (ha : Tidy Q false a) {s : String} (hs : Filler s)
    (hne : s ≠ "") (hb : Tidy Q closed b) : Tidy Q closed (a ++ .text s :: b) := by
  rw [← List.singleton_append, ← List.append_assoc]
  exact (ha.close hs hne).append hb

theorem Tidy.parenthesized (h : Tidy Q closed l) : Tidy Q true l.parenthesized := by
  have hclose : Tidy Q true (l ++ [.text ")"]) := h.weaken.close (by decide) (by decide)
  exact hclose.text_cons (Placeholder.plain_of_ordinary (by decide))

theorem tidy_dropped (l : Layout) : Tidy Q true (dropped l) := by
  unfold dropped
  induction l.values with
  | nil => exact .nil
  | cons v vs ih => exact (Tidy.stray v).append ih

theorem tidy_join {sep : String} (hsep : Filler sep) (hne : sep ≠ "") {ls : List Layout}
    (h : ∀ l ∈ ls, Tidy Q false l) : Tidy Q false (join sep ls) := by
  induction ls with
  | nil => exact Tidy.nil.opened
  | cons l rest ih =>
    have hl : Tidy Q false l := h l List.mem_cons_self
    have hrest := ih fun m hm => h m (List.mem_cons_of_mem l hm)
    cases rest with
    | nil => exact hl
    | cons m rest => exact hl.append_text_cons hsep hne hrest

theorem tidy_flatten {ls : List Layout} (h : ∀ l ∈ ls, Tidy Q false l ∧ MayFollow l) :
    Tidy Q false ls.flatten ∧ MayFollow ls.flatten := by
  induction ls with
  | nil => exact ⟨Tidy.nil.opened, mayFollow_nil⟩
  | cons l ls ih =>
    obtain ⟨hl, hfirst⟩ := h l List.mem_cons_self
    obtain ⟨hls, hrest⟩ := ih fun m hm => h m (List.mem_cons_of_mem l hm)
    exact ⟨hl.follow hls hrest, mayFollow_append hfirst hrest⟩

theorem tidy_weave {texts : List String} (htexts : ∀ t ∈ texts, Filler t) {ls : List Layout}
    (h : ∀ l ∈ ls, Tidy Q false l ∧ MayFollow l) :
    Tidy Q false (weave texts ls) ∧ MayFollow (weave texts ls) := by
  induction texts generalizing ls with
  | nil => exact tidy_flatten h
  | cons t texts ih =>
    have ht : Filler t := htexts t List.mem_cons_self
    cases ls with
    | nil => exact ⟨(Tidy.text ht.1).opened, mayFollow_text_cons ht fun _ => mayFollow_nil⟩
    | cons l ls =>
      obtain ⟨hl, hfirst⟩ := h l List.mem_cons_self
      obtain ⟨hls, hrest⟩ := ih (fun u hu => htexts u (List.mem_cons_of_mem t hu))
        fun m hm => h m (List.mem_cons_of_mem l hm)
      exact ⟨(hl.follow hls hrest).text_cons ht.1,
        mayFollow_text_cons ht fun _ => mayFollow_append hfirst hrest⟩

end Layout

end EntitySql
