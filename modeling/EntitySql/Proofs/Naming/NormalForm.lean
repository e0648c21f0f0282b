import EntitySql.Proofs.Naming.Spelling
import EntitySql.Schema.Basic
import Mathlib.Data.List.Find

/-!
# Snake case is a normal form

A text is in snake case if it is words of lower-case letters and digits with single underscores
between them (`IsSnake`).  The snake case of an ASCII name is such a text, and a text that is in
snake case is its own snake case, because it is cut into exactly its words (`words_intercalate`).

So a result column is matched to the same field in its own spelling and in snake case, unless one of
the two is given as the column of a field (`snake_normal_form`).
-/

namespace EntitySql

namespace Naming

/-! ### Characters of snake case -/

/-- A lower-case letter or a digit. -/
def IsSmall (c : Char) : Prop := c.isLower = true ∨ c.isDigit = true

instance (c : Char) : Decidable (IsSmall c) := inferInstanceAs (Decidable (_ ∨ _))

section

variable {c : Char}

theorem IsSmall.toNat_lt (h : IsSmall c) : c.toNat < Letter.asciiEnd := by
  rcases h with h | h
  · have hle : c.val ≤ 'z'.val := of_decide_eq_true (Bool.and_eq_true_iff.1 h).2
    exact Nat.lt_of_le_of_lt (UInt32.le_iff_toNat_le.1 hle) (by decide)
  · have hle : c.val ≤ '9'.val := of_decide_eq_true (Bool.and_eq_true_iff.1 h).2
    exact Nat.lt_of_le_of_lt (UInt32.le_iff_toNat_le.1 hle) (by decide)

/-- A small character is a letter or a number, is not upper case, and is its own lower case. -/
theorem IsSmall.classes (h : IsSmall c) :
    Letter.isAlphanumeric c = true ∧ Letter.isUpper c = false ∧ c.toLower = c := by
  have hall : ∀ n : Fin Letter.asciiEnd, IsSmall (Char.ofNat n) →
      Letter.isAlphanumeric (Char.ofNat n) = true ∧ Letter.isUpper (Char.ofNat n) = false ∧
        (Char.ofNat n).toLower = Char.ofNat n := by decide
  simpa [h] using hall ⟨c.toNat, h.toNat_lt⟩

theorem IsSmall.ne_underscore (h : IsSmall c) : c ≠ '_' := by
  rintro rfl
  exact absurd h (by decide)

/-- An ASCII letter or digit is small in lower case. -/
theorem isSmall_toLower (hascii : c.toNat < Letter.asciiEnd)
    (h : Letter.isAlphanumeric c = true) : IsSmall c.toLower := by
  have hall : ∀ n : Fin Letter.asciiEnd, Letter.isAlphanumeric (Char.ofNat n) = true →
      IsSmall (Char.ofNat n).toLower := by decide
  simpa [h] using hall ⟨c.toNat, hascii⟩

end

/-! ### Words of snake case -/

/-- A word of small characters. -/
def IsSnakeWord (w : List Char) : Prop := w ≠ [] ∧ ∀ c ∈ w, IsSmall c

/-- Words of small characters with single underscores between them, or nothing. -/
def IsSnake (s : List Char) : Prop :=
  ∃ ws : List (List Char), (∀ w ∈ ws, IsSnakeWord w) ∧ s = ['_'].intercalate ws

theorem lowerWord_eq_map {w : List Char} (h : Ascii w) : lowerWord w = w.map Char.toLower := by
  induction w using lowerWord.induct with
  | case1 => rfl
  | case2 => exact absurd (h 'Σ' List.mem_cons_self) (by decide)
  | case3 c rest hsigma ih =>
    obtain ⟨hc, hrest⟩ := List.forall_mem_cons.1 h
    have hlowered : Letter.lowered c = [c.toLower] := if_pos hc
    rw [lowerWord.eq_3 c rest hsigma, hlowered, List.singleton_append, ih hrest, List.map_cons]

/-- A word of an ASCII name is a word of snake case in lower case. -/
theorem isSnakeWord_lowerWord {s w : List Char} (h : Ascii s) (hw : w ∈ words s) :
    IsSnakeWord (lowerWord w) := by
  have hascii : Ascii w := fun c hc => h c (mem_of_mem_words hw hc).1
  rw [lowerWord_eq_map hascii]
  refine ⟨fun hnil => ne_nil_of_mem_words hw (List.map_eq_nil_iff.1 hnil), ?_⟩
  intro c hc
  obtain ⟨b, hb, rfl⟩ := List.mem_map.1 hc
  exact isSmall_toLower (hascii b hb) (mem_of_mem_words hw hb).2

theorem isSnake_snakeChars {s : List Char} (h : Ascii s) : IsSnake (snakeChars s) := by
  refine ⟨(words s).map lowerWord, ?_, rfl⟩
  intro w hw
  obtain ⟨v, hv, rfl⟩ := List.mem_map.1 hw
  exact isSnakeWord_lowerWord h hv

/-! ### The words of a text in snake case -/

theorem runs_of_alphanumeric {w : List Char} (h : ∀ c ∈ w, Letter.isAlphanumeric c = true) :
    runs w = [w] := by
  induction w with
  | nil => rfl
  | cons c rest ih =>
    obtain ⟨hc, hrest⟩ := List.forall_mem_cons.1 h
    rw [runs, if_pos hc, ih hrest, attach]

theorem runs_append_cons {w : List Char} (h : ∀ c ∈ w, Letter.isAlphanumeric c = true) {c : Char}
    (hc : Letter.isAlphanumeric c = false) (s : List Char) : runs (w ++ c :: s) = w :: runs s := by
  induction w with
  | nil => rw [List.nil_append, runs, if_neg (by simp [hc])]
  | cons d rest ih =>
    obtain ⟨hd, hrest⟩ := List.forall_mem_cons.1 h
    rw [List.cons_append, runs, if_pos hd, ih hrest, attach]

/-- A run without upper case is one word. -/
theorem chop_of_not_isUpper (mode : Mode) {s : List Char} (hne : s ≠ [])
    (h : ∀ c ∈ s, Letter.isUpper c = false) : chop mode s = [s] := by
  induction mode, s using chop.induct with
  | case1 mode => exact absurd rfl hne
  | case2 mode c => rw [chop]
  | case3 mode c next rest hrise ih =>
    have hnext : Letter.isUpper next = false := h next (by simp)
    rw [hnext] at hrise
    exact absurd hrise.2 Bool.false_ne_true
  | case4 mode c next rest hrise hfall ih =>
    have hc : Letter.isUpper c = false := h c List.mem_cons_self
    rw [hc] at hfall
    exact absurd hfall.2.1 Bool.false_ne_true
  | case5 mode c next rest hrise hfall ih =>
    rw [chop, if_neg hrise, if_neg hfall, ih (by simp) (List.forall_mem_cons.1 h).2, attach]

theorem words_intercalate {ws : List (List Char)} (h : ∀ w ∈ ws, IsSnakeWord w) :
    words (['_'].intercalate ws) = ws := by
  have hletters {w : List Char} (hw : IsSnakeWord w) : ∀ c ∈ w, Letter.isAlphanumeric c = true :=
    fun c hc => (hw.2 c hc).classes.1
  have hchop {w : List Char} (hw : IsSnakeWord w) : chop .boundary w = [w] :=
    chop_of_not_isUpper _ hw.1 fun c hc => (hw.2 c hc).classes.2.1
  induction ws with
  | nil => rfl
  | cons w rest ih =>
    obtain ⟨hw, hrest⟩ := List.forall_mem_cons.1 h
    cases rest with
    | nil =>
      rw [List.intercalate_singleton, words, runs_of_alphanumeric (hletters hw),
        List.flatMap_singleton, hchop hw]
    | cons v rest =>
      -- the first underscore ends the first run, which is one word
      rw [List.intercalate_cons_cons, List.append_assoc, List.singleton_append, words,
        runs_append_cons (hletters hw) (by decide), List.flatMap_cons, hchop hw, ← words, ih hrest]
      rfl

theorem lowerWord_of_isSnakeWord {w : List Char} (h : IsSnakeWord w) : lowerWord w = w := by
  have hsame : w.map Char.toLower = w.map id :=
    List.map_congr_left fun c hc => (h.2 c hc).classes.2.2
  rw [lowerWord_eq_map fun c hc => (h.2 c hc).toNat_lt, hsame, List.map_id]

theorem snakeChars_of_isSnake {s : List Char} (h : IsSnake s) : snakeChars s = s := by
  obtain ⟨ws, hws, rfl⟩ := h
  have hlower : ws.map lowerWord = ws.map id :=
    List.map_congr_left fun w hw => lowerWord_of_isSnakeWord (hws w hw)
  rw [snakeChars, words_intercalate hws, hlower, List.map_id]

/-! ### The letters of snake case -/

theorem filter_intercalate {ws : List (List Char)} (h : ∀ w ∈ ws, '_' ∉ w) :
    (['_'].intercalate ws).filter (· != '_') = ws.flatten := by
  have hkept {w : List Char} (hw : '_' ∉ w) : w.filter (· != '_') = w :=
    List.filter_eq_self.2 fun c hc => bne_iff_ne.2 (ne_of_mem_of_not_mem hc hw)
  induction ws with
  | nil => rfl
  | cons w rest ih =>
    obtain ⟨hw, hrest⟩ := List.forall_mem_cons.1 h
    cases rest with
    | nil => rw [List.intercalate_singleton, hkept hw, List.flatten_singleton]
    | cons v rest =>
      rw [List.intercalate_cons_cons, List.filter_append, List.filter_append, hkept hw, ih hrest,
        List.flatten_cons]
      simp

/-- Apart from the underscores, snake case has the letters and digits of the name in lower case. -/
theorem filter_snakeChars {s : List Char} (h : Ascii s) :
    (snakeChars s).filter (· != '_') = (s.filter Char.isAlphanum).map Char.toLower := by
  have hwords : (words s).map lowerWord = (words s).map (List.map Char.toLower) :=
    List.map_congr_left fun w hw => lowerWord_eq_map fun c hc => h c (mem_of_mem_words hw hc).1
  have hclass : s.filter Letter.isAlphanumeric = s.filter Char.isAlphanum :=
    List.filter_congr fun c hc => if_pos (h c hc)
  rw [snakeChars, filter_intercalate, hwords, ← List.map_flatten, flatten_words, hclass]
  intro w hw hmem
  obtain ⟨v, hv, rfl⟩ := List.mem_map.1 hw
  exact ((isSnakeWord_lowerWord h hv).2 _ hmem).ne_underscore rfl

/-! ### Names and columns -/

theorem ascii_unmarked {s : List Char} (h : Ascii s) : Ascii (unmarked s) :=
  fun c hc => h c (mem_of_mem_unmarked hc)

theorem isSnake_snake {name : String} (h : Ascii name.toList) : IsSnake (snake name).toList := by
  rw [snake, String.toList_ofList]
  exact isSnake_snakeChars (ascii_unmarked h)

theorem IsSnake.not_mem {s : List Char} (h : IsSnake s) : '#' ∉ s := by
  obtain ⟨ws, hws, rfl⟩ := h
  intro hmem
  rcases mem_of_mem_intercalate hmem with hsep | ⟨w, hw, hmem⟩
  · exact absurd hsep (by decide)
  · exact absurd ((hws w hw).2 _ hmem) (by decide)

theorem snake_of_isSnake {name : String} (h : IsSnake name.toList) : snake name = name := by
  rw [snake, unmarked_of_not_mem h.not_mem, snakeChars_of_isSnake h, String.ofList_toList]

/-- The snake case of an ASCII name is in normal form. -/
theorem snake_snake {name : String} (h : Ascii name.toList) : snake (snake name) = snake name :=
  snake_of_isSnake (isSnake_snake h)

end Naming

/-! ### Result columns -/

namespace Schema

open Naming

/-- A column name that is no given column, and is its own snake case, is compared with the snake
case of the fields alone. -/
theorem fieldOf?_of_snake_eq {s : Schema} {column : String}
    (hgiven : ∀ c ∈ s.columns, c.column ≠ some column) (hsnake : snake column = column) :
    s.fieldOf? column =
      (s.columns.find? fun c => c.column.isNone && snake c.field == column).map (·.field) := by
  -- a given column is another one, so a field can have this column only by default
  have hsame : ∀ c ∈ s.columns,
      (c.columnName == column) = (c.column.isNone && snake c.field == column) := by
    intro c hc
    rw [ColumnDef.columnName]
    cases hcolumn : c.column with
    | none => rfl
    | some given =>
      have hne : given ≠ column := fun heq => hgiven c hc (heq ▸ hcolumn)
      rw [Option.getD_some, beq_false_of_ne hne]
      rfl
  rw [fieldOf?, hsnake, List.find?_congr hsame]
  split
  next c hc => rw [hc, Option.map_some]
  next => rfl

/-- A column that no field has by name is looked for in its snake case. -/
theorem fieldOf?_of_unnamed {s : Schema} {column : String}
    (hnone : ∀ c ∈ s.columns, c.columnName ≠ column) :
    s.fieldOf? column =
      (s.columns.find? fun c => c.column.isNone && snake c.field == snake column).map
        (·.field) := by
  have hfind : s.columns.find? (·.columnName == column) = none :=
    List.find?_eq_none.2 fun c hc => by simpa using hnone c hc
  rw [fieldOf?, hfind]

/-- A column that is no given one is matched to the field of its snake case. -/
theorem fieldOf?_snake {s : Schema} {column : String} (hascii : Ascii column.toList)
    (hfields : ∀ c ∈ s.columns, Ascii c.field.toList)
    (hgiven : ∀ c ∈ s.columns, c.column ≠ some column ∧ c.column ≠ some (snake column)) :
    s.fieldOf? (snake column) = s.fieldOf? column := by
  by_cases hsnake : snake column = column
  · rw [hsnake]
  · -- a default column is in snake case, so no field has this one by name
    have hnone : ∀ c ∈ s.columns, c.columnName ≠ column := by
      intro c hc hname
      cases hcolumn : c.column with
      | some given =>
        rw [ColumnDef.columnName, hcolumn, Option.getD_some] at hname
        exact (hgiven c hc).1 (hname ▸ hcolumn)
      | none =>
        rw [ColumnDef.columnName, hcolumn, Option.getD_none] at hname
        exact hsnake (hname ▸ snake_snake (hfields c hc))
    rw [fieldOf?_of_unnamed hnone,
      fieldOf?_of_snake_eq (fun c hc => (hgiven c hc).2) (snake_snake hascii)]

end Schema

namespace Naming

/-- The snake case of an ASCII name is words of lower-case letters and digits with single
underscores between them, or nothing; it has the letters and digits of the name, and it is its own
snake case.  So a result column is matched to the same field in both spellings, if neither is given
as a column. -/
theorem snake_normal_form {name : String} (hascii : Ascii name.toList) :
    IsSnake (snake name).toList ∧
    (snake name).toList.filter (· != '_') =
      ((unmarked name.toList).filter Char.isAlphanum).map Char.toLower ∧
    snake (snake name) = snake name ∧
    ∀ s : Schema, (∀ c ∈ s.columns, Ascii c.field.toList) →
      (∀ c ∈ s.columns, c.column ≠ some name ∧ c.column ≠ some (snake name)) →
      s.fieldOf? (snake name) = s.fieldOf? name := by
  refine ⟨isSnake_snake hascii, ?_, snake_snake hascii, fun s hfields hgiven => ?_⟩
  · rw [snake, String.toList_ofList, filter_snakeChars (ascii_unmarked hascii)]
  · exact Schema.fieldOf?_snake hascii hfields hgiven

/-- Fields with default columns, one of them with a mark in its name, and a field with a given
column. -/
def requestSchema : Schema where
  key := "web::Request"
  typeName := "Request"
  columns := [⟨"HTTPCode2xx", none, ""⟩, ⟨"r#type", none, ""⟩, ⟨"httpStatus", some "status", ""⟩]

theorem snake_normal_form_request :
    Ascii "HttpCode2xx".toList ∧
    (∀ c ∈ requestSchema.columns, Ascii c.field.toList) ∧
    (∀ c ∈ requestSchema.columns,
      c.column ≠ some "HttpCode2xx" ∧ c.column ≠ some "http_code2xx") ∧
    snake "HttpCode2xx" = "http_code2xx" ∧ snake "http_code2xx" = "http_code2xx" ∧
    requestSchema.fieldOf? "http_code2xx" = requestSchema.fieldOf? "HttpCode2xx" ∧
    requestSchema.fieldOf? "HttpCode2xx" = some "HTTPCode2xx" := by
  have hascii : Ascii "HttpCode2xx".toList := by decide
  have hsnake : snake "HttpCode2xx" = "http_code2xx" := by decide
  have hfields : ∀ c ∈ requestSchema.columns, Ascii c.field.toList := by decide
  have hgiven : ∀ c ∈ requestSchema.columns,
      c.column ≠ some "HttpCode2xx" ∧ c.column ≠ some "http_code2xx" := by decide
  obtain ⟨-, -, htwice, hfield⟩ := snake_normal_form hascii
  rw [hsnake] at htwice hfield
  exact ⟨hascii, hfields, hgiven, hsnake, htwice, hfield requestSchema hfields hgiven, by decide⟩

end Naming

end EntitySql
