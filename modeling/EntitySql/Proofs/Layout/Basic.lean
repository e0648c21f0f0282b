import EntitySql.Proofs.Placeholder.Numbering
import EntitySql.Query.Basic

/-!
# Layouts

A `Layout` is a statement in which every bound value still stands at its own place: a list of
pieces, each of them a text, a slot for one value, or hand-written SQL with its parameters.
`Layout.fragment` forgets the places: a slot becomes `?` in the text, and its value goes to the
list of parameters.  A stray value is bound as well, but has no place in the text.

In a layout of plain texts nothing is lost by forgetting: the placeholders of the text are as many
as the slots, strays apart (`length_values`), and numbering the text is writing a numbered
placeholder into the first slot, the second, and so on (`number_text`).
-/

namespace EntitySql

/-- A piece of a layout. -/
inductive Piece where
  | text (s : String)
  /-- The place of one value. -/
  | slot (v : Value)
  /-- Hand-written SQL, with placeholders of its own. -/
  | raw (sql : RawSql)
  /-- A bound value without a place. -/
  | stray (v : Value)
deriving DecidableEq, Repr

/-- A statement with every value at its place. -/
abbrev Layout := List Piece

/-! ### Plain pieces -/

/-- Hand-written SQL with closed quotes, no `$` outside of them, and a parameter for each `?`. -/
def RawSql.Plain (raw : RawSql) : Prop :=
  Placeholder.after none raw.sql.toList = none ∧
    Placeholder.count none raw.sql.toList = raw.params.length ∧
    Placeholder.dollars none raw.sql.toList = []

instance (raw : RawSql) : Decidable raw.Plain := inferInstanceAs (Decidable (_ ∧ _ ∧ _))

namespace Piece

/-- Text and parameters of a piece. -/
def fragment : Piece → Fragment
  | .text s => ⟨s, []⟩
  | .slot v => .placeholder v
  | .raw sql => ⟨sql.sql, sql.params⟩
  | .stray v => ⟨"", [v]⟩

/-- A piece whose text is plain, or hand-written SQL of a given kind. -/
def PlainWith (Q : RawSql → Prop) : Piece → Prop
  | .text s => Placeholder.Plain s
  | .raw sql => Q sql
  | .slot _ | .stray _ => True

/-- A piece whose text has as many placeholders as places. -/
abbrev Plain : Piece → Prop := PlainWith RawSql.Plain

/-- How many places a piece has. -/
def width : Piece → Nat
  | .text _ | .stray _ => 0
  | .slot _ => 1
  | .raw sql => sql.params.length

/-- The piece with the placeholders after `n` at its places. -/
def written (mark : Nat → List Char) (n : Nat) : Piece → List Char
  | .text s => s.toList
  | .slot _ => mark (n + 1)
  | .raw sql => Placeholder.number mark none n sql.sql.toList
  | .stray _ => []

/-- The values of a piece without a place. -/
def strays : Piece → List Value
  | .stray v => [v]
  | .text _ | .slot _ | .raw _ => []

section

variable {p : Piece} (h : p.Plain)
include h

theorem after_text : Placeholder.after none p.fragment.text.toList = none := by
  cases p with
  | text s => exact h.1
  | slot v => exact (by decide : Placeholder.after none "?".toList = none)
  | raw sql => exact h.1
  | stray v => exact (by decide : Placeholder.after none "".toList = none)

theorem count_text : Placeholder.count none p.fragment.text.toList = p.width := by
  cases p with
  | text s => exact h.2.1
  | slot v => exact (by decide : Placeholder.count none "?".toList = 1)
  | raw sql => exact h.2.1
  | stray v => exact (by decide : Placeholder.count none "".toList = 0)

theorem dollars_text : Placeholder.dollars none p.fragment.text.toList = [] := by
  cases p with
  | text s => exact h.2.2
  | slot v => exact (by decide : Placeholder.dollars none "?".toList = [])
  | raw sql => exact h.2.2
  | stray v => exact (by decide : Placeholder.dollars none "".toList = [])

theorem number_text (mark : Nat → List Char) (n : Nat) :
    Placeholder.number mark none n p.fragment.text.toList = p.written mark n := by
  cases p with
  | text s => exact Placeholder.number_of_count_eq_zero mark none n h.2.1
  | slot v =>
    rw [fragment, Fragment.placeholder, show "?".toList = ['?'] from rfl, Placeholder.number,
      if_pos (by decide), Placeholder.number, List.append_nil, written]
  | raw sql => rfl
  | stray v => rfl

end

/-- Every bound value has a place or is a stray. -/
theorem length_params (p : Piece) :
    p.fragment.params.length = p.width + p.strays.length := by
  cases p <;> rfl

end Piece

namespace Layout

/-! ### Forgetting the places -/

/-- Text and parameters of a layout. -/
def fragment : Layout → Fragment
  | [] => .empty
  | p :: l => p.fragment ++ fragment l

/-- The bound values. -/
def values (l : Layout) : List Value := l.fragment.params

/-- The bound values without a place. -/
def strays (l : Layout) : List Value := l.flatMap Piece.strays

/-- How many places a layout has. -/
def width : Layout → Nat
  | [] => 0
  | p :: l => p.width + width l

/-- The text with the placeholders after `n` at the places. -/
def written (mark : Nat → List Char) : Nat → Layout → List Char
  | _, [] => []
  | n, p :: l => p.written mark n ++ written mark (n + p.width) l

/-- A layout of plain texts, and hand-written SQL of a given kind. -/
def PlainWith (Q : RawSql → Prop) (l : Layout) : Prop := ∀ p ∈ l, p.PlainWith Q

/-- A layout of plain pieces. -/
abbrev Plain : Layout → Prop := PlainWith RawSql.Plain

@[simp] theorem fragment_nil : fragment [] = .empty := rfl

@[simp] theorem fragment_cons (p : Piece) (l : Layout) :
    fragment (p :: l) = p.fragment ++ fragment l := rfl

@[simp] theorem fragment_append (a b : Layout) :
    fragment (a ++ b) = fragment a ++ fragment b := by
  induction a with
  | nil => simp
  | cons p a ih => rw [List.cons_append, fragment_cons, ih, fragment_cons, Fragment.append_assoc]

@[simp] theorem strays_append (a b : Layout) : strays (a ++ b) = strays a ++ strays b :=
  List.flatMap_append

@[simp] theorem strays_cons (p : Piece) (l : Layout) : strays (p :: l) = p.strays ++ strays l :=
  List.flatMap_cons

@[simp] theorem strays_nil : strays [] = [] := rfl

section

variable {Q : RawSql → Prop}

@[simp] theorem plainWith_nil : PlainWith Q [] := List.forall_mem_nil _

@[simp] theorem plainWith_cons {p : Piece} {l : Layout} :
    PlainWith Q (p :: l) ↔ p.PlainWith Q ∧ PlainWith Q l :=
  List.forall_mem_cons

@[simp] theorem plainWith_append {a b : Layout} :
    PlainWith Q (a ++ b) ↔ PlainWith Q a ∧ PlainWith Q b :=
  List.forall_mem_append

end

/-! ### Nothing is lost -/

theorem after_text {l : Layout} (h : l.Plain) :
    Placeholder.after none l.fragment.text.toList = none := by
  induction l with
  | nil => rfl
  | cons p l ih =>
    obtain ⟨hp, hl⟩ := plainWith_cons.1 h
    rw [fragment_cons, Fragment.text_append, String.toList_append, Placeholder.after_append,
      Piece.after_text hp, ih hl]

theorem count_text {l : Layout} (h : l.Plain) :
    Placeholder.count none l.fragment.text.toList = l.width := by
  induction l with
  | nil => rfl
  | cons p l ih =>
    obtain ⟨hp, hl⟩ := plainWith_cons.1 h
    rw [fragment_cons, Fragment.text_append, String.toList_append, Placeholder.count_append,
      Piece.after_text hp, Piece.count_text hp, ih hl]
    rfl

theorem dollars_text {l : Layout} (h : l.Plain) :
    Placeholder.dollars none l.fragment.text.toList = [] := by
  induction l with
  | nil => rfl
  | cons p l ih =>
    obtain ⟨hp, hl⟩ := plainWith_cons.1 h
    rw [fragment_cons, Fragment.text_append, String.toList_append,
      Placeholder.dollars_append_eq_nil, Piece.after_text hp]
    exact ⟨Piece.dollars_text hp, ih hl⟩

/-- The `k`-th placeholder of the text is the `k`-th place of the layout. -/
theorem number_text {l : Layout} (h : l.Plain) (mark : Nat → List Char) (n : Nat) :
    Placeholder.number mark none n l.fragment.text.toList = l.written mark n := by
  induction l generalizing n with
  | nil => rfl
  | cons p l ih =>
    obtain ⟨hp, hl⟩ := plainWith_cons.1 h
    rw [fragment_cons, Fragment.text_append, String.toList_append, Placeholder.number_append,
      Piece.after_text hp, Piece.count_text hp, Piece.number_text hp, ih hl]
    rfl

theorem length_values_eq_width (l : Layout) : l.values.length = l.width + l.strays.length := by
  induction l with
  | nil => rfl
  | cons p l ih =>
    have hl : (fragment l).params.length = width l + (strays l).length := ih
    have hw : width (p :: l) = p.width + width l := rfl
    rw [values, fragment_cons, Fragment.params_append, List.length_append, Piece.length_params, hl,
      hw, strays_cons, List.length_append]
    omega

/-- The parameters are as many as the placeholders, strays apart. -/
theorem length_values {l : Layout} (h : l.Plain) :
    l.values.length = Placeholder.count none l.fragment.text.toList + l.strays.length := by
  rw [count_text h, length_values_eq_width]

/-! ### Layouts put together -/

/-- A layout in parentheses. -/
def parenthesized (l : Layout) : Layout := .text "(" :: l ++ [.text ")"]

/-- The layouts with a separator between any two of them. -/
def join (sep : String) : List Layout → Layout
  | [] => []
  | [l] => l
  | l :: rest => l ++ .text sep :: join sep rest

/-- Layouts with texts before, between and after them. -/
def weave : List String → List Layout → Layout
  | [], ls => ls.flatten
  | t :: _, [] => [.text t]
  | t :: texts, l :: ls => .text t :: l ++ weave texts ls

/-- The bound values of a layout, all of them without a place. -/
def dropped (l : Layout) : Layout := l.values.map .stray

@[simp] theorem fragment_text (s : String) : fragment [.text s] = ⟨s, []⟩ := by
  rw [fragment_cons, fragment_nil, Fragment.append_empty]
  rfl

@[simp] theorem fragment_parenthesized (l : Layout) :
    fragment (parenthesized l) = l.fragment.parenthesized := by
  rw [parenthesized, List.cons_append, fragment_cons, fragment_append, fragment_text,
    ← Fragment.append_assoc]
  rfl

theorem fragment_join (sep : String) (ls : List Layout) :
    fragment (join sep ls) = Fragment.join sep (ls.map fragment) := by
  induction ls with
  | nil => rfl
  | cons l rest ih =>
    cases rest with
    | nil => rfl
    | cons m rest =>
      rw [join, fragment_append, fragment_cons, ih, ← Fragment.append_assoc]
      · rfl
      · exact fun h => List.cons_ne_nil m rest h

theorem params_dropped (l : Layout) : (dropped l).fragment = ⟨"", l.values⟩ := by
  unfold dropped
  induction l.values with
  | nil => rfl
  | cons v vs ih =>
    rw [List.map_cons, fragment_cons, ih]
    rfl

@[simp] theorem strays_dropped (l : Layout) : strays (dropped l) = l.values := by
  simp [strays, dropped, List.flatMap_map, Piece.strays]

@[simp] theorem strays_parenthesized (l : Layout) : strays (parenthesized l) = strays l := by
  simp [parenthesized, Piece.strays]

theorem strays_join (sep : String) (ls : List Layout) :
    strays (join sep ls) = ls.flatMap strays := by
  induction ls with
  | nil => rfl
  | cons l rest ih =>
    cases rest with
    | nil => simp [join]
    | cons m rest => simp [join, Piece.strays, ih]

end Layout

end EntitySql
