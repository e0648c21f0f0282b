import EntitySql.Proofs.Layout.Strays

/-!
# Filling the placeholders

`Placeholder.fill` writes the parameters into a text in place of the placeholders, the first one for
the first placeholder and so on.  `Layout.bound` writes the values of a layout at their own places.
In a layout of plain texts without strays these are the same (`Layout.fill_text`): the `k`-th
placeholder of the text stands where the `k`-th parameter belongs.

The values of a command come in blocks, clause by clause (`Renderer.values_commandLayout`).
-/

namespace EntitySql

namespace Placeholder

variable {α : Type}

/-- The text with the parameters, written in some way, in place of its placeholders. -/
def fill (literal : α → List Char) (params : List α) (s : List Char) : List Char :=
  number (fun n => (params[n - 1]?).elim [] literal) none 0 s

/-- Only the placeholders that a text has need the same marks. -/
theorem number_congr {mark mark' : Nat → List Char} (state : State) (n n' : Nat) {s : List Char}
    (h : ∀ k < count state s, mark (n + k + 1) = mark' (n' + k + 1)) :
    number mark state n s = number mark' state n' s := by
  induction s generalizing state n n' with
  | nil => rfl
  | cons c rest ih =>
    by_cases hc : isMark state c = true
    · have hcount : count state (c :: rest) = 1 + count (next state c) rest := by
        rw [count, if_pos hc]
      rw [hcount] at h
      -- the rest is numbered from one further on
      have hrest := ih (next state c) (n + 1) (n' + 1) fun k hk => by
        have := h (k + 1) (by omega)
        rwa [show n + (k + 1) + 1 = n + 1 + k + 1 by omega,
          show n' + (k + 1) + 1 = n' + 1 + k + 1 by omega] at this
      rw [number, if_pos hc, number, if_pos hc, hrest]
      exact congrArg (· ++ _) (h 0 (by omega))
    · have hcount : count state (c :: rest) = count (next state c) rest := by
        rw [count, if_neg hc, Nat.zero_add]
      rw [hcount] at h
      rw [number, if_neg hc, number, if_neg hc, ih (next state c) n n' h]

end Placeholder

/-! ### Every value at its own place -/

namespace Piece

/-- The text of a piece with its values, written in some way, at their places. -/
def bound (literal : Value → List Char) : Piece → List Char
  | .text s => s.toList
  | .slot v => literal v
  | .raw sql => Placeholder.fill literal sql.params sql.sql.toList
  | .stray _ => []

/-- The marks of a piece are its own values if these come next. -/
theorem written_eq_bound (literal : Value → List Char) {p : Piece} (h : p.Plain)
    (before behind : List Value) :
    p.written (fun n => ((before ++ p.fragment.params ++ behind)[n - 1]?).elim [] literal)
      before.length = p.bound literal := by
  cases p with
  | text s => rfl
  | slot v =>
    show ((before ++ [v] ++ behind)[before.length + 1 - 1]?).elim [] literal = literal v
    rw [Nat.add_sub_cancel, List.append_assoc, List.getElem?_append_right (Nat.le_refl _),
      Nat.sub_self]
    rfl
  | raw sql =>
    -- as many placeholders as parameters, so no mark is taken from `behind`
    obtain ⟨-, hcount, -⟩ : sql.Plain := h
    refine Placeholder.number_congr none before.length 0 fun k hk => ?_
    rw [hcount] at hk
    show ((before ++ sql.params ++ behind)[before.length + k + 1 - 1]?).elim [] literal =
      (sql.params[0 + k + 1 - 1]?).elim [] literal
    rw [Nat.add_sub_cancel, Nat.add_sub_cancel, Nat.zero_add, List.append_assoc,
      List.getElem?_append_right (Nat.le_add_right _ _), Nat.add_sub_cancel_left,
      List.getElem?_append_left hk]
  | stray v => rfl

end Piece

namespace Layout

/-- The text of a layout with its values at their places. -/
def bound (literal : Value → List Char) : Layout → List Char
  | [] => []
  | p :: l => p.bound literal ++ bound literal l

theorem written_eq_bound (literal : Value → List Char) {l : Layout} (h : l.Plain)
    (hstrays : l.strays = []) (before behind : List Value) :
    l.written (fun n => ((before ++ l.values ++ behind)[n - 1]?).elim [] literal) before.length =
      l.bound literal := by
  induction l generalizing before with
  | nil => rfl
  | cons p l ih =>
    obtain ⟨hp, hl⟩ := plainWith_cons.1 h
    rw [strays_cons, List.append_eq_nil_iff] at hstrays
    have hwidth : before.length + p.width = (before ++ p.fragment.params).length := by
      rw [List.length_append, Piece.length_params, hstrays.1, List.length_nil, Nat.add_zero]
    have hvalues : values (p :: l) = p.fragment.params ++ values l := rfl
    have hpiece := Piece.written_eq_bound literal hp before (values l ++ behind)
    have hrest := ih hl hstrays.2 (before ++ p.fragment.params)
    -- the values of the piece are behind those before it, and before those of the rest
    rw [← List.append_assoc] at hpiece
    rw [List.append_assoc before] at hpiece hrest
    rw [written, hwidth, hvalues, hpiece, hrest, bound]

/-- Filling the placeholders in order writes every value at its own place. -/
theorem fill_text (literal : Value → List Char) {l : Layout} (h : l.Plain)
    (hstrays : l.strays = []) :
    Placeholder.fill literal l.values l.fragment.text.toList = l.bound literal := by
  have hbound := written_eq_bound literal h hstrays [] []
  rw [List.nil_append, List.append_nil] at hbound
  rw [Placeholder.fill, number_text h]
  exact hbound

/-! ### Blocks of values -/

@[simp] theorem values_nil : values [] = [] := rfl

@[simp] theorem values_cons (p : Piece) (l : Layout) :
    values (p :: l) = p.fragment.params ++ values l := rfl

@[simp] theorem values_append (a b : Layout) : values (a ++ b) = values a ++ values b := by
  rw [values, fragment_append, Fragment.params_append]
  rfl

theorem values_join (sep : String) (ls : List Layout) :
    values (join sep ls) = ls.flatMap values := by
  induction ls with
  | nil => rfl
  | cons l rest ih =>
    cases rest with
    | nil => simp [join]
    | cons m rest => simp [join, Piece.fragment, ih]

end Layout

namespace Renderer

variable {r : Renderer} {w : r.dialect.Weaving}

/-- The values of a level are those of its clauses, in the order of the text. -/
theorem values_levelLayout {c : Clauses Layout} (hraw : c.raw = none) :
    (r.levelLayout w c).values = (r.selectListLayout c.select).values ++
      (r.whereLayout w c).values ++ (r.havingLayout w c).values ++ (r.pageLayout c).values := by
  rw [levelLayout, hraw]
  simp [sourceLayout, tailLayout, Piece.fragment]

variable (r w) in
/-- The values of a command, block by block: those of the select list, of `WHERE`, of `HAVING` and
of the page, or those of the changes and of `WHERE`. -/
def blocks : Command → List (List Value)
  | .select q =>
    let c := q.clauses.map (r.layout w)
    [(r.selectListLayout c.select).values, (r.whereLayout w c).values,
      (r.havingLayout w c).values, (r.pageLayout c).values]
  | .update q changes =>
    [changes.flatMap fun change => (r.assignmentLayout change).values,
      (r.whereLayout w (q.clauses.map (r.layout w))).values]
  | .delete q => [(r.whereLayout w (q.clauses.map (r.layout w))).values]

theorem values_commandLayout {cmd : Command} (hraw : cmd.rows.clauses.raw = none) :
    (r.commandLayout w cmd).values = (r.blocks w cmd).flatten := by
  cases cmd with
  | select q =>
    obtain ⟨c⟩ := q
    have hlevel := values_levelLayout (w := w) (c := c.map (r.layout w)) hraw
    rw [commandLayout, layout_of, hlevel]
    simp [blocks, Query.clauses]
  | update q changes =>
    simp [commandLayout, blocks, Layout.values_join, List.flatMap_map, Piece.fragment]
  | delete q => simp [commandLayout, blocks, Piece.fragment]

end Renderer

end EntitySql
