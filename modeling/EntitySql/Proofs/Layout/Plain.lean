import EntitySql.Proofs.Layout.Texts
import EntitySql.Proofs.Layout.Tidy

/-!
# Layouts of plain texts

If the texts that are written as they stand are plain at every rendered level of a query, then its
layout is tidy (`tidy_layout`), and so is that of a command (`tidy_commandLayout`): all that
rendering puts between these texts is plain, and no value is followed by a digit.

A target is closed, so that raw SQL may follow it whatever it begins with.
-/

namespace EntitySql.Renderer

open Layout (Tidy MayFollow)
open Placeholder (Plain plain_of_ordinary)

variable {r : Renderer} {w : r.dialect.Weaving} {Q : RawSql → Prop}

/-! ### Targets -/

theorem tidy_columnLayout {c : ColumnRef} (h : ∀ t ∈ c.texts r, Plain t) :
    Tidy Q true (r.columnLayout c) :=
  .text (plain_textOf fun _ hs => plain_column h hs)

theorem tidy_itemLayout {i : SelectItem Layout} (htexts : ∀ t ∈ i.texts r, Plain t)
    (hsubs : ∀ l ∈ i.subs, Tidy Q false l) : Tidy Q true (r.itemLayout i) := by
  obtain ⟨expr, aggregate, aliasName⟩ := i
  have hexpr : Tidy Q true (r.expressionLayout expr) := by
    cases expr with
    | column c => exact tidy_columnLayout fun t ht => htexts t (List.mem_append_left _ ht)
    | sub l => exact (hsubs l (List.mem_singleton.2 rfl)).parenthesized
  cases aggregate with
  | none => exact hexpr
  | some a =>
    have hname : Plain a.sql := by cases a <;> decide
    exact hexpr.parenthesized.text_cons hname

section

variable {select : List (SelectItem Layout)} (hselect : ∀ i ∈ select, Tidy Q true (r.itemLayout i))
include hselect

theorem tidy_targetLayout {sec : Section} {t : ColumnRef} (ht : ∀ s ∈ t.texts r, Plain s) :
    Tidy Q true (r.targetLayout select sec t) := by
  match sec, t with
  | .having, .aliased name =>
    have hname : Tidy Q true [.text name] := .text (ht name (List.mem_singleton.2 rfl))
    rw [targetLayout]
    split_ifs
    · exact hname
    · cases hfind : select.find? (·.aliasName == some name) with
      | none => exact hname
      | some i => exact hselect i (List.mem_of_find?_eq_some hfind)
  | .where, t => exact tidy_columnLayout ht
  | .having, .field q field => exact tidy_columnLayout ht
  | .having, .expr sql => exact tidy_columnLayout ht

end

/-! ### Conditions -/

theorem filler_operator (op : Operator) : Filler (" " ++ op.sql ++ " ") := by
  cases op <;> decide

theorem tidy_infixedLayout {lhs rhs : Layout} {closed : Bool} (hlhs : Tidy Q true lhs)
    (op : Operator) (hrhs : Tidy Q closed rhs) : Tidy Q closed (infixedLayout lhs op rhs) :=
  hlhs.append (hrhs.text_cons (filler_operator op).1)

theorem tidy_partPiece (v : Value) : Tidy Q false [partPiece v] ∧ MayFollow [partPiece v] := by
  rw [partPiece]
  split_ifs
  · exact ⟨(Tidy.text (by decide)).opened, rfl⟩
  · exact ⟨.slot v, Layout.mayFollow_slot v []⟩

theorem tidy_patternLayout (vs : List Value) : Tidy Q false (patternLayout r w vs) := by
  have hparts : ∀ l ∈ vs.map fun v => [partPiece v], Tidy Q false l ∧ MayFollow l := by
    intro l hl
    obtain ⟨v, -, rfl⟩ := List.mem_map.1 hl
    exact tidy_partPiece v
  unfold patternLayout
  split
  · exact (tidy_partPiece _).1
  · exact (Layout.tidy_weave (w.filler_around vs.length) hparts).1

theorem tidy_valueLayout {lhs : Layout} (hlhs : Tidy Q true lhs) (op : Operator) (v : Value) :
    Tidy Q false (valueLayout r w lhs op v) := by
  rw [valueLayout]
  split_ifs
  · exact (hlhs.append (.text (by decide))).opened
  · exact (hlhs.append (.text (by decide))).opened
  · -- both sides are floats as texts
    refine tidy_infixedLayout ?_ op (Tidy.text_cons w.filler_beforeFloat.1 ?_)
    · exact (hlhs.append (.text w.filler_afterFloat.1)).text_cons w.filler_beforeFloat.1
    · exact (Tidy.slot v).follow (Tidy.text w.filler_afterFloat.1).opened
        (Layout.mayFollow_text_cons w.filler_afterFloat fun _ => Layout.mayFollow_nil)
  · exact tidy_infixedLayout hlhs op (.slot v)

theorem tidy_membershipLayout {lhs : Layout} (hlhs : Tidy Q true lhs) (op : Operator)
    (vs : List Value) : Tidy Q true (membershipLayout lhs op vs) := by
  unfold membershipLayout
  split
  · refine (Layout.tidy_dropped lhs).append (.text ?_)
    split_ifs <;> decide
  · have hslots : ∀ l ∈ vs.map fun v => [Piece.slot v], Tidy Q false l := by
      intro l hl
      obtain ⟨v, -, rfl⟩ := List.mem_map.1 hl
      exact .slot v
    exact tidy_infixedLayout hlhs op
      (Layout.tidy_join (by decide) (by decide) hslots).parenthesized

theorem tidy_rangeLayout {lhs : Layout} (hlhs : Tidy Q true lhs) (op : Operator)
    (vs : List Value) : Tidy Q true (rangeLayout lhs op vs) := by
  unfold rangeLayout
  split
  · rename_i low high
    have hhigh : Tidy Q true [.slot high, .text ")"] :=
      (Tidy.slot high).close (by decide) (by decide)
    have hlow : Tidy Q true (.slot low :: .text ") AND (" :: [.slot high, .text ")"]) :=
      (Tidy.slot low).append_text_cons (by decide) (by decide) hhigh
    exact tidy_infixedLayout hlhs op (hlow.text_cons (by decide))
  · exact hlhs

theorem tidy_conditionLayout {lhs : Layout} (hlhs : Tidy Q true lhs) {op : Operator}
    {operand : Operand Layout} (htexts : ∀ t ∈ operand.texts r op, Plain t)
    (hsubs : ∀ l ∈ operand.subs, Tidy Q false l) :
    Tidy Q false (r.conditionLayout w lhs op operand) := by
  cases operand with
  | absent =>
    have hop : Plain (" " ++ op.sql) := by cases op <;> decide
    exact (hlhs.append (.text hop)).opened
  -- the target is closed, and raw SQL may begin with a digit
  | raw sql => exact (hlhs.append (.text (htexts sql (List.mem_singleton.2 rfl)))).opened
  | sub l =>
    exact (tidy_infixedLayout hlhs op (hsubs l (List.mem_singleton.2 rfl)).parenthesized).opened
  | column c => exact (tidy_infixedLayout hlhs op (tidy_columnLayout htexts)).opened
  | list vs =>
    cases op with
    | «in» | notIn => exact (tidy_membershipLayout hlhs _ vs).opened
    | like | notLike => exact tidy_infixedLayout hlhs _ (tidy_patternLayout vs)
    | _ => exact (tidy_rangeLayout hlhs _ vs).opened
  | value v =>
    unfold conditionLayout
    dsimp only
    split
    · rename_i sql
      exact (hlhs.append (.text (htexts sql (List.mem_singleton.2 rfl)))).opened
    · exact tidy_infixedLayout hlhs _ (tidy_patternLayout _)
    · exact tidy_infixedLayout hlhs _ (tidy_patternLayout _)
    · exact tidy_valueLayout hlhs op v

section

variable {select : List (SelectItem Layout)} (hselect : ∀ i ∈ select, Tidy Q true (r.itemLayout i))
include hselect

theorem tidy_predicateLayout {sec : Section} {p : Predicate Layout}
    (htexts : ∀ t ∈ p.texts r, Plain t) (hsubs : ∀ l ∈ p.operand.subs, Tidy Q false l) :
    Tidy Q false (r.predicateLayout w select sec p) :=
  tidy_conditionLayout
    (tidy_targetLayout hselect fun t ht => htexts t (List.mem_append_left _ ht))
    (fun t ht => htexts t (List.mem_append_right _ ht)) hsubs

/-- A clause of predicates begins with its keyword, if there is one. -/
theorem tidy_conjunctionLayout {keyword : String} (hkeyword : Filler keyword)
    (hne : keyword ≠ "") {sec : Section} {ps : List (Predicate Layout)}
    (htexts : ∀ p ∈ ps, ∀ t ∈ p.texts r, Plain t)
    (hsubs : ∀ p ∈ ps, ∀ l ∈ p.operand.subs, Tidy Q false l) :
    Tidy Q false (r.conjunctionLayout w keyword select sec ps) ∧
      MayFollow (r.conjunctionLayout w keyword select sec ps) := by
  have hps : ∀ l ∈ ps.map (r.predicateLayout w select sec), Tidy Q false l := by
    intro l hl
    obtain ⟨p, hp, rfl⟩ := List.mem_map.1 hl
    exact tidy_predicateLayout hselect (htexts p hp) (hsubs p hp)
  rw [conjunctionLayout]
  split_ifs
  · exact ⟨Tidy.nil.opened, Layout.mayFollow_nil⟩
  · exact ⟨(Layout.tidy_join (by decide) (by decide) hps).text_cons hkeyword.1,
      Layout.mayFollow_text_cons hkeyword fun h => absurd h hne⟩

end

/-! ### Levels -/

theorem tidy_selectListLayout {is : List (SelectItem Layout)}
    (htexts : ∀ i ∈ is, ∀ t ∈ i.texts r, Plain t)
    (hsubs : ∀ i ∈ is, ∀ l ∈ i.subs, Tidy Q false l) : Tidy Q false (r.selectListLayout is) := by
  have his : ∀ l ∈ is.map r.selectItemLayout, Tidy Q false l := by
    intro l hl
    obtain ⟨i, hi, rfl⟩ := List.mem_map.1 hl
    have hsuffix : Plain (aliasSuffix i.aliasName) :=
      plain_aliasSuffix fun t ht => htexts i hi t (List.mem_append_right _ ht)
    exact ((tidy_itemLayout (htexts i hi) (hsubs i hi)).append (.text hsuffix)).opened
  rw [selectListLayout]
  split_ifs
  · exact (Tidy.text (by decide)).opened
  · exact Layout.tidy_join (by decide) (by decide) his

/-- A value between two texts, neither of which begins with a digit. -/
theorem tidy_between {before behind : String} (hbefore : Filler before) (hbehind : Filler behind)
    (hne : before ≠ "") (hne' : behind ≠ "") (v : Value) :
    Tidy Q true [.text before, .slot v, .text behind] ∧
      MayFollow [.text before, .slot v, .text behind] :=
  ⟨((Tidy.slot v).close hbehind hne').text_cons hbefore.1,
    Layout.mayFollow_text_cons hbefore fun h => absurd h hne⟩

/-- The page clause has blanks, commas or words around its values. -/
theorem tidy_page (d : Dialect) (limit offset : Option UInt64) (ordered : Bool) :
    Tidy Q false (d.pageLayout limit offset ordered) ∧
      MayFollow (d.pageLayout limit offset ordered) := by
  rw [Dialect.pageLayout]
  cases d.pagination with
  | offsetCount =>
    refine ⟨Tidy.text_cons (by decide) (Tidy.append_text_cons (.slot _) (by decide) (by decide)
      (.slot _)), Layout.mayFollow_text_cons (by decide) fun h => absurd h (by decide)⟩
  | countOffset =>
    refine ⟨Tidy.text_cons (by decide) (Tidy.append_text_cons (.slot _) (by decide) (by decide)
      (.slot _)), Layout.mayFollow_text_cons (by decide) fun h => absurd h (by decide)⟩
  | offsetFetch =>
    have hskip : ∀ v, Tidy Q true [.text " OFFSET ", .slot v, .text " ROWS"] ∧
        MayFollow [.text " OFFSET ", .slot v, .text " ROWS"] :=
      tidy_between (by decide) (by decide) (by decide) (by decide)
    have hfetch : ∀ v, Tidy Q true [.text " FETCH NEXT ", .slot v, .text " ROWS ONLY"] ∧
        MayFollow [.text " FETCH NEXT ", .slot v, .text " ROWS ONLY"] :=
      tidy_between (by decide) (by decide) (by decide) (by decide)
    have horder : MayFollow [.text " ORDER BY (SELECT NULL)"] :=
      Layout.mayFollow_text_cons (by decide) fun h => absurd h (by decide)
    -- the order and the count are optional
    constructor
    · refine (Tidy.append (Tidy.append ?_ (hskip _).1) ?_).opened
      · split_ifs
        · exact .nil
        · exact .text (by decide)
      · split_ifs
        · exact (hfetch _).1
        · exact .nil
    · refine Layout.mayFollow_append (Layout.mayFollow_append ?_ (hskip _).2) ?_
      · split_ifs
        · exact Layout.mayFollow_nil
        · exact horder
      · split_ifs
        · exact (hfetch _).2
        · exact Layout.mayFollow_nil

section

variable {c : Clauses Layout} (htexts : ∀ t ∈ c.texts r, Plain t)
  (hsubs : ∀ l ∈ c.subs, Tidy Q false l)
include htexts hsubs

theorem tidy_item_of_level : ∀ i ∈ c.select, Tidy Q true (r.itemLayout i) := by
  intro i hi
  obtain ⟨-, -, hselect, -⟩ := Clauses.forall_texts.1 htexts
  exact tidy_itemLayout (hselect i hi) fun l hl => hsubs l (Clauses.mem_subs_of_select hi hl)

theorem tidy_whereLayout :
    Tidy Q false (r.whereLayout w c) ∧ MayFollow (r.whereLayout w c) := by
  obtain ⟨-, -, -, -, hwheres, -⟩ := Clauses.forall_texts.1 htexts
  exact tidy_conjunctionLayout (tidy_item_of_level htexts hsubs) (by decide) (by decide) hwheres
    fun p hp l hl => hsubs l (Clauses.mem_subs_of_wheres hp hl)

theorem tidy_havingLayout :
    Tidy Q false (r.havingLayout w c) ∧ MayFollow (r.havingLayout w c) := by
  obtain ⟨-, -, -, -, -, -, hhavings, -⟩ := Clauses.forall_texts.1 htexts
  exact tidy_conjunctionLayout (tidy_item_of_level htexts hsubs) (by decide) (by decide) hhavings
    fun p hp l hl => hsubs l (Clauses.mem_subs_of_havings hp hl)

/-- The rows and groups of a level, behind ` FROM `. -/
theorem tidy_sourceLayout :
    Tidy Q false (r.sourceLayout w c) ∧ MayFollow (r.sourceLayout w c) := by
  obtain ⟨htable, hname, -, hjoins, -, hgroups, -⟩ := Clauses.forall_texts.1 htexts
  obtain ⟨hwhere, -⟩ := tidy_whereLayout (w := w) htexts hsubs
  obtain ⟨hhaving, hbegin⟩ := tidy_havingLayout (w := w) htexts hsubs
  have hfrom : Plain (textOf (r.tableText c.table c.aliasName) ++ textOf (r.joins c.joins)) :=
    (plain_textOf fun s hs => plain_tableText htable hname hs).append
      (plain_textOf fun s hs => plain_joins hjoins hs)
  have hgroup := filler_groupClause hgroups
  have htext : Plain (r.fromText c) := by
    rw [fromText, String.append_assoc]
    exact Plain.append (by decide) hfrom
  have hdigit : Placeholder.startsWithDigit (r.fromText c).toList = false := by
    rw [fromText, String.append_assoc, String.toList_append]
    exact Placeholder.startsWithDigit_toList_append (by decide) (by decide) _
  -- without groups `HAVING` follows `WHERE` directly
  have hgroups : Tidy Q false (.text (textOf (r.groupClause c.groupBy)) :: r.havingLayout w c) :=
    hhaving.text_cons hgroup.1
  constructor
  · have hfollow := Layout.mayFollow_text_cons hgroup fun _ => hbegin
    exact (hwhere.follow hgroups hfollow).text_cons htext
  · refine Layout.mayFollow_text_cons ⟨htext, hdigit⟩ fun h => ?_
    rw [fromText, String.append_assoc] at h
    exact absurd (String.append_eq_empty_iff.1 h).1 (by decide)

omit hsubs in
/-- What follows the rows and groups. -/
theorem tidy_tailLayout (w : r.dialect.Weaving) :
    Tidy Q false (r.tailLayout c) ∧ MayFollow (r.tailLayout c) := by
  obtain ⟨-, -, -, -, -, -, -, horders⟩ := Clauses.forall_texts.1 htexts
  have horder := filler_orderClause horders
  have hpage : Tidy Q false (r.pageLayout c) ∧ MayFollow (r.pageLayout c) := by
    rw [pageLayout]
    split_ifs
    · exact tidy_page _ _ _ _
    · exact ⟨Tidy.nil.opened, Layout.mayFollow_nil⟩
  -- the order, the page and the lock may each be missing
  have hlock : Filler (if c.lock then r.dialect.lock.getD "" else "") := by
    split_ifs
    · exact w.filler_lock
    · exact ⟨Placeholder.plain_empty, rfl⟩
  have hend : MayFollow [.text (if c.lock then r.dialect.lock.getD "" else "")] :=
    Layout.mayFollow_text_cons hlock fun _ => Layout.mayFollow_nil
  constructor
  · exact (hpage.1.follow (Tidy.text hlock.1).opened hend).text_cons horder.1
  · exact Layout.mayFollow_text_cons horder fun _ => Layout.mayFollow_append hpage.2 hend

/-- A level that is rendered from its clauses. -/
theorem tidy_levelLayout (hraw : c.raw = none) : Tidy Q false (r.levelLayout w c) := by
  obtain ⟨-, -, hselect, -⟩ := Clauses.forall_texts.1 htexts
  have hitems : Tidy Q false (r.selectListLayout c.select) :=
    tidy_selectListLayout hselect fun i hi l hl => hsubs l (Clauses.mem_subs_of_select hi hl)
  obtain ⟨hsource, hfrom⟩ := tidy_sourceLayout (w := w) htexts hsubs
  obtain ⟨htail, hbegin⟩ := tidy_tailLayout (Q := Q) htexts w
  have hstart : Plain (startText c) := by
    rw [startText]
    split_ifs <;> decide
  rw [levelLayout, hraw]
  exact ((hitems.follow hsource hfrom).follow htail hbegin).text_cons hstart

end

/-- The layout of a query is tidy if the texts of its rendered levels are plain. -/
theorem tidy_layout {q : Query} (h : ∀ d, q.Level d → d.PlainWith r Q) :
    Tidy Q false (r.layout w q) := by
  induction q using Query.induct with
  | level c ih =>
    have hc : c.PlainWith r Q := h c (.outermost c)
    rw [layout_of]
    cases hraw : c.raw with
    -- hand-written SQL is one piece, and the clauses beside it need not be plain
    | some raw =>
      rw [Clauses.PlainWith, hraw] at hc
      rw [levelLayout, show (c.map (r.layout w)).raw = some raw from hraw]
      exact .raw hc
    | none =>
      rw [Clauses.PlainWith, hraw] at hc
      refine tidy_levelLayout ?_ ?_ hraw
      · rw [Clauses.texts_map]
        exact hc
      · intro l hl
        rw [Clauses.subs_map] at hl
        obtain ⟨q, hq, rfl⟩ := List.mem_map.1 hl
        exact ih q hq fun d hd => h d (.inner hraw hq hd)

/-! ### Commands -/

theorem plain_assignedColumn {f : Field} (h : ∀ t ∈ r.fieldTexts f, Plain t) :
    Plain (textOf ((r.resolve f).map (·.column))) := by
  refine plain_textOf fun s hs => ?_
  obtain ⟨c, hc, rfl⟩ := Outcome.map_eq_ok.1 hs
  exact plain_fieldText h (resolve_eq_ok.1 hc)

theorem tidy_assignmentLayout {change : Assignment} (h : ∀ t ∈ change.texts r, Plain t) :
    Tidy Q false (r.assignmentLayout change) := by
  cases change with
  | set f v =>
    have hcolumn := plain_assignedColumn h
    rw [assignmentLayout]
    split_ifs
    · exact (Tidy.text (hcolumn.append (by decide))).opened
    · exact (Tidy.slot v).text_cons (hcolumn.append (by decide))
  | increase f v =>
    have hcolumn := plain_assignedColumn h
    exact (Tidy.slot v).text_cons
      (((hcolumn.append (by decide)).append hcolumn).append (by decide))
  | decrease f v =>
    have hcolumn := plain_assignedColumn h
    exact (Tidy.slot v).text_cons
      (((hcolumn.append (by decide)).append hcolumn).append (by decide))

/-- The `WHERE` clause of a write, by the query that has nothing but it. -/
theorem tidy_filteredLayout {q : Query} (h : ∀ d, q.filtered.Level d → d.PlainWith r Q) :
    Plain (textOf (r.table q.clauses.table)) ∧
      Tidy Q false (r.whereLayout w (q.clauses.map (r.layout w))) ∧
      MayFollow (r.whereLayout w (q.clauses.map (r.layout w))) := by
  have htexts : ∀ t ∈ q.filtered.clauses.texts r, Plain t := h _ (.outermost _)
  obtain ⟨htable, -⟩ := Clauses.forall_texts.1 htexts
  refine ⟨plain_textOf fun s hs => plain_table htable hs, ?_⟩
  -- the select list plays no part in `WHERE`
  refine tidy_whereLayout (c := q.filtered.clauses.map (r.layout w)) ?_ ?_
  · rw [Clauses.texts_map]
    exact htexts
  · intro l hl
    rw [Clauses.subs_map] at hl
    obtain ⟨s, hs, rfl⟩ := List.mem_map.1 hl
    exact tidy_layout fun d hd => h d (.inner rfl hs hd)

/-- The layout of a command is tidy if the texts of its rendered levels and the changed columns are
plain. -/
theorem tidy_commandLayout {cmd : Command} (hlevels : ∀ d, cmd.rows.Level d → d.PlainWith r Q)
    (hchanges : ∀ change ∈ cmd.changes, ∀ t ∈ change.texts r, Plain t) :
    Tidy Q false (r.commandLayout w cmd) := by
  cases cmd with
  | select q => exact tidy_layout hlevels
  | update q changes =>
    obtain ⟨htable, hwhere, hbegin⟩ := tidy_filteredLayout (w := w) hlevels
    -- the changes have texts of their own, which are of no level
    have hset : ∀ l ∈ changes.map r.assignmentLayout, Tidy Q false l := by
      intro l hl
      obtain ⟨change, hchange, rfl⟩ := List.mem_map.1 hl
      exact tidy_assignmentLayout (hchanges change hchange)
    have hstart : Plain ("UPDATE " ++ textOf (r.table q.clauses.table) ++ " SET ") :=
      (Plain.append (by decide) htable).append (by decide)
    exact ((Layout.tidy_join (by decide) (by decide) hset).follow hwhere hbegin).text_cons hstart
  | delete q =>
    obtain ⟨htable, hwhere, -⟩ := tidy_filteredLayout (w := w) hlevels
    exact hwhere.text_cons (Plain.append (by decide) htable)

end EntitySql.Renderer
