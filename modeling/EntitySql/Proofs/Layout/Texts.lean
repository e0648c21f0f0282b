import EntitySql.Proofs.Layout.Level
import EntitySql.Proofs.Query.Level
import EntitySql.Proofs.Statement.Name

/-!
# Texts that are written as they stand

The texts of a level that are written as they stand are the names of its tables and columns, their
aliases and prefixes, and SQL given for a column or a predicate (`Clauses.texts`).  What is rendered
from plain names alone is plain: columns, tables, joins and the lists behind `GROUP BY` and
`ORDER BY`.
-/

namespace EntitySql

variable (r : Renderer) {S : Type}

/-! ### Texts that are written as they stand -/

/-- The name of a table. -/
def Renderer.tableTexts (key : EntityKey) : List String :=
  ((r.catalog.schema? key).map (·.tableName)).toList

/-- The name of a column. -/
def Renderer.fieldTexts (f : Field) : List String :=
  ((r.catalog.resolve? f).map (·.column)).toList

/-- The texts of a column reference. -/
def ColumnRef.texts : ColumnRef → List String
  | .field qualifier f => qualifier.toList ++ r.fieldTexts f
  | .aliased name => [name]
  | .expr sql => [sql]

/-- The texts of an operand: its column, or raw SQL. -/
def Operand.texts (op : Operator) : Operand S → List String
  | .column c => c.texts r
  | .raw sql => [sql]
  | .value (.text sql) => if op = .raw then [sql] else []
  | _ => []

/-- The texts of a predicate. -/
def Predicate.texts (p : Predicate S) : List String := p.target.texts r ++ p.operand.texts r p.op

/-- The texts of a selected item. -/
def SelectItem.texts (i : SelectItem S) : List String :=
  (match i.expr with
    | .column c => c.texts r
    | .sub _ => []) ++ i.aliasName.toList

/-- The texts of a joined table. -/
def Join.texts (j : Join) : List String :=
  r.tableTexts j.table ++ j.aliasName.toList ++ j.on.flatMap fun p => p.1.texts r ++ p.2.texts r

/-- The texts of a level, those of its sub-queries apart. -/
def Clauses.texts (c : Clauses S) : List String :=
  r.tableTexts c.table ++ c.aliasName.toList ++ c.select.flatMap (·.texts r) ++
    c.joins.flatMap (·.texts r) ++ c.wheres.flatMap (·.texts r) ++
    c.groupBy.flatMap (·.texts r) ++ c.havings.flatMap (·.texts r) ++
    c.orderBy.flatMap (·.target.texts r)

variable {r} in
/-- What holds of the texts of a level holds clause by clause. -/
theorem Clauses.forall_texts {P : String → Prop} {c : Clauses S} :
    (∀ t ∈ c.texts r, P t) ↔
      (∀ t ∈ r.tableTexts c.table, P t) ∧ (∀ t ∈ c.aliasName.toList, P t) ∧
      (∀ i ∈ c.select, ∀ t ∈ i.texts r, P t) ∧ (∀ j ∈ c.joins, ∀ t ∈ j.texts r, P t) ∧
      (∀ p ∈ c.wheres, ∀ t ∈ p.texts r, P t) ∧ (∀ g ∈ c.groupBy, ∀ t ∈ g.texts r, P t) ∧
      (∀ p ∈ c.havings, ∀ t ∈ p.texts r, P t) ∧
      ∀ o ∈ c.orderBy, ∀ t ∈ o.target.texts r, P t := by
  simp only [Clauses.texts, List.forall_mem_append, List.forall_mem_flatMap, and_assoc]

/-- A level of plain texts, or overriding SQL of a given kind. -/
def Clauses.PlainWith (Q : RawSql → Prop) (c : Clauses S) : Prop :=
  match c.raw with
  | some raw => Q raw
  | none => ∀ t ∈ c.texts r, Placeholder.Plain t

/-- A level of plain texts, or overriding SQL with a parameter for each placeholder. -/
abbrev Clauses.Plain (c : Clauses S) : Prop := c.PlainWith r RawSql.Plain

/-- Overriding SQL of two kinds at once. -/
theorem Clauses.PlainWith.and {Q Q' : RawSql → Prop} {c : Clauses S} (h : c.PlainWith r Q)
    (h' : ∀ raw ∈ c.raw, Q' raw) : c.PlainWith r fun sql => Q sql ∧ Q' sql := by
  unfold Clauses.PlainWith at h ⊢
  cases hraw : c.raw with
  | none =>
    rw [hraw] at h
    exact h
  | some raw =>
    rw [hraw] at h
    exact ⟨h, h' raw hraw⟩

/-- The column that a change writes to. -/
def Assignment.texts : Assignment → List String
  | .set f _ | .increase f _ | .decrease f _ => r.fieldTexts f

/-! ### Replaced sub-queries -/

section

variable {T : Type} (f : S → T)

theorem Predicate.texts_map (p : Predicate S) : (p.map f).texts r = p.texts r := by
  obtain ⟨target, op, operand⟩ := p
  cases operand with
  | value v => cases v <;> rfl
  | _ => rfl

theorem SelectItem.texts_map (i : SelectItem S) : (i.map f).texts r = i.texts r := by
  obtain ⟨expr, aggregate, aliasName⟩ := i
  cases expr <;> rfl

/-- The texts of a level are its own. -/
theorem Clauses.texts_map (c : Clauses S) : (c.map f).texts r = c.texts r := by
  simp only [Clauses.texts, Clauses.map, List.flatMap_map, Predicate.texts_map,
    SelectItem.texts_map]

end

/-! ### Plain texts put together -/

namespace Placeholder

theorem plain_intercalate {sep : String} (hsep : Plain sep) {ss : List String}
    (h : ∀ s ∈ ss, Plain s) : Plain (sep.intercalate ss) := by
  induction ss with
  | nil =>
    rw [String.intercalate_nil]
    exact plain_empty
  | cons s ss ih =>
    have hs : Plain s := h s List.mem_cons_self
    have hss := ih fun t ht => h t (List.mem_cons_of_mem s ht)
    cases ss with
    | nil =>
      rw [String.intercalate_singleton]
      exact hs
    | cons t ss =>
      rw [String.intercalate_cons_cons]
      exact (hs.append hsep).append hss

theorem plain_stringJoin {ss : List String} (h : ∀ s ∈ ss, Plain s) : Plain (String.join ss) := by
  induction ss with
  | nil =>
    rw [String.join_nil]
    exact plain_empty
  | cons s ss ih =>
    rw [String.join_cons]
    exact (h s List.mem_cons_self).append (ih fun t ht => h t (List.mem_cons_of_mem s ht))

end Placeholder

namespace Renderer

open Placeholder (Plain plain_empty plain_of_ordinary)

variable {r}

theorem plain_textOf {x : Outcome String} (h : ∀ s, x = .ok s → Plain s) : Plain (textOf x) := by
  cases x with
  | ok s => exact h s rfl
  | error e => exact plain_empty

/-- Each result of a list is plain if the result of each element is. -/
theorem plain_of_mapM {α : Type} {f : α → Outcome String} {xs : List α} {ss : List String}
    (h : xs.mapM f = .ok ss) (hf : ∀ x ∈ xs, ∀ s, f x = .ok s → Plain s) : ∀ s ∈ ss, Plain s := by
  have hall := Outcome.mapM_eq_ok.1 h
  clear h
  induction hall with
  | nil => exact List.forall_mem_nil _
  | @cons x y xs ys hy _ ih =>
    intro s hs
    rcases List.mem_cons.1 hs with rfl | hs
    · exact hf x List.mem_cons_self _ hy
    · exact ih (fun x' hx' => hf x' (List.mem_cons_of_mem x hx')) s hs

theorem plain_aliasSuffix {aliasName : Option String} (h : ∀ t ∈ aliasName.toList, Plain t) :
    Plain (aliasSuffix aliasName) := by
  cases aliasName with
  | none => exact plain_empty
  | some name =>
    exact (plain_of_ordinary (s := " AS ") (by decide)).append (h name (List.mem_singleton.2 rfl))

/-- A list of columns begins with its keyword, if it has any. -/
theorem filler_columnList {keyword : String} (hkeyword : Filler keyword) (hne : keyword ≠ "")
    {ss : List String} (h : ∀ s ∈ ss, Plain s) : Filler (columnList keyword ss) := by
  rw [columnList]
  split_ifs
  · exact ⟨plain_empty, rfl⟩
  · have hss : Plain (", ".intercalate ss) :=
      Placeholder.plain_intercalate (plain_of_ordinary (by decide)) h
    refine ⟨hkeyword.1.append hss, ?_⟩
    rw [String.toList_append]
    exact Placeholder.startsWithDigit_toList_append hkeyword.2 hne _

theorem filler_textOf {x : Outcome String} (h : ∀ s, x = .ok s → Filler s) : Filler (textOf x) := by
  cases x with
  | ok s => exact h s rfl
  | error e => exact ⟨plain_empty, rfl⟩

theorem plain_fieldText {f : Field} (h : ∀ t ∈ r.fieldTexts f, Plain t) {c : ResolvedColumn}
    (hc : r.catalog.resolve? f = some c) : Plain c.column :=
  h c.column (by rw [fieldTexts, hc]; exact List.mem_singleton.2 rfl)

theorem plain_table {key : EntityKey} (h : ∀ t ∈ r.tableTexts key, Plain t) {t : String}
    (ht : r.table key = .ok t) : Plain t := by
  obtain ⟨s, hs, rfl⟩ := table_eq_ok.1 ht
  exact h s.tableName (by rw [tableTexts, hs]; exact List.mem_singleton.2 rfl)

theorem plain_tableText {key : EntityKey} {aliasName : Option String}
    (hkey : ∀ t ∈ r.tableTexts key, Plain t) (hname : ∀ t ∈ aliasName.toList, Plain t) {s : String}
    (hs : r.tableText key aliasName = .ok s) : Plain s := by
  obtain ⟨t, ht, rfl⟩ := tableText_eq_ok.1 hs
  exact (plain_table hkey ht).append (plain_aliasSuffix hname)

theorem plain_column {c : ColumnRef} (h : ∀ t ∈ c.texts r, Plain t) {s : String}
    (hs : r.column c = .ok s) : Plain s := by
  cases c with
  | field qualifier f =>
    obtain ⟨d, hd, rfl⟩ := column_field_eq_ok.1 hs
    have hcolumn : Plain d.column :=
      plain_fieldText (fun t ht => h t (List.mem_append_right _ ht)) hd
    cases qualifier with
    | none => exact hcolumn
    | some q =>
      have hq : Plain q := h q List.mem_cons_self
      exact (hq.append (plain_of_ordinary (by decide))).append hcolumn
  | aliased name =>
    obtain rfl := Except.ok.inj hs
    exact h name List.mem_cons_self
  | expr sql =>
    obtain rfl := Except.ok.inj hs
    exact h sql List.mem_cons_self

theorem plain_join {j : Join} (h : ∀ t ∈ j.texts r, Plain t) {s : String} (hs : r.join j = .ok s) :
    Plain s := by
  simp only [Join.texts, List.mem_append, List.mem_flatMap] at h
  obtain ⟨-, table, htable, pairs, hpairs, rfl⟩ := join_eq_ok.1 hs
  have htext : Plain table := plain_tableText (fun t ht => h t (Or.inl (Or.inl ht)))
    (fun t ht => h t (Or.inl (Or.inr ht))) htable
  have hon : ∀ pair ∈ pairs, Plain pair := plain_of_mapM hpairs fun p hp s hs => by
    obtain ⟨left, hleft, right, hright, rfl⟩ := columnPair_eq_ok.1 hs
    have hl : Plain left := plain_column (fun t ht => h t (Or.inr ⟨p, hp, Or.inl ht⟩)) hleft
    have hr : Plain right := plain_column (fun t ht => h t (Or.inr ⟨p, hp, Or.inr ht⟩)) hright
    exact (hl.append (plain_of_ordinary (by decide))).append hr
  -- the kind of join, the table, and the pairs of columns are plain one by one
  have hkind : Plain (" " ++ j.kind.sql ++ " ") := by cases j.kind <;> decide
  exact ((hkind.append htext).append (plain_of_ordinary (by decide))).append
    (Placeholder.plain_intercalate (plain_of_ordinary (by decide)) hon)

theorem plain_joins {js : List Join} (h : ∀ j ∈ js, ∀ t ∈ j.texts r, Plain t) {s : String}
    (hs : r.joins js = .ok s) : Plain s := by
  obtain ⟨texts, htexts, rfl⟩ := joins_eq_ok.1 hs
  exact Placeholder.plain_stringJoin (plain_of_mapM htexts fun j hj s hs => plain_join (h j hj) hs)

theorem filler_groupClause {columns : List ColumnRef}
    (h : ∀ c ∈ columns, ∀ t ∈ c.texts r, Plain t) :
    Filler (textOf (r.groupClause columns)) := by
  refine filler_textOf fun s hs => ?_
  obtain ⟨texts, htexts, rfl⟩ := groupClause_eq_ok.1 hs
  exact filler_columnList (by decide) (by decide)
    (plain_of_mapM htexts fun c hc s hs => plain_column (h c hc) hs)

theorem filler_orderClause {items : List OrderItem}
    (h : ∀ o ∈ items, ∀ t ∈ o.target.texts r, Plain t) :
    Filler (textOf (r.orderClause items)) := by
  refine filler_textOf fun s hs => ?_
  obtain ⟨texts, htexts, rfl⟩ := orderClause_eq_ok.1 hs
  refine filler_columnList (by decide) (by decide) (plain_of_mapM htexts fun o ho s hs => ?_)
  obtain ⟨t, ht, rfl⟩ := orderItem_eq_ok.1 hs
  have hdirection : Plain (" " ++ o.direction.sql) := by cases o.direction <;> decide
  rw [String.append_assoc]
  exact (plain_column (h o ho) ht).append hdirection

end Renderer

end EntitySql
