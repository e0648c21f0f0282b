import EntitySql.Proofs.Query.Level
import EntitySql.Proofs.Statement.Command

/-!
# Alike queries

Two queries are alike if they have the same structure and their values, place by place, are in a
relation `R` (`Query.Alike`).  The value behind a raw operator is text and not a value to be bound,
so it has to be the same.  Rows and changes are alike in the same way.

The relation on one level is for any relation on the sub-queries, and it is kept when the
sub-queries are replaced by what is computed from them (`Clauses.Alike.map`).
-/

namespace EntitySql

variable {R : Value → Value → Prop} {S S' T T' : Type}

/-! ### Parts of a level -/

/-- Operands of one kind with values in a relation and sub-queries in another one. -/
inductive Operand.Alike (R : Value → Value → Prop) (E : S → S' → Prop) :
    Operand S → Operand S' → Prop
  | absent : Alike R E .absent .absent
  | value {v w : Value} (h : R v w) : Alike R E (.value v) (.value w)
  | list {vs ws : List Value} (h : List.Forall₂ R vs ws) : Alike R E (.list vs) (.list ws)
  | sub {s : S} {s' : S'} (h : E s s') : Alike R E (.sub s) (.sub s')
  | column (c : ColumnRef) : Alike R E (.column c) (.column c)
  | raw (sql : String) : Alike R E (.raw sql) (.raw sql)

/-- The relation that the values of a predicate are in: behind a raw operator they are the same. -/
def Operator.relation (op : Operator) (R : Value → Value → Prop) : Value → Value → Prop :=
  if op = .raw then Eq else R

/-- The same test of the same target. -/
structure Predicate.Alike (R : Value → Value → Prop) (E : S → S' → Prop) (p : Predicate S)
    (p' : Predicate S') : Prop where
  target : p.target = p'.target
  op : p.op = p'.op
  operand : p.operand.Alike (p.op.relation R) E p'.operand

/-- Selected expressions of one kind. -/
inductive SelectExpr.Alike (E : S → S' → Prop) : SelectExpr S → SelectExpr S' → Prop
  | column (c : ColumnRef) : Alike E (.column c) (.column c)
  | sub {s : S} {s' : S'} (h : E s s') : Alike E (.sub s) (.sub s')

/-- The same function of selected expressions of one kind. -/
structure SelectItem.Alike (E : S → S' → Prop) (i : SelectItem S) (i' : SelectItem S') : Prop where
  expr : i.expr.Alike E i'.expr
  aggregate : i.aggregate = i'.aggregate
  aliasName : i.aliasName = i'.aliasName

/-- The same text with parameters in a relation. -/
structure RawSql.Alike (R : Value → Value → Prop) (a b : RawSql) : Prop where
  sql : a.sql = b.sql
  params : List.Forall₂ R a.params b.params

/-- Levels of the same structure. -/
@[mk_iff]
structure Clauses.Alike (R : Value → Value → Prop) (E : S → S' → Prop) (c : Clauses S)
    (c' : Clauses S') : Prop where
  table : c.table = c'.table
  aliasName : c.aliasName = c'.aliasName
  distinct : c.distinct = c'.distinct
  select : List.Forall₂ (SelectItem.Alike E) c.select c'.select
  joins : c.joins = c'.joins
  wheres : List.Forall₂ (Predicate.Alike R E) c.wheres c'.wheres
  groupBy : c.groupBy = c'.groupBy
  havings : List.Forall₂ (Predicate.Alike R E) c.havings c'.havings
  orderBy : c.orderBy = c'.orderBy
  limit : c.limit = c'.limit
  offset : c.offset = c'.offset
  lock : c.lock = c'.lock
  raw : Option.Rel (RawSql.Alike R) c.raw c'.raw

/-! ### Replaced sub-queries -/

section

variable {E : S → S' → Prop} {E' : T → T' → Prop} {f : S → T} {g : S' → T'}

theorem Predicate.Alike.map {p : Predicate S} {p' : Predicate S'} (h : p.Alike R E p')
    (hE : ∀ s ∈ p.operand.subs, ∀ s', E s s' → E' (f s) (g s')) :
    (p.map f).Alike R E' (p'.map g) := by
  obtain ⟨target, op, operand⟩ := p
  obtain ⟨target', op', operand'⟩ := p'
  obtain ⟨htarget, hop, hoperand⟩ := h
  refine ⟨htarget, hop, ?_⟩
  cases hoperand with
  | absent => exact .absent
  | value h => exact .value h
  | list h => exact .list h
  | sub h => exact .sub (hE _ (List.mem_singleton.2 rfl) _ h)
  | column c => exact .column c
  | raw sql => exact .raw sql

theorem SelectItem.Alike.map {i : SelectItem S} {i' : SelectItem S'} (h : i.Alike E i')
    (hE : ∀ s ∈ i.subs, ∀ s', E s s' → E' (f s) (g s')) : (i.map f).Alike E' (i'.map g) := by
  obtain ⟨expr, aggregate, aliasName⟩ := i
  obtain ⟨expr', aggregate', aliasName'⟩ := i'
  obtain ⟨hexpr, haggregate, hname⟩ := h
  refine ⟨?_, haggregate, hname⟩
  cases hexpr with
  | column c => exact .column c
  | sub h => exact .sub (hE _ (List.mem_singleton.2 rfl) _ h)

/-- Lists are related after a change of their elements that only has to be looked at for elements of
the first one. -/
theorem forall₂_map_of_mem {α β γ δ : Type} {P : α → β → Prop} {P' : γ → δ → Prop} {f : α → γ}
    {g : β → δ} {xs : List α} {ys : List β} (h : List.Forall₂ P xs ys)
    (hf : ∀ x ∈ xs, ∀ y, P x y → P' (f x) (g y)) : List.Forall₂ P' (xs.map f) (ys.map g) := by
  induction h with
  | nil => exact .nil
  | @cons x y xs ys hxy _ ih =>
    exact .cons (hf x List.mem_cons_self y hxy)
      (ih fun x' hx' => hf x' (List.mem_cons_of_mem x hx'))

/-- What is computed from alike sub-queries makes alike levels. -/
theorem Clauses.Alike.map {c : Clauses S} {c' : Clauses S'} (h : c.Alike R E c')
    (hE : ∀ s ∈ c.subs, ∀ s', E s s' → E' (f s) (g s')) : (c.map f).Alike R E' (c'.map g) where
  table := h.table
  aliasName := h.aliasName
  distinct := h.distinct
  select := forall₂_map_of_mem h.select fun _ hi _ halike =>
    halike.map fun s hs => hE s (mem_subs_of_select hi hs)
  joins := h.joins
  wheres := forall₂_map_of_mem h.wheres fun _ hp _ halike =>
    halike.map fun s hs => hE s (mem_subs_of_wheres hp hs)
  groupBy := h.groupBy
  havings := forall₂_map_of_mem h.havings fun _ hp _ halike =>
    halike.map fun s hs => hE s (mem_subs_of_havings hp hs)
  orderBy := h.orderBy
  limit := h.limit
  offset := h.offset
  lock := h.lock
  raw := h.raw

end

section

variable {E : T → S' → Prop} {f : S → T}

theorem Predicate.alike_map_left {p : Predicate S} {p' : Predicate S'} :
    (p.map f).Alike R E p' ↔ p.Alike R (fun s => E (f s)) p' := by
  obtain ⟨target, op, operand⟩ := p
  obtain ⟨target', op', operand'⟩ := p'
  constructor
  · rintro ⟨htarget, hop, hoperand⟩
    refine ⟨htarget, hop, ?_⟩
    cases operand <;> cases hoperand <;> constructor <;> assumption
  · rintro ⟨htarget, hop, hoperand⟩
    refine ⟨htarget, hop, ?_⟩
    cases hoperand <;> constructor <;> assumption

theorem SelectItem.alike_map_left {i : SelectItem S} {i' : SelectItem S'} :
    (i.map f).Alike E i' ↔ i.Alike (fun s => E (f s)) i' := by
  obtain ⟨expr, aggregate, aliasName⟩ := i
  obtain ⟨expr', aggregate', aliasName'⟩ := i'
  -- only a sub-query is changed, and what it is related to is what it is changed to
  constructor
  · rintro ⟨hexpr, haggregate, hname⟩
    refine ⟨?_, haggregate, hname⟩
    cases expr with
    | column c =>
      cases hexpr
      exact .column c
    | sub s =>
      cases hexpr with
      | sub h => exact .sub h
  · rintro ⟨hexpr, haggregate, hname⟩
    refine ⟨?_, haggregate, hname⟩
    cases hexpr with
    | column c => exact .column c
    | sub h => exact .sub h

theorem Clauses.alike_map_left {c : Clauses S} {c' : Clauses S'} :
    (c.map f).Alike R E c' ↔ c.Alike R (fun s => E (f s)) c' := by
  simp only [Clauses.alike_iff, Clauses.map, List.forall₂_map_left_iff,
    Predicate.alike_map_left, SelectItem.alike_map_left]

end

/-! ### Queries and what is written -/

/-- Queries of the same structure, with values in a relation. -/
def Query.Alike (R : Value → Value → Prop) : Query → Query → Prop :=
  Query.fold fun c q' => c.Alike R (fun alike s' => alike s') q'.clauses

/-- Two queries are alike iff their outermost levels are, with alike sub-queries. -/
theorem Query.alike_of {c c' : Clauses Query} :
    (Query.of c).Alike R (.of c') ↔ c.Alike R (Query.Alike R) c' := by
  rw [Query.Alike, Query.fold_of]
  exact Clauses.alike_map_left

theorem Query.Alike.table {q q' : Query} (h : q.Alike R q') :
    q.clauses.table = q'.clauses.table := by
  obtain ⟨c⟩ := q
  obtain ⟨c'⟩ := q'
  exact (Query.alike_of.1 h).table

/-- Changes of the same column in the same way. -/
inductive Assignment.Alike (R : Value → Value → Prop) : Assignment → Assignment → Prop
  | set (f : Field) {v w : Value} (h : R v w) : Alike R (.set f v) (.set f w)
  | increase (f : Field) {v w : Value} (h : R v w) : Alike R (.increase f v) (.increase f w)
  | decrease (f : Field) {v w : Value} (h : R v w) : Alike R (.decrease f v) (.decrease f w)

/-- Commands of one kind. -/
inductive Command.Alike (R : Value → Value → Prop) : Command → Command → Prop
  | select {q q' : Query} (h : q.Alike R q') : Alike R (.select q) (.select q')
  | update {q q' : Query} (h : q.Alike R q') {changes changes' : List Assignment}
      (hchanges : List.Forall₂ (Assignment.Alike R) changes changes') :
      Alike R (.update q changes) (.update q' changes')
  | delete {q q' : Query} (h : q.Alike R q') : Alike R (.delete q) (.delete q')

/-- Rows that set the same fields. -/
abbrev InsertRow.Alike (R : Value → Value → Prop) : InsertRow → InsertRow → Prop :=
  List.Forall₂ fun a b => a.1 = b.1 ∧ Option.Rel R a.2 b.2

end EntitySql
