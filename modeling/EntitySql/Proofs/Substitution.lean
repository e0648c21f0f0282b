import EntitySql.Proofs.Query.Level
import EntitySql.Proofs.Statement.Command

/-!
# Sub-queries and their compiled text

A context is a query with holes for sub-queries, at any depth (`Query.IsContext`).  A context only
sees what a sub-query is rendered as (`Renderer.query_congr`).

In a dialect that does not number its placeholders, a query is rendered as its own statement.  So it
may be replaced, wherever it stands as a sub-query, by raw SQL with the text and the parameters of
that statement (`Renderer.subquery_replaceable`).
-/

namespace EntitySql

/-! ### Contexts -/

/-- A query with holes, as a function of what they are filled with. -/
inductive Query.IsContext : (Query → Query) → Prop
  | hole : IsContext fun q => q
  | of {c : Clauses (Query → Query)} (h : ∀ f ∈ c.subs, IsContext f) :
      IsContext fun q => .of (c.map fun f => f q)

theorem Operand.map_self {S : Type} (o : Operand S) : (o.map fun s => s) = o := by
  cases o <;> rfl

theorem Clauses.map_self {S : Type} (c : Clauses S) : (c.map fun s => s) = c := by
  have hitem : (SelectItem.map fun s : S => s) = id := by
    funext ⟨expr, aggregate, aliasName⟩
    cases expr <;> rfl
  have hpredicate : (Predicate.map fun s : S => s) = id := by
    funext ⟨target, op, operand⟩
    rw [Predicate.map, Operand.map_self]
    rfl
  rw [Clauses.map, hitem, hpredicate, List.map_id, List.map_id, List.map_id]

/-- A query without holes is a context. -/
theorem Query.isContext_const (q : Query) : IsContext fun _ => q := by
  induction q using Query.induct with
  | level c ih =>
    have hc : (fun _ => Query.of c) =
        fun q => Query.of ((c.map fun s (_ : Query) => s).map fun f => f q) := by
      funext q
      rw [Clauses.map_map, Clauses.map_self]
    rw [hc]
    refine .of fun f hf => ?_
    rw [Clauses.subs_map] at hf
    obtain ⟨s, hs, rfl⟩ := List.mem_map.1 hf
    exact ih s hs

namespace Renderer

variable {r : Renderer}

section

variable {q q' : Query} (h : r.query q = r.query q')
include h

/-- Sub-queries that are rendered alike may be replaced by one another. -/
theorem query_congr {C : Query → Query} (hC : Query.IsContext C) :
    r.query (C q) = r.query (C q') := by
  induction hC with
  | hole => exact h
  | @of c _ ih =>
    -- the levels have the same clauses, and alike sub-queries
    rw [query_of, query_of, Clauses.map_map, Clauses.map_map]
    exact congrArg r.level (c.map_congr ih)

variable {c : Clauses (Query → Query)} (hc : ∀ f ∈ c.subs, Query.IsContext f)
include hc

/-- The outermost level is the same with its sub-queries rendered. -/
theorem opened_congr :
    r.opened (.of (c.map fun f => f q)) = r.opened (.of (c.map fun f => f q')) := by
  show (c.map fun f => f q).map r.query = (c.map fun f => f q').map r.query
  rw [Clauses.map_map, Clauses.map_map]
  exact c.map_congr fun f hf => query_congr h (hc f hf)

theorem select_congr :
    r.select (.of (c.map fun f => f q)) = r.select (.of (c.map fun f => f q')) := by
  have hquery := query_congr h (.of hc)
  have hraw : ∀ s, (Query.of (c.map fun f => f s)).clauses.raw = c.raw := fun _ => rfl
  rw [select, select, hraw, hraw]
  cases c.raw with
  -- raw SQL is sent as it is, without regard to what is below it
  | some raw => rfl
  | none => exact congrArg (Except.map r.finish) hquery

theorem update_congr (changes : List Assignment) :
    r.update (.of (c.map fun f => f q)) changes = r.update (.of (c.map fun f => f q')) changes := by
  rw [update, updateFragment, opened_congr h hc]
  rfl

theorem delete_congr :
    r.delete (.of (c.map fun f => f q)) = r.delete (.of (c.map fun f => f q')) := by
  rw [delete, deleteFragment, opened_congr h hc]
  rfl

end

/-- Without numbers a query is rendered as its statement. -/
theorem query_eq_of_select (hnumbered : r.dialect.numbered = false) {q : Query} {st : Statement}
    (h : r.select q = .ok st) : r.query q = .ok ⟨st.sql, st.params⟩ := by
  obtain ⟨c⟩ := q
  rw [select] at h
  cases hraw : c.raw with
  | some raw =>
    rw [show (Query.of c).clauses.raw = some raw from hraw] at h
    obtain rfl := Except.ok.inj h
    rw [query_of, level, show (c.map r.query).raw = some raw from hraw]
  | none =>
    rw [show (Query.of c).clauses.raw = none from hraw] at h
    obtain ⟨f, hf, rfl⟩ := Outcome.map_eq_ok.1 h
    -- the text is finished by numbering it, which does nothing here
    have hnumber : r.dialect.number f.text = f.text := by
      rw [Dialect.number, hnumbered]
      rfl
    rw [finish, hnumber]
    exact hf

/-- A raw query is rendered as it is written. -/
theorem query_eq_of_raw {q : Query} {raw : RawSql} (h : q.clauses.raw = some raw) :
    r.query q = .ok ⟨raw.sql, raw.params⟩ := by
  obtain ⟨c⟩ := q
  rw [query_of, level, show (c.map r.query).raw = some raw from h]

/-- **Substitution**: in a dialect without numbered placeholders, a sub-query may be replaced by raw
SQL with its own statement, in every context and for every command. -/
theorem subquery_replaceable (hnumbered : r.dialect.numbered = false) {q ρ : Query}
    {st : Statement} (h : r.select q = .ok st) (hρ : ρ.clauses.raw = some ⟨st.sql, st.params⟩)
    {c : Clauses (Query → Query)} (hc : ∀ f ∈ c.subs, Query.IsContext f)
    (changes : List Assignment) :
    r.select (.of (c.map fun f => f q)) = r.select (.of (c.map fun f => f ρ)) ∧
      r.update (.of (c.map fun f => f q)) changes = r.update (.of (c.map fun f => f ρ)) changes ∧
      r.delete (.of (c.map fun f => f q)) = r.delete (.of (c.map fun f => f ρ)) := by
  have hquery : r.query q = r.query ρ :=
    (query_eq_of_select hnumbered h).trans (query_eq_of_raw hρ).symm
  exact ⟨select_congr hquery hc, update_congr hquery hc changes, delete_congr hquery hc⟩

/-- The large amounts by their compiled text. -/
def compiledAmounts : Query :=
  .of { table := "Order", raw := some ⟨"SELECT amount FROM orders WHERE amount > ?", [.int 5]⟩ }

/-- A context with a hole in the select list and another sub-query in `WHERE`; `HAVING` expands the
selected one once more. -/
def totalContext : Clauses (Query → Query) where
  table := "Order"
  select := [⟨.sub fun q => q, none, some "total"⟩]
  wheres := [⟨amount, .in, .sub fun _ => amountsAbove (.int 3)⟩]
  havings := [⟨.aliased "total", .gt, .value (.int 7)⟩]

theorem isContext_of_totalContext : ∀ f ∈ totalContext.subs, Query.IsContext f := by
  intro f hf
  rcases List.mem_cons.1 hf with rfl | hf
  · exact .hole
  · obtain rfl := List.mem_singleton.1 hf
    exact Query.isContext_const _

theorem subquery_replaceable_total :
    (Renderer.mk orders .mssql).select
        (.of (totalContext.map fun f => f (amountsAbove (.int 5)))) =
      (Renderer.mk orders .mssql).select (.of (totalContext.map fun f => f compiledAmounts)) := by
  have hselect : (Renderer.mk orders .mssql).select (amountsAbove (.int 5)) =
      .ok ⟨"SELECT amount FROM orders WHERE amount > ?", [.int 5]⟩ := rfl
  have hraw : compiledAmounts.clauses.raw =
      some ⟨"SELECT amount FROM orders WHERE amount > ?", [.int 5]⟩ := rfl
  exact (subquery_replaceable rfl hselect hraw isContext_of_totalContext []).1

end Renderer

end EntitySql
