import EntitySql.Proofs.Statement.Outcome
import EntitySql.Statement.Write

/-!
# Commands

A `Command` is a statement about the rows of a query: it selects, changes or deletes them.  Its
`draft` is the fragment that is rendered, and its `statement` the draft with numbered placeholders
(`Renderer.statement_eq`), except for a query that is raw at the outermost level.

A write has only the table and the `WHERE` clause of its query.  `Command.rows` is the query whose
levels are rendered.  An insert is no command: it has rows, and no query
(`Renderer.insertFragment_of_ne_nil`).
-/

namespace EntitySql

/-- Nothing but the table and the `WHERE` clause of a query. -/
def Query.filtered (q : Query) : Query :=
  .of { table := q.clauses.table, wheres := q.clauses.wheres }

/-- A statement about the rows of a query. -/
inductive Command where
  | select (q : Query)
  | update (q : Query) (changes : List Assignment)
  | delete (q : Query)

namespace Command

/-- The query whose levels are rendered. -/
def rows : Command → Query
  | .select q => q
  | .update q _ | .delete q => q.filtered

/-- The changes that a command makes. -/
def changes : Command → List Assignment
  | .update _ changes => changes
  | .select _ | .delete _ => []

end Command

namespace Renderer

variable (r : Renderer)

/-- The text of a command, with its placeholders still unnumbered. -/
def draft : Command → Rendered
  | .select q => r.query q
  | .update q changes => r.updateFragment q changes
  | .delete q => r.deleteFragment q

/-- The statement of a command. -/
def statement : Command → Outcome Statement
  | .select q => r.select q
  | .update q changes => r.update q changes
  | .delete q => r.delete q

theorem statement_eq {cmd : Command} (h : cmd.rows.clauses.raw = none) :
    r.statement cmd = (r.draft cmd).map r.finish := by
  cases cmd with
  | select q =>
    show r.select q = _
    rw [select, show q.clauses.raw = none from h]
    rfl
  | update q changes => rfl
  | delete q => rfl

variable {r} in
/-- The statement of a command about rows that no raw SQL selects is its finished draft. -/
theorem exists_draft_of_statement {cmd : Command} (hraw : cmd.rows.clauses.raw = none)
    {st : Statement} (h : r.statement cmd = .ok st) :
    ∃ f, r.draft cmd = .ok f ∧ r.finish f = st := by
  rw [statement_eq r hraw] at h
  exact Outcome.map_eq_ok.1 h

variable {r} in
/-- The statement of a query that is not raw is its finished fragment. -/
theorem select_eq_ok {q : Query} (hraw : q.clauses.raw = none) {st : Statement} :
    r.select q = .ok st ↔ ∃ f, r.query q = .ok f ∧ r.finish f = st := by
  have hselect : r.select q = (r.query q).map r.finish :=
    r.statement_eq (show (Command.select q).rows.clauses.raw = none from hraw)
  rw [hselect, Outcome.map_eq_ok]

theorem query_of (c : Clauses Query) : r.query (.of c) = r.level (c.map r.query) :=
  Query.fold_of _ c

/-- A level without raw override is rendered from its clauses. -/
theorem query_eq_selectLevel {c : Clauses Query} (hraw : c.raw = none) :
    r.query (.of c) = r.selectLevel (c.map r.query) := by
  rw [query_of, level, show (c.map r.query).raw = none from hraw]

/-- The conditions of `WHERE` do not depend on the rest of a level. -/
theorem whereClause_filtered (q : Query) :
    r.whereClause (r.opened q) = r.whereClause (r.opened q.filtered) := by
  obtain ⟨c⟩ := q
  rfl

/-- The text of an update that is rendered. -/
theorem updateFragment_eq_ok {q : Query} {changes : List Assignment} {f : Fragment} :
    r.updateFragment q changes = .ok f ↔ changes ≠ [] ∧
      ∃ table, r.table q.clauses.table = .ok table ∧
      ∃ set, changes.mapM r.assignment = .ok set ∧
      ∃ filter, r.whereClause (r.opened q) = .ok filter ∧
      (⟨"UPDATE " ++ table ++ " SET ", []⟩ : Fragment) ++ Fragment.join ", " set ++ filter = f := by
  cases changes with
  | nil =>
    refine ⟨fun h => ?_, fun h => absurd rfl h.1⟩
    cases h
  | cons change changes =>
    simp only [ne_eq, List.cons_ne_nil, not_false_eq_true, true_and]
    show (r.table q.clauses.table >>= fun table => (change :: changes).mapM r.assignment >>=
      fun set => r.whereClause (r.opened q) >>= fun filter => pure _) = .ok f ↔ _
    simp only [Outcome.bind_eq_ok, Outcome.pure_eq_ok]

/-- The text of a delete that is rendered. -/
theorem deleteFragment_eq_ok {q : Query} {f : Fragment} :
    r.deleteFragment q = .ok f ↔
      ∃ table, r.table q.clauses.table = .ok table ∧
      ∃ filter, r.whereClause (r.opened q) = .ok filter ∧
      (⟨"DELETE FROM " ++ table, []⟩ : Fragment) ++ filter = f := by
  show (r.table q.clauses.table >>= fun table => r.whereClause (r.opened q) >>=
    fun filter => pure _) = .ok f ↔ _
  simp only [Outcome.bind_eq_ok, Outcome.pure_eq_ok]

/-- What is rendered of rows. -/
theorem insertFragment_of_ne_nil (key : EntityKey) {rows : List InsertRow}
    (hrows : rows ≠ []) (returningId : Bool) :
    r.insertFragment key rows returningId = r.schema key >>= fun s =>
      if (writtenFields s rows).isEmpty then .error .nothingToWrite
      else (writtenFields s rows).mapM (fun f => (r.resolve ⟨key, f⟩).map (·.column)) >>=
        fun columns => r.table key >>= fun table =>
        (if returningId then r.identifierClause s else pure "") >>= fun identifier =>
        pure ((⟨"INSERT INTO " ++ table ++ " (" ++ ", ".intercalate columns ++ ") VALUES ", []⟩ :
          Fragment) ++ Fragment.join ", " (rows.map (tuple (writtenFields s rows))) ++
          ⟨identifier, []⟩) := by
  obtain ⟨row, rows, rfl⟩ := List.exists_cons_of_ne_nil hrows
  cases returningId <;> rfl

/-- The text of a level that is rendered from its clauses. -/
theorem selectLevel_eq_ok {c : Clauses Rendered} {f : Fragment} :
    r.selectLevel c = .ok f ↔
      ∃ items, r.selectList c.select = .ok items ∧
      ∃ rows, r.source c = .ok rows ∧
      ∃ order, r.orderClause c.orderBy = .ok order ∧
      (⟨if c.distinct then "SELECT DISTINCT " else "SELECT ", []⟩ : Fragment) ++ items ++ rows ++
        ⟨order, []⟩ ++ r.pageClause c ++ ⟨r.lockClause c, []⟩ = f := by
  show (r.selectList c.select >>= fun items => r.source c >>= fun rows =>
    r.orderClause c.orderBy >>= fun order => pure _) = .ok f ↔ _
  simp only [Outcome.bind_eq_ok, Outcome.pure_eq_ok]

/-- The part of a level that decides which rows and groups there are. -/
theorem source_eq_ok {c : Clauses Rendered} {f : Fragment} :
    r.source c = .ok f ↔
      ∃ table, r.tableText c.table c.aliasName = .ok table ∧
      ∃ joined, r.joins c.joins = .ok joined ∧
      ∃ filter, r.whereClause c = .ok filter ∧
      ∃ groups, r.groupClause c.groupBy = .ok groups ∧
      ∃ having, r.havingClause c = .ok having ∧
      (⟨" FROM " ++ table ++ joined, []⟩ : Fragment) ++ filter ++ ⟨groups, []⟩ ++ having = f := by
  show (r.tableText c.table c.aliasName >>= fun table => r.joins c.joins >>= fun joined =>
    r.whereClause c >>= fun filter => r.groupClause c.groupBy >>= fun groups =>
    r.havingClause c >>= fun having => pure _) = .ok f ↔ _
  simp only [Outcome.bind_eq_ok, Outcome.pure_eq_ok]

end Renderer

/-! ### A table of orders -/

/-- A catalog with one table. -/
def orders : Catalog :=
  ⟨[{ key := "Order", typeName := "Order", table := some "orders",
      columns := [{ field := "amount", column := some "amount" }] }]⟩

/-- The column of the table. -/
def amount : ColumnRef := .field none ⟨"Order", "amount"⟩

/-- The amounts above a bound. -/
def amountsAbove (bound : Value) : Query :=
  .of { table := "Order", select := [⟨.column amount, none, none⟩],
        wheres := [⟨amount, .gt, .value bound⟩] }

end EntitySql
