import EntitySql.Proofs.Statement.Outcome
import EntitySql.Statement.Select

/-!
# Names and lists of names

When tables, columns, joins and lists of columns have a text, and which one it is.
-/

namespace EntitySql.Renderer

variable {r : Renderer}

theorem schema_eq_ok {key : EntityKey} {s : Schema} :
    r.schema key = .ok s ↔ r.catalog.schema? key = some s := by
  rw [schema]
  cases r.catalog.schema? key with
  | none => simp
  | some t => simp

theorem table_eq_ok {key : EntityKey} {t : String} :
    r.table key = .ok t ↔ ∃ s, r.catalog.schema? key = some s ∧ s.tableName = t := by
  simp only [table, Outcome.map_eq_ok, schema_eq_ok]

theorem table_eq_error {key : EntityKey} {f : Failure} :
    r.table key = .error f ↔ r.catalog.schema? key = none ∧ .unregisteredEntity key = f := by
  rw [table, schema]
  cases r.catalog.schema? key with
  | none => simp [Except.map]
  | some s => simp [Except.map]

theorem resolve_eq_ok {f : Field} {c : ResolvedColumn} :
    r.resolve f = .ok c ↔ r.catalog.resolve? f = some c := by
  rw [resolve]
  cases r.catalog.resolve? f with
  | none => simp
  | some d => simp

theorem column_field_eq_ok {qualifier : Option String} {f : Field} {s : String} :
    r.column (.field qualifier f) = .ok s ↔ ∃ c, r.catalog.resolve? f = some c ∧
      (match qualifier with
        | some q => q ++ "." ++ c.column
        | none => c.column) = s := by
  show (r.resolve f >>= fun resolved => _) = _ ↔ _
  rw [Outcome.bind_eq_ok]
  simp only [resolve_eq_ok]
  cases qualifier <;> simp only [Outcome.pure_eq_ok]

theorem columnPair_eq_ok {p : ColumnRef × ColumnRef} {s : String} :
    r.columnPair p = .ok s ↔ ∃ left, r.column p.1 = .ok left ∧
      ∃ right, r.column p.2 = .ok right ∧ left ++ " = " ++ right = s := by
  show (r.column p.1 >>= fun left => r.column p.2 >>= fun right => pure _) = _ ↔ _
  simp only [Outcome.bind_eq_ok, Outcome.pure_eq_ok]

theorem tableText_eq_ok {key : EntityKey} {aliasName : Option String} {s : String} :
    r.tableText key aliasName = .ok s ↔ ∃ t, r.table key = .ok t ∧ t ++ aliasSuffix aliasName = s :=
  Outcome.map_eq_ok

theorem join_eq_ok {j : Join} {s : String} :
    r.join j = .ok s ↔ j.on ≠ [] ∧ ∃ table, r.tableText j.table j.aliasName = .ok table ∧
      ∃ pairs, j.on.mapM r.columnPair = .ok pairs ∧
        " " ++ j.kind.sql ++ " " ++ table ++ " ON " ++ " AND ".intercalate pairs = s := by
  rw [join]
  cases j.on with
  | nil =>
    refine ⟨fun h => ?_, fun h => absurd rfl h.1⟩
    cases h
  | cons pair pairs =>
    simp only [ne_eq, List.cons_ne_nil, not_false_eq_true, true_and]
    show (r.tableText j.table j.aliasName >>= fun table => (pair :: pairs).mapM r.columnPair >>=
      fun texts => pure _) = _ ↔ _
    simp only [Outcome.bind_eq_ok, Outcome.pure_eq_ok]

theorem joins_eq_ok {js : List Join} {s : String} :
    r.joins js = .ok s ↔ ∃ texts, js.mapM r.join = .ok texts ∧ String.join texts = s :=
  Outcome.map_eq_ok

theorem groupClause_eq_ok {columns : List ColumnRef} {s : String} :
    r.groupClause columns = .ok s ↔
      ∃ texts, columns.mapM r.column = .ok texts ∧ columnList " GROUP BY " texts = s :=
  Outcome.map_eq_ok

theorem orderItem_eq_ok {o : OrderItem} {s : String} :
    r.orderItem o = .ok s ↔ ∃ t, r.column o.target = .ok t ∧ t ++ " " ++ o.direction.sql = s := by
  rw [orderItem, Outcome.map_eq_ok]

theorem orderClause_eq_ok {items : List OrderItem} {s : String} :
    r.orderClause items = .ok s ↔
      ∃ texts, items.mapM r.orderItem = .ok texts ∧ columnList " ORDER BY " texts = s :=
  Outcome.map_eq_ok

end EntitySql.Renderer
