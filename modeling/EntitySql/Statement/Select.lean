import EntitySql.Statement.Condition

/-!
# Selecting

The text of one level has its clauses in the order of SQL: the select list, the table, joins,
`WHERE`, `GROUP BY`, `HAVING`, `ORDER BY`, the page and the lock.  A raw override takes the place of
all of them.  Sub-queries are levels that are already rendered (`Renderer.level`), so a query is
rendered by `Query.fold`.

A raw override of the outermost level is sent as it was written.  Everywhere else placeholders are
numbered once the whole text is there.
-/

namespace EntitySql.Renderer

variable (r : Renderer)

/-- A selected item with its alias. -/
def selectItem (i : SelectItem Rendered) : Rendered :=
  (r.item i).map fun f => f ++ (aliasSuffix i.aliasName : Fragment)

/-- The select list, `*` for an empty one. -/
def selectList (is : List (SelectItem Rendered)) : Rendered := do
  let fragments ← is.mapM r.selectItem
  if fragments.isEmpty then return "*" else return Fragment.join ", " fragments

/-- A table with its alias. -/
def tableText (key : EntityKey) (aliasName : Option String) : Outcome String :=
  (r.table key).map (· ++ aliasSuffix aliasName)

/-- A pair of columns that have to be equal. -/
def columnPair (p : ColumnRef × ColumnRef) : Outcome String := do
  let left ← r.column p.1
  let right ← r.column p.2
  return left ++ " = " ++ right

/-- A joined table with its conditions, of which there has to be one. -/
def join (j : Join) : Outcome String := do
  if j.on.isEmpty then throw (.refused (.joinWithoutConditions j.table))
  let table ← r.tableText j.table j.aliasName
  let pairs ← j.on.mapM r.columnPair
  return " " ++ j.kind.sql ++ " " ++ table ++ " ON " ++ " AND ".intercalate pairs

/-- The joined tables. -/
def joins (js : List Join) : Outcome String := (js.mapM r.join).map String.join

/-- The columns of a list behind its keyword; nothing for an empty list. -/
def columnList (keyword : String) (texts : List String) : String :=
  if texts.isEmpty then "" else keyword ++ ", ".intercalate texts

/-- The `GROUP BY` clause. -/
def groupClause (columns : List ColumnRef) : Outcome String :=
  (columns.mapM r.column).map (columnList " GROUP BY ")

/-- A column to order by with its direction. -/
def orderItem (o : OrderItem) : Outcome String :=
  (r.column o.target).map (· ++ " " ++ o.direction.sql)

/-- The `ORDER BY` clause. -/
def orderClause (items : List OrderItem) : Outcome String :=
  (items.mapM r.orderItem).map (columnList " ORDER BY ")

/-- The page clause, where there is a limit or an offset. -/
def pageClause (c : Clauses Rendered) : Fragment :=
  if c.limit.isSome || c.offset.isSome then
    r.dialect.page c.limit c.offset (!c.orderBy.isEmpty)
  else .empty

/-- The suffix that locks the selected rows. -/
def lockClause (c : Clauses Rendered) : String :=
  if c.lock then r.dialect.lock.getD "" else ""

/-- The part of a `SELECT` that decides which rows and groups there are. -/
def source (c : Clauses Rendered) : Rendered := do
  let table ← r.tableText c.table c.aliasName
  let joined ← r.joins c.joins
  let filter ← r.whereClause c
  let groups ← r.groupClause c.groupBy
  let having ← r.havingClause c
  return ((" FROM " ++ table ++ joined : String) : Fragment) ++ filter ++ (groups : Fragment) ++
    having

/-- One level, rendered from its clauses. -/
def selectLevel (c : Clauses Rendered) : Rendered := do
  let items ← r.selectList c.select
  let rows ← r.source c
  let order ← r.orderClause c.orderBy
  let start : String := if c.distinct then "SELECT DISTINCT " else "SELECT "
  return (start : Fragment) ++ items ++ rows ++ (order : Fragment) ++ r.pageClause c ++
    (r.lockClause c : Fragment)

/-- One level, or the SQL that overrides it. -/
def level (c : Clauses Rendered) : Rendered :=
  match c.raw with
  | some raw => .ok ⟨raw.sql, raw.params⟩
  | none => r.selectLevel c

/-- The fragment of a query. -/
def query (q : Query) : Rendered := q.fold r.level

/-- The outermost level of a query with its sub-queries rendered. -/
def opened (q : Query) : Clauses Rendered := q.clauses.map r.query

/-- The statement that selects the rows of a query. -/
def select (q : Query) : Outcome Statement :=
  match q.clauses.raw with
  | some raw => .ok ⟨raw.sql, raw.params⟩
  | none => (r.query q).map r.finish

end EntitySql.Renderer
