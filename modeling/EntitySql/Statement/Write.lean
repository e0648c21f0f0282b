import EntitySql.Statement.Select

/-!
# Inserting, updating and deleting

An insert writes a grid: one column for each field that some row sets, in order of declaration, and
one tuple for each row.  A value that is null or not set is `NULL` in the text and is not bound.

An update and a delete are restricted by the `WHERE` clause of a query and by nothing else of it.
-/

namespace EntitySql

/-- A row to insert: fields with the value that they set, or without one. -/
abbrev InsertRow := List (String × Option Value)

/-- The value that a row sets for a field; the first entry of the field counts. -/
def InsertRow.value? (row : InsertRow) (field : String) : Option Value :=
  (row.find? (·.1 == field)).bind (·.2)

/-- A change of one column by an update. -/
inductive Assignment where
  | set (f : Field) (v : Value)
  | increase (f : Field) (v : Value)
  | decrease (f : Field) (v : Value)
deriving DecidableEq, Repr, Inhabited

namespace Renderer

variable (r : Renderer)

/-! ### Inserting -/

/-- The fields of a schema that some row sets. -/
def writtenFields (s : Schema) (rows : List InsertRow) : List String :=
  (s.columns.map (·.field)).filter fun f => rows.any fun row => (row.value? f).isSome

/-- One cell of the grid. -/
def cell : Option Value → Fragment
  | some v => if v.isNull then ("NULL" : Fragment) else .placeholder v
  | none => ("NULL" : Fragment)

/-- The tuple of one row. -/
def tuple (fields : List String) (row : InsertRow) : Fragment :=
  (Fragment.join ", " (fields.map fun f => cell (row.value? f))).parenthesized

/-- What is added to an insert so that it gives the new identifier. -/
def identifierClause (s : Schema) : Outcome String :=
  match r.dialect.insertId with
  | .reported => .ok ""
  | .returning =>
    match s.primaryKey? with
    | some c => (r.resolve ⟨s.key, c.field⟩).map (" RETURNING " ++ ·.column)
    | none => .ok ""
  | .scopeIdentity => .ok "; SELECT CAST(SCOPE_IDENTITY() AS BIGINT)"

/-- The text of an insert, with its placeholders still unnumbered. -/
def insertFragment (key : EntityKey) (rows : List InsertRow) (returningId : Bool) : Rendered := do
  if rows.isEmpty then throw .emptyBatch
  let s ← r.schema key
  let fields := writtenFields s rows
  if fields.isEmpty then throw .nothingToWrite
  let columns ← fields.mapM fun f => (r.resolve ⟨key, f⟩).map (·.column)
  let table ← r.table key
  let identifier ← if returningId then r.identifierClause s else pure ""
  let start := "INSERT INTO " ++ table ++ " (" ++ ", ".intercalate columns ++ ") VALUES "
  return (start : Fragment) ++ Fragment.join ", " (rows.map (tuple fields)) ++ (identifier : Fragment)

/-- The statement that inserts rows, and selects the new identifier if it is asked for. -/
def insert (key : EntityKey) (rows : List InsertRow) (returningId : Bool) : Outcome Statement :=
  (r.insertFragment key rows returningId).map r.finish

/-! ### Updating and deleting -/

/-- One change; setting a column to null binds nothing. -/
def assignment : Assignment → Rendered
  | .set f v => (r.resolve f).map fun c =>
      if v.isNull then ((c.column ++ " = NULL" : String) : Fragment)
      else ((c.column ++ " = " : String) : Fragment) ++ .placeholder v
  | .increase f v => (r.resolve f).map fun c =>
      ((c.column ++ " = " ++ c.column ++ " + " : String) : Fragment) ++ .placeholder v
  | .decrease f v => (r.resolve f).map fun c =>
      ((c.column ++ " = " ++ c.column ++ " - " : String) : Fragment) ++ .placeholder v

/-- The text of an update, with its placeholders still unnumbered. -/
def updateFragment (q : Query) (changes : List Assignment) : Rendered := do
  if changes.isEmpty then throw .nothingToWrite
  let table ← r.table q.clauses.table
  let set ← changes.mapM r.assignment
  let filter ← r.whereClause (r.opened q)
  return (("UPDATE " ++ table ++ " SET " : String) : Fragment) ++ Fragment.join ", " set ++ filter

/-- The statement that changes the rows that the query's `WHERE` clause selects. -/
def update (q : Query) (changes : List Assignment) : Outcome Statement :=
  (r.updateFragment q changes).map r.finish

/-- The text of a delete, with its placeholders still unnumbered. -/
def deleteFragment (q : Query) : Rendered := do
  let table ← r.table q.clauses.table
  let filter ← r.whereClause (r.opened q)
  return (("DELETE FROM " ++ table : String) : Fragment) ++ filter

/-- The statement that deletes the rows that the query's `WHERE` clause selects. -/
def delete (q : Query) : Outcome Statement := (r.deleteFragment q).map r.finish

end Renderer

end EntitySql
