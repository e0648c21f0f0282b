import EntitySql.Entity.Record
import EntitySql.Failure

/-!
# Binding rows to records

A row of a result is bound column by column, from the first to the last: a column that belongs to a
field (`Schema.fieldOf?`) is decoded into it by the reader of the database, and any other column is
skipped.  A later column of the same field overwrites an earlier one, and the first column that
cannot be decoded ends the binding.

For several rows the columns are matched once, by the names of the first row.
-/

namespace EntitySql

/-- A row of a result: its columns with their cells. -/
abbrev ResultRow := List (String × Value)

namespace ResultRow

/-- The cell at an index, decoded. -/
def decode {α : Type} (read? : Value → Option α) (row : ResultRow) (index : Nat) :
    Except DatabaseError α :=
  match row[index]? with
  | none => .error (.columnIndexOutOfBounds index row.length)
  | some (_, v) =>
    match read? v with
    | some a => .ok a
    | none => .error (.columnDecode index)

/-- The names of the columns. -/
def columns (row : ResultRow) : List String := row.map (·.1)

end ResultRow

namespace Schema

/-- The field of each column, where there is one. -/
def columnMap (s : Schema) (columns : List String) : List (Option String) := columns.map s.fieldOf?

end Schema

namespace Record

variable {e : EntityType}

/-- Decodes the cell at an index into a field, if there is a field of that name. -/
def bindColumn? (r : Record e) (field : String) (row : ResultRow) (index : Nat)
    (reader : CellReader := .exact) : Except DatabaseError (Option (Record e)) :=
  match e.place? field with
  | none => .ok none
  | some i =>
    (row.decode ((e.field i).type.read? reader) index).map fun a => some (r.set i a)

/-- The record after one more column, given with its index. -/
def bindNext (reader : CellReader) (row : ResultRow) (r : Record e)
    (column : Option String × Nat) : Except DatabaseError (Record e) :=
  match column.1 with
  | none => .ok r
  | some field => (r.bindColumn? field row column.2 reader).map fun bound => bound.getD r

/-- The record of a row whose columns belong to the given fields. -/
def bindMapped (e : EntityType) (reader : CellReader) (map : List (Option String))
    (row : ResultRow) : Except DatabaseError (Record e) :=
  map.zipIdx.foldlM (bindNext reader row) (initial e)

/-- The record of a row. -/
def bindRow (e : EntityType) (row : ResultRow) (reader : CellReader := .exact) :
    Except DatabaseError (Record e) :=
  bindMapped e reader (e.schema.columnMap row.columns) row

/-- The records of rows with the columns of the first one. -/
def bindMany (e : EntityType) (rows : List ResultRow) (reader : CellReader := .exact) :
    Except DatabaseError (List (Record e)) :=
  match rows with
  | [] => .ok []
  | first :: _ => rows.mapM (bindMapped e reader (e.schema.columnMap first.columns))

/-- The record of the first row, if there is one. -/
def bindOne (e : EntityType) (rows : List ResultRow) (reader : CellReader := .exact) :
    Except DatabaseError (Option (Record e)) :=
  match rows with
  | [] => .ok none
  | first :: _ => (bindRow e first reader).map some

end Record

end EntitySql
