import EntitySql.Naming
import EntitySql.Schema.Tags

/-!
# Schemas

A `Schema` describes one type of rows: its key, its name, its table and its columns in order of
declaration.  Where no table or column is given, it is the snake case of the name.

A result column is matched to a field by `Schema.fieldOf?`: first the fields whose column has
exactly that name, then the fields without a column of their own whose snake case is that of the
name.
-/

namespace EntitySql

/-- The key that a type of rows is registered under. -/
abbrev EntityKey := String

/-- A handle to a field of a type of rows. -/
structure Field where
  entity : EntityKey
  name : String
deriving DecidableEq, Repr, Inhabited

/-- A mapped field: its name, the column given for it, and its tags as they are written. -/
structure ColumnDef where
  field : String
  column : Option String := none
  tags : String := ""
deriving DecidableEq, Repr, Inhabited

namespace ColumnDef

/-- The given column, or the snake case of the field. -/
def columnName (c : ColumnDef) : String := c.column.getD (Naming.snake c.field)

/-- What the tags say. -/
def parsedTags (c : ColumnDef) : ColumnTags := ColumnTags.parse c.tags

end ColumnDef

/-- The description of a type of rows. -/
structure Schema where
  key : EntityKey
  typeName : String
  table : Option String := none
  columns : List ColumnDef := []
deriving DecidableEq, Repr, Inhabited

namespace Schema

/-- The given table, or the snake case of the type's name. -/
def tableName (s : Schema) : String := s.table.getD (Naming.tableFor s.typeName)

/-- The first column of a field. -/
def column? (s : Schema) (field : String) : Option ColumnDef :=
  s.columns.find? (·.field == field)

/-- The first column tagged as primary key, or the column of a field `id`. -/
def primaryKey? (s : Schema) : Option ColumnDef :=
  (s.columns.find? (·.parsedTags.primary)).or (s.column? "id")

/-- The field that a result column belongs to. -/
def fieldOf? (s : Schema) (column : String) : Option String :=
  match s.columns.find? (·.columnName == column) with
  | some c => some c.field
  | none =>
    let spelled := Naming.snake column
    (s.columns.find? fun c => c.column.isNone && Naming.snake c.field == spelled).map (·.field)

end Schema

end EntitySql
