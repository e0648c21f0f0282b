import EntitySql.Catalog
import EntitySql.Dialect
import EntitySql.Failure

/-!
# Statements

A `Statement` is finished SQL text with its parameters in placeholder order.  A `Renderer` knows the
registered schemas and the dialect that statements are written in; `Renderer.finish` makes a
statement of a rendered fragment by numbering its placeholders.
-/

namespace EntitySql

/-- Finished SQL text and its parameters. -/
structure Statement where
  sql : String
  params : List Value := []
deriving DecidableEq, Repr, Inhabited

/-- What an operation computes, or why it has no result. -/
abbrev Outcome (α : Type) := Except Failure α

/-- The schemas and the dialect that statements are rendered for. -/
structure Renderer where
  catalog : Catalog
  dialect : Dialect

namespace Renderer

/-- The schema of a registered key. -/
def schema (r : Renderer) (key : EntityKey) : Outcome Schema :=
  match r.catalog.schema? key with
  | some s => .ok s
  | none => .error (.unregisteredEntity key)

/-- The table of a registered key. -/
def table (r : Renderer) (key : EntityKey) : Outcome String :=
  (r.schema key).map (·.tableName)

/-- The table and column of a registered field. -/
def resolve (r : Renderer) (f : Field) : Outcome ResolvedColumn :=
  match r.catalog.resolve? f with
  | some c => .ok c
  | none => .error (.unregisteredField f)

/-- The SQL of a column reference. -/
def column (r : Renderer) : ColumnRef → Outcome String
  | .field qualifier f => do
    let resolved ← r.resolve f
    match qualifier with
    | some q => return q ++ "." ++ resolved.column
    | none => return resolved.column
  | .aliased name => .ok name
  | .expr sql => .ok sql

/-- A rendered fragment as a statement. -/
def finish (r : Renderer) (f : Fragment) : Statement := ⟨r.dialect.number f.text, f.params⟩

end Renderer

/-- ` AS ` and the alias, where there is one. -/
def aliasSuffix : Option String → String
  | some name => " AS " ++ name
  | none => ""

end EntitySql
