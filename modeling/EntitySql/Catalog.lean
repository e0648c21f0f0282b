import EntitySql.Schema.Basic

/-!
# The catalog

A `Catalog` holds the registered schemas in the order of their registration.  A key stays with the
schema that was registered under it first: registering another one for the same key changes nothing.

`Catalog.resolve?` finds the table and column of a field handle.  Of several columns of a field the
last one counts.
-/

namespace EntitySql

/-- A field resolved to its table and column. -/
structure ResolvedColumn where
  table : String
  column : String
deriving DecidableEq, Repr, Inhabited

/-- The registered schemas, at most one for each key. -/
structure Catalog where
  schemas : List Schema := []
deriving DecidableEq, Repr, Inhabited

namespace Catalog

/-- The catalog without schemas. -/
def empty : Catalog := {}

/-- The schema registered under a key. -/
def schema? (c : Catalog) (key : EntityKey) : Option Schema :=
  c.schemas.find? (·.key == key)

/-- Whether a schema is registered under a key. -/
def isRegistered (c : Catalog) (key : EntityKey) : Bool := (c.schema? key).isSome

/-- Registers a schema, unless there is one for its key. -/
def register (c : Catalog) (s : Schema) : Catalog :=
  if c.isRegistered s.key then c else ⟨c.schemas ++ [s]⟩

/-- Registers schemas one after the other. -/
def registerAll (c : Catalog) (ss : List Schema) : Catalog := ss.foldl register c

/-- The table and column of a field handle. -/
def resolve? (c : Catalog) (f : Field) : Option ResolvedColumn := do
  let s ← c.schema? f.entity
  let d ← s.columns.reverse.find? (·.field == f.name)
  return ⟨s.tableName, d.columnName⟩

/-! ### What registration does to the look-up -/

theorem schema?_empty (key : EntityKey) : empty.schema? key = none := rfl

theorem schema?_register (c : Catalog) (s : Schema) (key : EntityKey) :
    (c.register s).schema? key =
      (c.schema? key).or (if s.key = key then some s else none) := by
  unfold register
  by_cases hr : c.isRegistered s.key = true
  · rw [if_pos hr]
    by_cases hk : s.key = key
    · subst hk
      obtain ⟨t, ht⟩ := Option.isSome_iff_exists.1 hr
      simp [ht]
    · simp [hk]
  · rw [if_neg hr]
    simp only [schema?, List.find?_append, List.find?_singleton, beq_iff_eq]

end Catalog

end EntitySql
