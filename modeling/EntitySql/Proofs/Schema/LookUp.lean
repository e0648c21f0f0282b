import EntitySql.Catalog
import Mathlib.Data.List.Nodup

/-!
# Looking columns up

If the elements of a list differ in a key, each of them is found by its key (`find?_of_nodup`), from
whichever end the search begins (`find?_reverse_of_nodup`).  So a column is found by its field where
no field has two columns, and a field is found by its column where no column belongs to two fields.
-/

namespace EntitySql

theorem find?_of_nodup {α β : Type} [BEq β] [LawfulBEq β] {key : α → β} {xs : List α}
    (h : (xs.map key).Nodup) {x : α} (hx : x ∈ xs) : xs.find? (key · == key x) = some x := by
  have hsome : (xs.find? (key · == key x)).isSome :=
    List.find?_isSome.2 ⟨x, hx, beq_self_eq_true (key x)⟩
  obtain ⟨y, hy⟩ := Option.isSome_iff_exists.1 hsome
  have hkey : key y = key x := by simpa using List.find?_some hy
  rw [hy, List.inj_on_of_nodup_map h (List.mem_of_find?_eq_some hy) hx hkey]

/-- Elements that differ in their keys are found from either end. -/
theorem find?_reverse_of_nodup {α β : Type} [BEq β] [LawfulBEq β] {key : α → β} {xs : List α}
    (h : (xs.map key).Nodup) (k : β) : xs.reverse.find? (key · == k) = xs.find? (key · == k) := by
  cases hx : xs.find? (key · == k) with
  | none =>
    have hnone := List.find?_eq_none.1 hx
    exact List.find?_eq_none.2 fun y hy => hnone y (List.mem_reverse.1 hy)
  | some x =>
    have hkey : key x = k := by simpa using List.find?_some hx
    have hreverse : (xs.reverse.map key).Nodup := by
      rw [List.map_reverse, List.nodup_reverse]
      exact h
    rw [← hkey]
    exact find?_of_nodup hreverse (List.mem_reverse.2 (List.mem_of_find?_eq_some hx))

namespace Schema

theorem mem_of_primaryKey? {s : Schema} {c : ColumnDef} (h : s.primaryKey? = some c) :
    c ∈ s.columns := by
  rcases Option.or_eq_some_iff.1 h with h | ⟨-, h⟩ <;> exact List.mem_of_find?_eq_some h

/-- If no two fields have the same column, each of them is found by its column. -/
theorem fieldOf?_columnName {s : Schema} (h : (s.columns.map ColumnDef.columnName).Nodup)
    {c : ColumnDef} (hc : c ∈ s.columns) : s.fieldOf? c.columnName = some c.field := by
  rw [fieldOf?, find?_of_nodup h hc]

end Schema

namespace Catalog

variable {catalog : Catalog} {key : EntityKey} {s : Schema} (hs : catalog.schema? key = some s)
include hs

theorem key_of_schema? : s.key = key := by
  simpa using List.find?_some hs

/-- If no two columns have the same field, each of them is found by its field. -/
theorem resolve?_field (h : (s.columns.map (·.field)).Nodup) {c : ColumnDef} (hc : c ∈ s.columns) :
    catalog.resolve? ⟨key, c.field⟩ = some ⟨s.tableName, c.columnName⟩ := by
  have hfind : s.columns.reverse.find? (·.field == c.field) = some c := by
    rw [find?_reverse_of_nodup h]
    exact find?_of_nodup h hc
  simp only [resolve?, hs, hfind, Option.bind_eq_bind, Option.bind_some, Option.pure_def]

end Catalog

end EntitySql
