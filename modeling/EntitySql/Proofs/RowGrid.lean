import EntitySql.Proofs.Placeholder.Joined
import EntitySql.Proofs.Schema.LookUp
import EntitySql.Proofs.Statement.Command
import Mathlib.Data.List.ReduceOption

/-!
# An insert is a grid

The grid of an insert has a column for each declared field that some row sets and a line for each
row; its cells are the values to be bound, or `none` where the text has `NULL` (`Schema.grid`).  The
statement is the grid written line by line, and its parameters are the values of the grid read in
the same order (`Renderer.insert_eq_grid`).

`Grid.texts` writes a grid with any marks in the place of values.  Before numbering all marks are
`?`, and numbering balanced texts writes the marks of the dialect instead (`numberEach_texts`).
-/

namespace EntitySql

/-! ### Grids -/

/-- Lines of cells, each with the value that it binds. -/
abbrev Grid := List (List (Option Value))

namespace Grid

/-- The bound values, line by line. -/
def values (g : Grid) : List Value := g.flatMap List.reduceOption

/-- The texts of the cells of one line, with the marks after `n`. -/
def cellTexts (mark : Nat → String) : Nat → List (Option Value) → List String
  | _, [] => []
  | n, none :: cells => "NULL" :: cellTexts mark n cells
  | n, some _ :: cells => mark (n + 1) :: cellTexts mark (n + 1) cells

/-- The text of one line, with the marks after `n`. -/
def lineText (mark : Nat → String) (n : Nat) (cells : List (Option Value)) : String :=
  "(" ++ ", ".intercalate (cellTexts mark n cells) ++ ")"

/-- The texts of the lines, with the marks after `n`. -/
def texts (mark : Nat → String) : Nat → Grid → List String
  | _, [] => []
  | n, cells :: g => lineText mark n cells :: texts mark (n + cells.reduceOption.length) g

end Grid

/-- The value that a row binds for a field; null is not bound. -/
def InsertRow.bound? (row : InsertRow) (field : String) : Option Value :=
  (row.value? field).filter fun v => !v.isNull

namespace Schema

/-- The declared fields that some row sets, in the order of their declaration. -/
def written (s : Schema) (rows : List InsertRow) : List ColumnDef :=
  s.columns.filter fun c => rows.any fun row => (row.value? c.field).isSome

/-- What the rows bind in the written columns. -/
def grid (s : Schema) (rows : List InsertRow) : Grid :=
  rows.map fun row => (s.written rows).map fun c => row.bound? c.field

theorem written_eq_nil {s : Schema} {rows : List InsertRow} :
    s.written rows = [] ↔ ∀ row ∈ rows, ∀ c ∈ s.columns, row.value? c.field = none := by
  simp only [written, List.filter_eq_nil_iff, List.any_eq_true, not_exists, not_and,
    Bool.not_eq_true, Option.isSome_eq_false_iff, Option.isNone_iff_eq_none]
  exact ⟨fun h row hrow c hc => h c hc row hrow, fun h c hc row hrow => h row hrow c hc⟩

/-- The grid line by line. -/
theorem values_grid (s : Schema) (rows : List InsertRow) :
    (s.grid rows).values =
      rows.flatMap fun row => (s.written rows).filterMap fun c => row.bound? c.field := by
  rw [Grid.values, grid, List.flatMap_map]
  refine List.flatMap_congr fun row _ => ?_
  rw [List.reduceOption, List.filterMap_map]
  rfl

/-- The text of an insert in front of its grid. -/
def insertStart (s : Schema) (rows : List InsertRow) : String :=
  "INSERT INTO " ++ s.tableName ++ " (" ++
    ", ".intercalate ((s.written rows).map ColumnDef.columnName) ++ ") VALUES "

/-- The text of an insert with given marks, without what gives the identifier. -/
def insertText (s : Schema) (rows : List InsertRow) (mark : Nat → String) : String :=
  s.insertStart rows ++ ", ".intercalate ((s.grid rows).texts mark 0)

end Schema

/-- The clause that gives the identifier of a new row. -/
def Dialect.identifierText (d : Dialect) (s : Schema) : String :=
  match d.insertId with
  | .reported => ""
  | .returning =>
    match s.primaryKey? with
    | some c => " RETURNING " ++ c.columnName
    | none => ""
  | .scopeIdentity => "; SELECT CAST(SCOPE_IDENTITY() AS BIGINT)"

/-! ### Numbering a grid -/

namespace Grid

open Placeholder

/-- The mark before numbering. -/
abbrev unnumbered : Nat → String := fun _ => "?"

theorem balanced_separator : Balanced ", " := by decide

/-- Without numbers it does not matter which ones come next. -/
theorem cellTexts_unnumbered (n m : Nat) (cells : List (Option Value)) :
    cellTexts unnumbered n cells = cellTexts unnumbered m cells := by
  induction cells generalizing n m with
  | nil => rfl
  | cons cell cells ih =>
    cases cell with
    | none => exact congrArg _ (ih n m)
    | some v => exact congrArg _ (ih (n + 1) (m + 1))

theorem texts_unnumbered (n : Nat) (g : Grid) :
    g.texts unnumbered n = g.map (lineText unnumbered 0) := by
  induction g generalizing n with
  | nil => rfl
  | cons cells g ih => rw [texts, ih, lineText, cellTexts_unnumbered n 0, List.map_cons, lineText]

theorem after_cellTexts (n : Nat) (cells : List (Option Value)) :
    ∀ t ∈ cellTexts unnumbered n cells, after none t.toList = none := by
  induction cells generalizing n with
  | nil => exact List.forall_mem_nil _
  | cons cell cells ih =>
    cases cell with
    | none => exact List.forall_mem_cons.2 ⟨(by decide : after none "NULL".toList = none), ih n⟩
    | some v => exact List.forall_mem_cons.2 ⟨(by decide : after none "?".toList = none), ih (n + 1)⟩

/-- A line has a placeholder for each of its values. -/
theorem count_cellTexts (n : Nat) (cells : List (Option Value)) :
    ((cellTexts unnumbered n cells).map fun t => count none t.toList).sum =
      cells.reduceOption.length := by
  induction cells generalizing n with
  | nil => rfl
  | cons cell cells ih =>
    cases cell with
    | none =>
      rw [List.reduceOption_cons_of_none, ← ih n, cellTexts, List.map_cons, List.sum_cons,
        show count none "NULL".toList = 0 by decide, Nat.zero_add]
    | some v =>
      rw [List.reduceOption_cons_of_some, List.length_cons, ← ih (n + 1), cellTexts, List.map_cons,
        List.sum_cons, show count none "?".toList = 1 by decide, Nat.add_comm]

theorem after_lineText (n : Nat) (cells : List (Option Value)) :
    after none (lineText unnumbered n cells).toList = none := by
  have hcells := after_intercalate balanced_separator (after_cellTexts n cells)
  rw [lineText, String.append_assoc, after_toList_append (by decide), after_toList_append hcells]
  decide

theorem count_lineText (n : Nat) (cells : List (Option Value)) :
    count none (lineText unnumbered n cells).toList = cells.reduceOption.length := by
  have hcells := after_intercalate balanced_separator (after_cellTexts n cells)
  rw [lineText, String.append_assoc, count_toList_append (by decide), count_toList_append hcells,
    count_intercalate balanced_separator (after_cellTexts n cells), count_cellTexts,
    show count none "(".toList = 0 by decide, show count none ")".toList = 0 by decide,
    Nat.zero_add, Nat.add_zero]

theorem after_texts (n : Nat) (g : Grid) :
    ∀ t ∈ g.texts unnumbered n, after none t.toList = none := by
  rw [texts_unnumbered, List.forall_mem_map]
  exact fun cells _ => after_lineText 0 cells

variable (mark : Nat → String)

theorem numberEach_cellTexts (n m : Nat) (cells : List (Option Value)) :
    numberEach mark n (cellTexts unnumbered m cells) = cellTexts mark n cells := by
  induction cells generalizing n m with
  | nil => rfl
  | cons cell cells ih =>
    cases cell with
    | none =>
      rw [cellTexts, numberEach, ih, numberText_of_balanced mark (by decide),
        show count none "NULL".toList = 0 by decide]
      rfl
    | some v =>
      have hmark : numberText mark n "?" = mark (n + 1) := by
        show String.ofList ((mark (n + 1)).toList ++ []) = _
        rw [List.append_nil, String.ofList_toList]
      rw [cellTexts, numberEach, ih, hmark, show count none "?".toList = 1 by decide]
      rfl

theorem numberText_lineText (n m : Nat) (cells : List (Option Value)) :
    numberText mark n (lineText unnumbered m cells) = lineText mark n cells := by
  have hcells := after_cellTexts m cells
  rw [lineText, String.append_assoc, numberText_append mark (by decide),
    numberText_append mark (after_intercalate balanced_separator hcells),
    numberText_intercalate mark balanced_separator hcells,
    numberText_of_balanced mark (s := "(") (by decide),
    numberText_of_balanced mark (s := ")") (by decide), show count none "(".toList = 0 by decide,
    Nat.add_zero, numberEach_cellTexts, ← String.append_assoc, lineText]

/-- Numbering a grid puts the marks of the dialect in the place of `?`. -/
theorem numberEach_texts (n m : Nat) (g : Grid) :
    numberEach mark n (g.texts unnumbered m) = g.texts mark n := by
  induction g generalizing n m with
  | nil => rfl
  | cons cells g ih =>
    rw [texts, numberEach, numberText_lineText, count_lineText, ih, texts]

end Grid

/-- A schema whose table and columns have balanced names. -/
def Schema.Balanced (s : Schema) : Prop :=
  Placeholder.Balanced s.tableName ∧ ∀ c ∈ s.columns, Placeholder.Balanced c.columnName

namespace Schema

open Placeholder (numberText)

variable {s : Schema} (hs : s.Balanced)
include hs

theorem Balanced.identifierText (d : Dialect) : Placeholder.Balanced (d.identifierText s) := by
  unfold Dialect.identifierText
  split
  · decide
  · split
    next c hc => exact .append (by decide) (hs.2 c (mem_of_primaryKey? hc))
    next => decide
  · decide

theorem Balanced.insertStart (rows : List InsertRow) :
    Placeholder.Balanced (s.insertStart rows) := by
  have hcolumns : Placeholder.Balanced
      (", ".intercalate ((s.written rows).map ColumnDef.columnName)) := by
    refine Grid.balanced_separator.intercalate ?_
    rw [List.forall_mem_map]
    exact fun c hc => hs.2 c (List.mem_of_mem_filter hc)
  exact ((((show Placeholder.Balanced "INSERT INTO " by decide).append hs.1).append
    (by decide)).append hcolumns).append (by decide)

/-- Numbering an insert writes the marks of the dialect into its grid. -/
theorem numberText_insertText (rows : List InsertRow) {clause : String}
    (hclause : Placeholder.Balanced clause) (mark : Nat → String) :
    numberText mark 0 (s.insertText rows Grid.unnumbered ++ clause) =
      s.insertText rows mark ++ clause := by
  have hstart := hs.insertStart rows
  have hgrid := Grid.after_texts 0 (s.grid rows)
  -- no mark stands in front of the grid, so its numbers begin with the first one
  rw [insertText, insertText, String.append_assoc, Placeholder.numberText_append mark hstart.1,
    Placeholder.numberText_of_balanced mark hstart, hstart.2,
    Placeholder.numberText_append mark
      (Placeholder.after_intercalate Grid.balanced_separator hgrid),
    Placeholder.numberText_intercalate mark Grid.balanced_separator hgrid, Grid.numberEach_texts,
    Placeholder.numberText_of_balanced mark hclause, ← String.append_assoc]

end Schema

/-! ### The rendered grid -/

namespace Renderer

open Fragment (text_join params_join)

/-- A cell binds a value that is not null. -/
theorem cell_eq (o : Option Value) :
    cell o = match o.filter fun v => !v.isNull with
      | some v => .placeholder v
      | none => ("NULL" : Fragment) := by
  cases o with
  | none => rfl
  | some v => cases hv : v.isNull <;> simp [cell, Option.filter, hv]

theorem text_cells (fields : List String) (row : InsertRow) (n : Nat) :
    (fields.map fun f => cell (row.value? f)).map (·.text) =
      Grid.cellTexts Grid.unnumbered n (fields.map row.bound?) := by
  induction fields generalizing n with
  | nil => rfl
  | cons f fields ih =>
    rw [List.map_cons, List.map_cons, List.map_cons, cell_eq, InsertRow.bound?]
    cases (row.value? f).filter fun v => !v.isNull with
    | none => exact congrArg _ (ih n)
    | some v => exact congrArg _ (ih (n + 1))

theorem params_cells (fields : List String) (row : InsertRow) :
    (fields.map fun f => cell (row.value? f)).flatMap (·.params) =
      (fields.map row.bound?).reduceOption := by
  induction fields with
  | nil => rfl
  | cons f fields ih =>
    rw [List.map_cons, List.flatMap_cons, List.map_cons, ih, cell_eq, InsertRow.bound?]
    cases (row.value? f).filter fun v => !v.isNull <;> rfl

/-- The tuple of a row is its line of the grid. -/
theorem tuple_eq (fields : List String) (row : InsertRow) :
    tuple fields row =
      ⟨Grid.lineText Grid.unnumbered 0 (fields.map row.bound?),
        (fields.map row.bound?).reduceOption⟩ := by
  show Fragment.mk ("(" ++ (Fragment.join ", " _).text ++ ")")
    ([] ++ (Fragment.join ", " _).params ++ []) = _
  rw [List.nil_append, List.append_nil, params_join, params_cells, text_join, text_cells _ _ 0]
  rfl

theorem writtenFields_eq (s : Schema) (rows : List InsertRow) :
    writtenFields s rows = (s.written rows).map (·.field) := by
  rw [writtenFields, List.filter_map]
  rfl

/-- The tuples of the rows are the grid. -/
theorem join_tuples (s : Schema) (rows : List InsertRow) :
    Fragment.join ", " (rows.map (tuple (writtenFields s rows))) =
      ⟨", ".intercalate ((s.grid rows).texts Grid.unnumbered 0), (s.grid rows).values⟩ := by
  have htuple : tuple (writtenFields s rows) = fun row =>
      ⟨Grid.lineText Grid.unnumbered 0 ((s.written rows).map fun c => row.bound? c.field),
        ((s.written rows).map fun c => row.bound? c.field).reduceOption⟩ := by
    funext row
    rw [tuple_eq, writtenFields_eq, List.map_map]
    rfl
  show Fragment.mk (Fragment.join ", " _).text (Fragment.join ", " _).params = _
  rw [text_join, params_join, htuple, Grid.texts_unnumbered, Grid.values, Schema.grid,
    List.map_map, List.map_map, List.flatMap_map, List.flatMap_map]
  rfl

theorem insert_nil (r : Renderer) (key : EntityKey) (returningId : Bool) :
    r.insert key [] returningId = .error .emptyBatch := rfl

section

variable {r : Renderer} {key : EntityKey} {s : Schema} (hs : r.catalog.schema? key = some s)
  (hnames : (s.columns.map (·.field)).Nodup)
include hs

theorem schema_eq : r.schema key = .ok s := by
  rw [Renderer.schema, hs]

include hnames

theorem resolve_eq {c : ColumnDef} (hc : c ∈ s.columns) :
    r.resolve ⟨key, c.field⟩ = .ok ⟨s.tableName, c.columnName⟩ := by
  rw [resolve, Catalog.resolve?_field hs hnames hc]

theorem identifierClause_eq : r.identifierClause s = .ok (r.dialect.identifierText s) := by
  rw [identifierClause, Dialect.identifierText]
  cases r.dialect.insertId with
  | reported => rfl
  | returning =>
    cases hc : s.primaryKey? with
    | none => rfl
    | some c =>
      simp only [Catalog.key_of_schema? hs, resolve_eq hs hnames (Schema.mem_of_primaryKey? hc)]
      rfl
  | scopeIdentity => rfl

variable {rows : List InsertRow}

omit hnames in
theorem insert_of_written_eq_nil (hrows : rows ≠ []) (hwritten : s.written rows = [])
    (returningId : Bool) : r.insert key rows returningId = .error .nothingToWrite := by
  have hfields : (writtenFields s rows).isEmpty = true := by rw [writtenFields_eq, hwritten]; rfl
  rw [insert, insertFragment_of_ne_nil r key hrows, schema_eq hs]
  show Except.map _ (ite _ _ _) = _
  rw [if_pos hfields]
  rfl

theorem insert_of_written_ne_nil (hrows : rows ≠ []) (hwritten : s.written rows ≠ [])
    (returningId : Bool) :
    r.insert key rows returningId =
      .ok ⟨r.dialect.number (s.insertText rows Grid.unnumbered ++
        if returningId then r.dialect.identifierText s else ""), (s.grid rows).values⟩ := by
  have hfields : ¬ (writtenFields s rows).isEmpty = true := by simpa [writtenFields_eq] using hwritten
  -- the fields that are written are declared, so each of them has a column
  have hcolumns : (writtenFields s rows).mapM (fun f => (r.resolve ⟨key, f⟩).map (·.column)) =
      .ok ((s.written rows).map ColumnDef.columnName) := by
    rw [Outcome.mapM_eq_ok, writtenFields_eq, List.forall₂_map_left_iff, List.forall₂_map_right_iff,
      List.forall₂_same]
    intro c hc
    rw [resolve_eq hs hnames (List.mem_of_mem_filter hc)]
    rfl
  have htable : r.table key = .ok s.tableName := by
    rw [table, schema_eq hs]
    rfl
  have hidentifier : (if returningId then r.identifierClause s else pure "") =
      .ok (if returningId then r.dialect.identifierText s else "") := by
    cases returningId with
    | false => rfl
    | true => exact identifierClause_eq hs hnames
  rw [insert, insertFragment_of_ne_nil r key hrows, schema_eq hs]
  show Except.map _ (ite _ _ _) = _
  rw [if_neg hfields, hcolumns, htable, hidentifier, join_tuples]
  show Except.ok (Statement.mk _ _) = _
  rw [Fragment.params_append, Fragment.params_append, Fragment.text_append, Fragment.text_append,
    List.append_nil, List.nil_append, Schema.insertText]
  rfl

/-- **The row grid.**

No rows and rows that set no declared field are refused.  All others are written line by line into
the columns of the declared fields that some row sets, `NULL` for what is not set or null, and the
parameters are the values of the other cells in the same order.  Nothing follows the grid but the
clause for the identifier.  In a PostgreSQL text with balanced names the cells are numbered from 1
on. -/
theorem insert_eq_grid (rows : List InsertRow) (returningId : Bool) :
    (r.insert key rows returningId = .error .emptyBatch ↔ rows = []) ∧
      (r.insert key rows returningId = .error .nothingToWrite ↔
        rows ≠ [] ∧ ∀ row ∈ rows, ∀ c ∈ s.columns, row.value? c.field = none) ∧
      ((∃ row ∈ rows, ∃ c ∈ s.columns, (row.value? c.field).isSome) →
        r.insert key rows returningId = .ok
            ⟨r.dialect.number (s.insertText rows (fun _ => "?") ++
              if returningId then r.dialect.identifierText s else ""),
            rows.flatMap fun row => (s.written rows).filterMap fun c => row.bound? c.field⟩ ∧
          (r.dialect = .postgres → s.Balanced → r.insert key rows returningId = .ok
            ⟨s.insertText rows (fun n => "$" ++ toString n) ++
              if returningId then r.dialect.identifierText s else "",
            rows.flatMap fun row => (s.written rows).filterMap fun c => row.bound? c.field⟩)) := by
  have hsome : s.written rows ≠ [] ↔
      ∃ row ∈ rows, ∃ c ∈ s.columns, (row.value? c.field).isSome := by
    simp [Schema.written_eq_nil, Option.isSome_iff_ne_none]
  have hnil : rows = [] → s.written rows = [] := by
    rintro rfl
    exact Schema.written_eq_nil.2 (List.forall_mem_nil _)
  rw [← Schema.written_eq_nil, ← hsome, ← Schema.values_grid]
  by_cases hrows : rows = []
  · -- the check for rows comes before the one for fields
    have hempty : r.insert key rows returningId = .error .emptyBatch := by rw [hrows, insert_nil]
    rw [hempty]
    exact ⟨by simp [hrows], by simp [hrows], fun h => absurd (hnil hrows) h⟩
  by_cases hwritten : s.written rows = []
  · rw [insert_of_written_eq_nil hs hrows hwritten]
    exact ⟨by simp [hrows], by simp [hrows, hwritten], fun h => absurd hwritten h⟩
  have hinsert := insert_of_written_ne_nil hs hnames hrows hwritten returningId
  refine ⟨by simp [hinsert, hrows], by simp [hinsert, hwritten], fun _ => ⟨hinsert, ?_⟩⟩
  -- nothing that is balanced changes where a number stands, so only the cells are numbered
  intro hdialect hbalanced
  have hclause : Placeholder.Balanced
      (if returningId then r.dialect.identifierText s else "") := by
    split
    · exact hbalanced.identifierText r.dialect
    · decide
  rw [hinsert, hdialect, Placeholder.number_eq_numberText rfl, ← hdialect,
    Schema.numberText_insertText hbalanced rows hclause, hdialect]
  rfl

end

/-- A table with an identifier. -/
def ledger : Schema :=
  { key := "Entry", typeName := "Entry", table := some "ledger",
    columns := [{ field := "id", column := some "id", tags := "primary" },
      { field := "note", column := some "note" }, { field := "amount", column := some "amount" }] }

/-- Two rows that set different fields: null, a field that is set twice, and one that is not
declared. -/
def entries : List InsertRow :=
  [[("note", some (.text "a")), ("amount", some .null)],
    [("amount", some (.int 3)), ("ghost", some (.int 9)), ("amount", some (.int 4)), ("note", none)]]

theorem insert_entries :
    (Catalog.mk [ledger]).schema? "Entry" = some ledger ∧ (ledger.columns.map (·.field)).Nodup ∧
      (Renderer.mk ⟨[ledger]⟩ .postgres).insert "Entry" entries true =
        .ok ⟨"INSERT INTO ledger (note, amount) VALUES ($1, NULL), (NULL, $2) RETURNING id",
          [.text "a", .int 3]⟩ := by
  have hschema : (Catalog.mk [ledger]).schema? "Entry" = some ledger := rfl
  have hnames : (ledger.columns.map (·.field)).Nodup := by decide
  have hbalanced : ledger.Balanced := ⟨by decide, by decide⟩
  obtain ⟨-, -, hinsert⟩ :=
    insert_eq_grid (r := ⟨⟨[ledger]⟩, .postgres⟩) hschema hnames entries true
  obtain ⟨-, hpostgres⟩ := hinsert (by decide)
  exact ⟨hschema, hnames, hpostgres rfl hbalanced⟩

end Renderer

end EntitySql
