import EntitySql.Proofs.RoundTrip
import EntitySql.Proofs.RowGrid
import EntitySql.Proofs.Statement.Filter
import EntitySql.Session.Terminal

/-!
# Columns of a saved record

A record is saved for the first time by an insert, and later by an update.  Both write the same
columns in the same order, `NULL` into the same ones of them and the same parameters into the others
(`Renderer.insert_update_columns`).

An insert looks up each declared field in the row, an update goes through the values of the record.
They meet because the record lists a value, or none, for each declared field, in the order of their
declaration: so the `Schema.writes` of a row, which are read off the schema, are the values that the
record has set (`Record.writes_values`).
-/

namespace EntitySql

/-! ### What is written -/

/-- Columns with the values that are written into them. -/
abbrev Writes := List (ColumnDef × Value)

namespace Writes

variable (ws : Writes)

/-- The names of the columns. -/
def columns : List String := ws.map (·.1.columnName)

/-- What the columns are set to: a value that is bound, or null. -/
def cells : List (Option Value) := ws.map (·.2.bound?)

/-- The values that are bound. -/
def params : List Value := ws.cells.reduceOption

/-- What stands for the values: `NULL`, or the marks in their order. -/
def marks (mark : Nat → String) : List String := Grid.cellTexts mark 0 ws.cells

/-- The text of an insert into a table. -/
def insertText (mark : Nat → String) (table : String) : String :=
  "INSERT INTO " ++ table ++ " (" ++ ", ".intercalate ws.columns ++ ") VALUES (" ++
    ", ".intercalate (ws.marks mark) ++ ")"

/-- A column that is set to what a text stands for. -/
def setText (column text : String) : String := column ++ " = " ++ text

/-- The text of an update of a table, without its conditions. -/
def updateText (mark : Nat → String) (table : String) : String :=
  "UPDATE " ++ table ++ " SET " ++ ", ".intercalate (ws.columns.zipWith setText (ws.marks mark))

theorem marks_unnumbered : ws.marks Grid.unnumbered = ws.map (·.2.mark) := by
  have hcells : ∀ n, Grid.cellTexts Grid.unnumbered n ws.cells = ws.map (·.2.mark) := by
    induction ws with
    | nil => exact fun _ => rfl
    | cons w ws ih =>
      intro n
      show Grid.cellTexts _ n (w.2.bound? :: cells ws) = w.2.mark :: _
      rw [Value.bound?, Value.mark]
      cases w.2.isNull with
      | true => exact congrArg _ (ih n)
      | false => exact congrArg _ (ih (n + 1))
  exact hcells 0

theorem params_eq_flatMap : ws.params = ws.flatMap fun w => w.2.bound?.toList := by
  induction ws with
  | nil => rfl
  | cons w ws ih =>
    show List.reduceOption (w.2.bound? :: cells ws) = _
    rw [List.flatMap_cons, ← ih]
    cases w.2.bound? <;> rfl

end Writes

namespace Schema

variable (s : Schema) (row : InsertRow)

/-- The columns of the declared fields that a row sets, with the values that it sets. -/
def writes : Writes := s.columns.filterMap fun c => (row.value? c.field).map (c, ·)

theorem written_singleton : s.written [row] = (s.writes row).map (·.1) := by
  rw [written, writes, List.map_filterMap, ← List.filterMap_eq_filter]
  refine List.filterMap_congr fun c _ => ?_
  cases hv : row.value? c.field <;> simp [Option.guard, hv]

/-- Columns are written in the order of their declaration. -/
theorem sublist_writes : ((s.writes row).map (·.1)).Sublist s.columns := by
  rw [← written_singleton]
  exact List.filter_sublist

theorem grid_singleton : s.grid [row] = [(s.writes row).cells] := by
  show [(s.written [row]).map fun c => row.bound? c.field] = _
  refine congrArg (· :: []) ?_
  rw [written_singleton, Writes.cells, writes, List.map_map, List.map_filterMap,
    List.map_filterMap]
  refine List.filterMap_congr fun c _ => ?_
  cases hv : row.value? c.field with
  | none => rfl
  | some v =>
    refine congrArg some ?_
    show row.bound? c.field = v.bound?
    rw [InsertRow.bound?, hv, Option.filter_some, Value.bound?]
    cases v.isNull <;> rfl

theorem insertText_singleton (mark : Nat → String) :
    s.insertText [row] mark = (s.writes row).insertText mark s.tableName := by
  have hcolumns : (s.written [row]).map ColumnDef.columnName = (s.writes row).columns := by
    rw [written_singleton, List.map_map]
    rfl
  have hline : ", ".intercalate ((s.grid [row]).texts mark 0) =
      "(" ++ ", ".intercalate ((s.writes row).marks mark) ++ ")" := by
    rw [grid_singleton, Grid.texts, Grid.texts, String.intercalate_singleton]
    rfl
  -- the parenthesis that opens the line stands behind `VALUES`
  have hopen : ∀ start : String, start ++ ") VALUES " ++ "(" = start ++ ") VALUES (" := by
    intro start
    rw [String.append_assoc]
    exact congrArg (start ++ ·) (by decide : ") VALUES " ++ "(" = ") VALUES (")
  show "INSERT INTO " ++ s.tableName ++ " (" ++
    ", ".intercalate ((s.written [row]).map ColumnDef.columnName) ++ ") VALUES " ++
      ", ".intercalate ((s.grid [row]).texts mark 0) = _
  rw [hcolumns, hline, ← String.append_assoc, ← String.append_assoc, hopen]
  rfl

end Schema

/-! ### Numbering an update -/

namespace Writes

open Placeholder

section

variable {column : String} (hcolumn : Balanced column) (text : String)
include hcolumn

theorem balanced_setStart : Balanced (column ++ " = ") := hcolumn.append (by decide)

theorem after_setText : after none (setText column text).toList = after none text.toList :=
  after_toList_append (balanced_setStart hcolumn).1 text

theorem count_setText : count none (setText column text).toList = count none text.toList := by
  have hstart := balanced_setStart hcolumn
  rw [setText, count_toList_append hstart.1, hstart.2, Nat.zero_add]

theorem numberText_setText (mark : Nat → String) (n : Nat) :
    numberText mark n (setText column text) = setText column (numberText mark n text) := by
  have hstart := balanced_setStart hcolumn
  rw [setText, numberText_append mark hstart.1, numberText_of_balanced mark hstart, hstart.2]
  rfl

end

section

variable {columns : List String} (hcolumns : ∀ c ∈ columns, Balanced c)
include hcolumns

theorem after_setTexts {texts : List String} (htexts : ∀ t ∈ texts, after none t.toList = none) :
    ∀ t ∈ columns.zipWith setText texts, after none t.toList = none := by
  induction columns generalizing texts with
  | nil => exact List.forall_mem_nil _
  | cons column columns ih =>
    obtain ⟨hcolumn, hcolumns⟩ := List.forall_mem_cons.1 hcolumns
    cases texts with
    | nil => exact List.forall_mem_nil _
    | cons text texts =>
      obtain ⟨htext, htexts⟩ := List.forall_mem_cons.1 htexts
      exact List.forall_mem_cons.2
        ⟨(after_setText hcolumn text).trans htext, ih hcolumns htexts⟩

/-- The names of the columns have no placeholders of their own. -/
theorem count_setTexts {texts : List String} (hlength : columns.length = texts.length) :
    (columns.zipWith setText texts).map (fun t => count none t.toList) =
      texts.map fun t => count none t.toList := by
  induction columns generalizing texts with
  | nil =>
    obtain rfl := List.length_eq_zero_iff.1 hlength.symm
    rfl
  | cons column columns ih =>
    obtain ⟨hcolumn, hcolumns⟩ := List.forall_mem_cons.1 hcolumns
    cases texts with
    | nil => cases hlength
    | cons text texts =>
      rw [List.zipWith_cons_cons, List.map_cons, List.map_cons, count_setText hcolumn,
        ih hcolumns (Nat.succ.inj hlength)]

theorem numberEach_setTexts (mark : Nat → String) (n : Nat) (texts : List String) :
    numberEach mark n (columns.zipWith setText texts) =
      columns.zipWith setText (numberEach mark n texts) := by
  induction columns generalizing n texts with
  | nil => rfl
  | cons column columns ih =>
    obtain ⟨hcolumn, hcolumns⟩ := List.forall_mem_cons.1 hcolumns
    cases texts with
    | nil => rfl
    | cons text texts =>
      rw [List.zipWith_cons_cons, numberEach, numberText_setText hcolumn, count_setText hcolumn,
        ih hcolumns, numberEach, List.zipWith_cons_cons]

end

theorem length_marks (ws : Writes) (mark : Nat → String) :
    (ws.marks mark).length = ws.columns.length := by
  have hcells : ∀ (n : Nat) (cells : List (Option Value)),
      (Grid.cellTexts mark n cells).length = cells.length := by
    intro n cells
    induction cells generalizing n with
    | nil => rfl
    | cons cell cells ih => cases cell <;> exact congrArg Nat.succ (ih _)
  rw [marks, hcells, cells, columns, List.length_map, List.length_map]

/-- Numbering an update writes the marks of the dialect into it, and goes on behind them. -/
theorem numberText_updateText {ws : Writes} (hcolumns : ∀ c ∈ ws.columns, Balanced c)
    {table : String} (htable : Balanced table) (mark : Nat → String) (clause : String) :
    numberText mark 0 (ws.updateText Grid.unnumbered table ++ clause) =
      ws.updateText mark table ++ numberText mark ws.params.length clause := by
  have hmarks : ∀ t ∈ ws.marks Grid.unnumbered, after none t.toList = none :=
    Grid.after_cellTexts 0 ws.cells
  have hsets := after_setTexts hcolumns hmarks
  have hstart : Balanced ("UPDATE " ++ table ++ " SET ") :=
    ((show Balanced "UPDATE " by decide).append htable).append (by decide)
  have hcount : count none (", ".intercalate
      (ws.columns.zipWith setText (ws.marks Grid.unnumbered))).toList = ws.params.length := by
    rw [count_intercalate Grid.balanced_separator hsets,
      count_setTexts hcolumns (ws.length_marks _).symm]
    exact Grid.count_cellTexts 0 ws.cells
  -- no mark stands in front of the columns, so their numbers begin with the first one
  rw [updateText, String.append_assoc, numberText_append mark hstart.1,
    numberText_of_balanced mark hstart, hstart.2,
    numberText_append mark (after_intercalate Grid.balanced_separator hsets), Nat.zero_add, hcount,
    numberText_intercalate mark Grid.balanced_separator hsets, numberEach_setTexts hcolumns, marks,
    Grid.numberEach_cellTexts, ← String.append_assoc, Nat.zero_add]
  rfl

end Writes

namespace Schema

variable {s : Schema} (hs : s.Balanced) {d : Dialect} (hd : d.numbered = true) (row : InsertRow)
include hs hd

/-- A numbered insert of what a row writes. -/
theorem number_insertText (returningId : Bool) :
    d.number ((s.writes row).insertText Grid.unnumbered s.tableName ++
        if returningId then d.identifierText s else "") =
      (s.writes row).insertText d.placeholder s.tableName ++
        if returningId then d.identifierText s else "" := by
  have hclause : Placeholder.Balanced (if returningId then d.identifierText s else "") := by
    split
    · exact hs.identifierText d
    · decide
  rw [Placeholder.number_eq_numberText hd, ← insertText_singleton, numberText_insertText hs [row]
    hclause, insertText_singleton]

/-- A numbered update with what a row writes. -/
theorem number_updateText (clause : String) :
    d.number ((s.writes row).updateText Grid.unnumbered s.tableName ++ clause) =
      (s.writes row).updateText d.placeholder s.tableName ++
        Placeholder.numberText d.placeholder (s.writes row).params.length clause := by
  have hcolumns : ∀ c ∈ (s.writes row).columns, Placeholder.Balanced c :=
    List.forall_mem_map.2 fun w hw =>
      hs.2 w.1 ((s.sublist_writes row).subset (List.mem_map_of_mem hw))
  rw [Placeholder.number_eq_numberText hd, Writes.numberText_updateText hcolumns hs.1]

end Schema

/-! ### The values of a record -/

/-- A row that lists no field twice lists for each field its value. -/
theorem InsertRow.eq_map_value? {row : InsertRow} (h : (row.map (·.1)).Nodup) :
    row = (row.map (·.1)).map fun f => (f, row.value? f) := by
  rw [List.map_map]
  conv_lhs => rw [← List.map_id row]
  refine List.map_congr_left fun x hx => ?_
  -- each entry is the first one of its field
  show x = (x.1, row.value? x.1)
  rw [InsertRow.value?, find?_of_nodup h hx]
  rfl

namespace Record

variable {e : EntityType} {s : Schema}

/-- A record lists its fields in the order of their declaration. -/
theorem fields_values (record : Record e) : record.values.map (·.1) = e.fields.map (·.name) := by
  conv_rhs => rw [← List.map_get_finRange e.fields, List.map_map]
  rw [values, List.map_map]
  rfl

/-- The columns that a record writes, with its values. -/
def writes (record : Record e) (s : Schema) : Writes := s.writes record.values

variable (hnames : (e.fields.map (·.name)).Nodup)
  (hfields : s.columns.map (·.field) = e.fields.map (·.name)) (record : Record e)
include hnames hfields

/-- What is written of a record are the values that it has set. -/
theorem writes_values : (s.writes record.values).map (fun w => (w.1.field, w.2)) =
    record.values.filterMap fun x => x.2.map (x.1, ·) := by
  have hrow : (record.values.map (·.1)).Nodup := by
    rw [fields_values]
    exact hnames
  -- the row is listed by the columns of the schema, as what is written is
  conv_rhs => rw [InsertRow.eq_map_value? hrow, fields_values, ← hfields]
  rw [Schema.writes, List.map_filterMap, List.map_map, List.filterMap_map]
  refine List.filterMap_congr fun c _ => ?_
  show Option.map _ (Option.map _ _) = Option.map _ (InsertRow.value? record.values c.field)
  rw [Option.map_map]
  rfl

/-- The changes of an update are what the record writes. -/
theorem assignments_eq : record.assignments =
    (s.writes record.values).map fun w => .set ⟨e.key, w.1.field⟩ w.2 := by
  have hwrites := congrArg (List.map fun x => Assignment.set ⟨e.key, x.1⟩ x.2)
    (writes_values hnames hfields record)
  rw [List.map_map] at hwrites
  refine Eq.trans ?_ hwrites.symm
  rw [assignments, List.map_filterMap]
  refine List.filterMap_congr fun x _ => ?_
  rw [Option.map_map]
  rfl

/-- The values that are written are those of the fields that are set, in their order. -/
theorem writes_eq_filterMap : (s.writes record.values).map (fun w => (w.1.field, w.2)) =
    (List.finRange e.fields.length).filterMap fun i =>
      (record.value? i).map ((e.field i).name, ·) := by
  rw [writes_values hnames hfields, values, List.filterMap_map]
  rfl

/-- A field that is not set is not written. -/
theorem not_mem_writes {i : e.Place} (h : record.value? i = none) :
    (e.field i).name ∉ (s.writes record.values).map (·.1.field) := by
  intro hmem
  obtain ⟨w, hw, hname⟩ := List.mem_map.1 hmem
  have hpair : (w.1.field, w.2) ∈ (s.writes record.values).map fun w => (w.1.field, w.2) :=
    List.mem_map_of_mem hw
  rw [writes_eq_filterMap hnames hfields] at hpair
  obtain ⟨j, -, hj⟩ := List.mem_filterMap.1 hpair
  obtain ⟨v, hv, heq⟩ := Option.map_eq_some_iff.1 hj
  obtain ⟨hfield, -⟩ := Prod.mk.inj heq
  -- the field that is written has the place of the one that is not set
  have hplace : e.place? (e.field i).name = some j := by
    rw [← hname, ← hfield, EntityType.place?_name hnames]
  obtain rfl := Option.some.inj ((EntityType.place?_name hnames i).symm.trans hplace)
  rw [h] at hv
  cases hv

end Record

/-! ### The two statements -/

namespace Renderer

section

variable {r : Renderer} {e : EntityType} {s : Schema} (hs : r.catalog.schema? e.key = some s)
include hs

section

variable (hdistinct : (s.columns.map (·.field)).Nodup)
include hdistinct

/-- An insert of one row is what its record writes. -/
theorem insert_eq_writes {row : InsertRow} (hwrites : s.writes row ≠ []) (returningId : Bool) :
    r.insert e.key [row] returningId =
      .ok ⟨r.dialect.number ((s.writes row).insertText Grid.unnumbered s.tableName ++
        if returningId then r.dialect.identifierText s else ""), (s.writes row).params⟩ := by
  have hwritten : s.written [row] ≠ [] := by
    rw [Schema.written_singleton]
    exact fun h => hwrites (List.map_eq_nil_iff.1 h)
  have hvalues : (s.grid [row]).values = (s.writes row).params := by
    rw [Schema.grid_singleton, Grid.values, List.flatMap_singleton]
    rfl
  rw [insert_of_written_ne_nil hs hdistinct (List.cons_ne_nil row []) hwritten, hvalues,
    Schema.insertText_singleton]

/-- The changes of written columns are rendered one by one. -/
theorem mapM_assignment {ws : Writes} (hws : ∀ w ∈ ws, w.1 ∈ s.columns) :
    (ws.map fun w => Assignment.set ⟨e.key, w.1.field⟩ w.2).mapM r.assignment =
      .ok (ws.map fun w => ⟨Writes.setText w.1.columnName w.2.mark, w.2.bound?.toList⟩) := by
  rw [Outcome.mapM_eq_ok, List.forall₂_map_left_iff, List.forall₂_map_right_iff, List.forall₂_same]
  intro w hw
  rw [r.assignment_eq, Assignment.field, resolve_eq hs hdistinct (hws w hw)]
  rfl

theorem update_eq_writes {ws : Writes} (hws : ∀ w ∈ ws, w.1 ∈ s.columns) (hne : ws ≠ [])
    {q : Query} (hq : q.clauses.table = e.key) {filter : Fragment}
    (hfilter : r.whereClause (r.opened q) = .ok filter) :
    r.update q (ws.map fun w => .set ⟨e.key, w.1.field⟩ w.2) =
      .ok ⟨r.dialect.number (ws.updateText Grid.unnumbered s.tableName ++ filter.text),
        ws.params ++ filter.params⟩ := by
  have htable : r.table q.clauses.table = .ok s.tableName := by
    rw [hq, table, schema_eq hs]
    rfl
  -- the table and the filter are the scope of the update
  have hscope : r.scope q = .ok (s.tableName, filter) := scope_eq_ok.2 ⟨htable, hfilter⟩
  have hchanges : (ws.map fun w => Assignment.set ⟨e.key, w.1.field⟩ w.2) ≠ [] :=
    fun h => hne (List.map_eq_nil_iff.1 h)
  have hparams : (Fragment.join ", " (ws.map fun w =>
      ⟨Writes.setText w.1.columnName w.2.mark, w.2.bound?.toList⟩)).params = ws.params := by
    rw [Fragment.params_join, List.flatMap_map, ws.params_eq_flatMap]
  have htexts : ws.map (fun w => Writes.setText w.1.columnName w.2.mark) =
      ws.columns.zipWith Writes.setText (ws.marks Grid.unnumbered) := by
    rw [Writes.columns, Writes.marks_unnumbered, List.zipWith_map, List.zipWith_self]
  rw [update_eq_scope hchanges (mapM_assignment hs hdistinct hws), hscope]
  show Except.ok (Statement.mk (r.dialect.number (_ ++ (Fragment.join ", " _).text ++ filter.text))
    ([] ++ (Fragment.join ", " _).params ++ filter.params)) = _
  rw [List.nil_append, hparams, Fragment.text_join, List.map_map, Writes.updateText, ← htexts]
  rfl

end

/-- **One list of columns** for inserting a record and updating with it.

What is written are the values that the record has set, in the order of the schema, and nothing of
the other fields.  If there are none both statements are refused.  Otherwise both name the columns
of these values, have `NULL` or a placeholder for them, and bind the same ones; an update binds the
parameters of its conditions behind them.  Where placeholders are numbered and names are balanced,
those of the values are numbered from 1 on in both. -/
theorem insert_update_columns {d : Declaration FieldType} (hd : d.mapping = .ok e.mapping)
    (hfields : s.columns.map (·.field) = e.fields.map (·.name)) (record : Record e) {q : Query}
    (hq : q.clauses.table = e.key) {filter : Fragment}
    (hfilter : r.whereClause (r.opened q) = .ok filter) (returningId : Bool) :
    (record.writes s).map (fun w => (w.1.field, w.2)) =
        (List.finRange e.fields.length).filterMap (fun i =>
          (record.value? i).map ((e.field i).name, ·)) ∧
      ((record.writes s).map (·.1)).Sublist s.columns ∧
      (∀ i, record.value? i = none → (e.field i).name ∉ (record.writes s).map (·.1.field)) ∧
      (r.insert e.key [record.values] returningId = .error .nothingToWrite ↔
        r.update q record.assignments = .error .nothingToWrite) ∧
      (r.insert e.key [record.values] returningId ≠ .error .nothingToWrite →
        r.insert e.key [record.values] returningId =
            .ok ⟨r.dialect.number ((record.writes s).insertText (fun _ => "?") s.tableName ++
                if returningId then r.dialect.identifierText s else ""),
              (record.writes s).params⟩ ∧
          r.update q record.assignments =
            .ok ⟨r.dialect.number ((record.writes s).updateText (fun _ => "?") s.tableName ++
                filter.text),
              (record.writes s).params ++ filter.params⟩ ∧
          (r.dialect.numbered = true → s.Balanced →
            r.insert e.key [record.values] returningId =
                .ok ⟨(record.writes s).insertText r.dialect.placeholder s.tableName ++
                    if returningId then r.dialect.identifierText s else "",
                  (record.writes s).params⟩ ∧
              r.update q record.assignments =
                .ok ⟨(record.writes s).updateText r.dialect.placeholder s.tableName ++
                    Placeholder.numberText r.dialect.placeholder (record.writes s).params.length
                      filter.text,
                  (record.writes s).params ++ filter.params⟩)) := by
  have hnames : (e.fields.map (·.name)).Nodup := Declaration.nodup_names hd
  have hdistinct : (s.columns.map (·.field)).Nodup := by
    rw [hfields]
    exact hnames
  have hsublist := s.sublist_writes record.values
  refine ⟨record.writes_eq_filterMap hnames hfields, hsublist,
    fun i => record.not_mem_writes hnames hfields, ?_⟩
  rw [record.assignments_eq hnames hfields, Record.writes]
  by_cases hwrites : s.writes record.values = []
  · -- an update is refused before its conditions are looked at
    have hinsert : r.insert e.key [record.values] returningId = .error .nothingToWrite := by
      refine insert_of_written_eq_nil hs (List.cons_ne_nil _ _) ?_ returningId
      rw [Schema.written_singleton, hwrites, List.map_nil]
    have hupdate : r.update q [] = .error .nothingToWrite := rfl
    rw [hinsert, hwrites, List.map_nil, hupdate]
    exact ⟨Iff.rfl, fun h => absurd rfl h⟩
  -- from here on both statements are written from the same list of columns
  have hcolumns : ∀ w ∈ s.writes record.values, w.1 ∈ s.columns :=
    fun w hw => hsublist.subset (List.mem_map_of_mem hw)
  rw [insert_eq_writes hs hdistinct hwrites returningId,
    update_eq_writes hs hdistinct hcolumns hwrites hq hfilter]
  refine ⟨iff_of_false nofun nofun, fun _ => ⟨rfl, rfl, fun hnumbered hbalanced => ?_⟩⟩
  rw [Schema.number_insertText hbalanced hnumbered, Schema.number_updateText hbalanced hnumbered]
  exact ⟨rfl, rfl⟩

end

open Record (account accountDeclaration newAccount)

/-- The accounts above a level. -/
def accountsAbove (level : Value) : Query :=
  .of { table := account.key,
        wheres := [⟨.field none ⟨account.key, "level"⟩, .gt, .value level⟩] }

/-- The new account has no identifier and no type: the one is not written, the other is null. -/
theorem insert_update_newAccount :
    accountDeclaration.mapping = .ok account.mapping ∧
      (Catalog.mk [account.schema]).schema? account.key = some account.schema ∧
      (Renderer.mk ⟨[account.schema]⟩ .postgres).whereClause
          (Renderer.opened ⟨⟨[account.schema]⟩, .postgres⟩ (accountsAbove (.int 7))) =
        .ok ⟨" WHERE level > ?", [.int 7]⟩ ∧
      (Renderer.mk ⟨[account.schema]⟩ .postgres).insert account.key [newAccount.values] false =
        .ok ⟨"INSERT INTO account (level, ratio, kind) VALUES ($1, $2, NULL)",
          [.int 0, .float ⟨0x3ff8000000000000⟩]⟩ ∧
      (Renderer.mk ⟨[account.schema]⟩ .postgres).update (accountsAbove (.int 7))
          newAccount.assignments =
        .ok ⟨"UPDATE account SET level = $1, ratio = $2, kind = NULL WHERE level > $3",
          [.int 0, .float ⟨0x3ff8000000000000⟩, .int 7]⟩ := by
  have hmapping : accountDeclaration.mapping = .ok account.mapping := rfl
  have hschema : (Catalog.mk [account.schema]).schema? account.key = some account.schema := rfl
  have hfields : account.schema.columns.map (·.field) = account.fields.map (·.name) := rfl
  have hfilter : (Renderer.mk ⟨[account.schema]⟩ .postgres).whereClause
      (Renderer.opened ⟨⟨[account.schema]⟩, .postgres⟩ (accountsAbove (.int 7))) =
        .ok ⟨" WHERE level > ?", [.int 7]⟩ := rfl
  have hbalanced : account.schema.Balanced := ⟨by decide, by decide⟩
  obtain ⟨-, -, -, -, hwrites⟩ := insert_update_columns
    (r := ⟨⟨[account.schema]⟩, .postgres⟩) hschema hmapping hfields newAccount
    (q := accountsAbove (.int 7)) rfl hfilter false
  obtain ⟨-, -, hnumbered⟩ := hwrites nofun
  obtain ⟨hinsert, hupdate⟩ := hnumbered rfl hbalanced
  exact ⟨hmapping, hschema, hfilter, hinsert, hupdate⟩

end Renderer

end EntitySql
