import EntitySql.Entity.Binding
import EntitySql.Proofs.Declared
import EntitySql.Proofs.ReadBack
import EntitySql.Proofs.Schema.LookUp
import EntitySql.Statement.Write

/-!
# Reading back what was written

A record is written as one cell for each mapped field, null for a field that is not set
(`Record.stored`).  Reading a row of these cells gives the record again, whatever the order of the
columns is and whatever columns of no field are between them (`Record.bindRow_eq`).

What carries the proof is that each column of the row either belongs to no field, or is read as what
the record holds in its field.  So binding leaves a field as it was until its column comes, and from
then on it holds what the record does (`Record.exists_foldlM_bindNext`).

How cells are read is up to the database, so the reader is a parameter.  What is asked of it is that
each scalar of the record is read from the value that it is written as (`Record.ReadsBack`).  For a
reader that takes each cell as the value that it is, this fails only for a NaN that is written as
another one (`Record.readsBack_iff_quiet`).
-/

namespace EntitySql

/-! ### Fields -/

namespace FieldType

/-- The type of the scalar in a field. -/
@[reducible] def scalarType : FieldType → ScalarType
  | .plain t | .optional t | .presence t => t

/-- The scalar that a field holds, if it holds one. -/
def held? : (t : FieldType) → t.Carrier → Option t.scalarType.Carrier
  | .plain _, a => some a
  | .optional _, o => o
  | .presence _, p => p.val.get?

variable (reader : CellReader)

/-- The scalar of a field is read from the value that it is written as. -/
def ReadsBack (t : FieldType) (a : t.Carrier) : Prop :=
  ∀ x ∈ t.held? a, reader.read? t.scalarType (Scalar.toValue x) = some x

variable {reader}

/-- What a field writes is read as what it holds; null is read where it writes nothing. -/
theorem read?_written {t : FieldType} {a : t.Carrier} (hreads : t.ReadsBack reader a) :
    t.read? reader ((t.written a).getD .null) = some a := by
  cases t with
  | plain t => exact hreads a rfl
  | optional t =>
    cases a with
    | none => rfl
    | some x =>
      have hx : reader.read? t (Scalar.toValue x) = some x := hreads x rfl
      show Value.readOption? (reader.read? t) (Scalar.toValue x) = some (some x)
      rw [Value.readOption?_of_ne_null _ (t.toValue_ne_null x), hx, Option.map_some]
  | presence t =>
    obtain ⟨⟨x, present⟩, hzeroed⟩ := a
    cases present with
    | false =>
      -- nothing is written, and null is read as absent with the zero
      obtain rfl : x = Initial.zero := hzeroed rfl
      rfl
    | true =>
      have hx : reader.read? t (Scalar.toValue x) = some x := hreads x rfl
      have hcell : Presence.ofCell? (reader.read? t) (Scalar.toValue x) = some (.new x) := by
        rw [Presence.ofCell?_of_ne_null _ (t.toValue_ne_null x), hx, Option.map_some]
      exact (Option.attachWith_eq_some_iff _).2 hcell

end FieldType

namespace EntityType

theorem columns_schema (e : EntityType) :
    e.schema.columns = (List.finRange e.fields.length).map fun i => (e.field i).columnDef := by
  show e.fields.map MappedField.columnDef = _
  conv_lhs => rw [← List.map_get_finRange e.fields, List.map_map]
  rfl

variable {e : EntityType} (hnames : (e.fields.map (·.name)).Nodup)
include hnames

/-- The fields of a type differ in their names, so each of them is found by its name. -/
theorem place?_name (i : e.Place) : e.place? (e.field i).name = some i := by
  have hplaces : ((List.finRange e.fields.length).map fun i => (e.field i).name).Nodup := by
    rw [← List.map_get_finRange e.fields, List.map_map] at hnames
    exact hnames
  exact find?_of_nodup hplaces (List.mem_finRange i)

end EntityType

namespace Record

variable {e : EntityType}

/-- Every scalar that the record holds is read from the value that it is written as. -/
def ReadsBack (reader : CellReader) (r : Record e) : Prop :=
  ∀ i, (e.field i).type.ReadsBack reader (r.get i)

/-- No field holds a NaN that is written as another one. -/
def Quiet (r : Record e) : Prop :=
  ∀ i, ∀ x ∈ (e.field i).type.held? (r.get i), ¬ (e.field i).type.scalarType.Signalling x

/-- Nothing else keeps a record from being read back where each cell is read as what it is. -/
theorem readsBack_iff_quiet {r : Record e} : r.ReadsBack .exact ↔ r.Quiet :=
  forall_congr' fun _ => forall₂_congr fun x _ => ScalarType.ofValue?_toValue _ x

/-- The cells that a record is written as, null for what it does not write. -/
def stored (r : Record e) : ResultRow :=
  e.schema.columns.map fun c => (c.columnName, (InsertRow.value? r.values c.field).getD .null)

section

variable (hnames : (e.fields.map (·.name)).Nodup)
include hnames

/-- What is listed for a field is what it writes. -/
theorem value?_values (r : Record e) (i : e.Place) :
    InsertRow.value? r.values (e.field i).name = r.value? i := by
  have hfind : r.values.find? (·.1 == (e.field i).name) = some ((e.field i).name, r.value? i) := by
    rw [values, List.find?_map]
    have hplace := EntityType.place?_name hnames i
    rw [EntityType.place?] at hplace
    exact congrArg _ hplace
  rw [InsertRow.value?, hfind]
  rfl

theorem stored_eq (r : Record e) : r.stored = (List.finRange e.fields.length).map fun i =>
    ((e.field i).columnDef.columnName, (r.value? i).getD .null) := by
  rw [stored, e.columns_schema, List.map_map]
  refine List.map_congr_left fun i _ => ?_
  show (_, (InsertRow.value? r.values (e.field i).name).getD .null) = _
  rw [value?_values hnames]

end

/-! ### Binding -/

section

/-- A column with its index is read into a field as what a record holds there. -/
def Reads (goal : Record e) (reader : CellReader) (row : ResultRow)
    (column : Option String × Nat) (i : e.Place) : Prop :=
  ∃ name, column.1 = some name ∧ e.place? name = some i ∧
    row.decode ((e.field i).type.read? reader) column.2 = .ok (goal.get i)

variable {goal : Record e} {reader : CellReader} {row : ResultRow}

theorem bindNext_of_reads {column : Option String × Nat} {i : e.Place}
    (h : goal.Reads reader row column i) (r : Record e) :
    bindNext reader row r column = .ok (r.set i (goal.get i)) := by
  obtain ⟨name, hname, hplace, hdecode⟩ := h
  obtain ⟨field?, index⟩ := column
  obtain rfl : field? = some name := hname
  show (r.bindColumn? name row index reader).map _ = _
  rw [bindColumn?, hplace]
  simp only at hdecode ⊢
  rw [hdecode]
  rfl

/-- Columns of no field and columns that are read as what a record holds: binding them leaves each
field as it was, if none of them is read into it, and makes it that of the record otherwise. -/
theorem exists_foldlM_bindNext {columns : List (Option String × Nat)}
    (h : ∀ column ∈ columns, column.1 = none ∨ ∃ i, goal.Reads reader row column i) (r : Record e) :
    ∃ r', columns.foldlM (bindNext reader row) r = .ok r' ∧ r'.unmapped = r.unmapped ∧
      ∀ i, r'.get i = goal.get i ∨
        r'.get i = r.get i ∧ ∀ column ∈ columns, ¬ goal.Reads reader row column i := by
  induction columns generalizing r with
  | nil => exact ⟨r, rfl, rfl, fun i => .inr ⟨rfl, List.forall_mem_nil _⟩⟩
  | cons column columns ih =>
    obtain ⟨hcolumn, hcolumns⟩ := List.forall_mem_cons.1 h
    rw [List.foldlM_cons]
    rcases hcolumn with hnone | ⟨i, hi⟩
    · -- skipped: what holds of the other columns holds of all
      obtain ⟨r', hr', hunmapped, hget⟩ := ih hcolumns r
      have hskip : bindNext reader row r column = .ok r := by rw [bindNext, hnone]
      refine ⟨r', by rw [hskip]; exact hr', hunmapped, fun j => ?_⟩
      refine (hget j).imp_right fun ⟨hsame, hrest⟩ => ⟨hsame, List.forall_mem_cons.2 ⟨?_, hrest⟩⟩
      rintro ⟨name, hname, -⟩
      rw [hnone] at hname
      cases hname
    · -- read into the place `i`, which a later column may be read into once more
      obtain ⟨r', hr', hunmapped, hget⟩ := ih hcolumns (r.set i (goal.get i))
      refine ⟨r', by rw [bindNext_of_reads hi]; exact hr', hunmapped, fun j => ?_⟩
      rcases hget j with hgoal | ⟨hsame, hrest⟩
      · exact .inl hgoal
      by_cases hij : i = j
      · subst hij
        exact .inl (hsame.trans (get_set_same r i _))
      · refine .inr ⟨hsame.trans (get_set_other r _ hij), List.forall_mem_cons.2 ⟨?_, hrest⟩⟩
        -- a column belongs to one field only
        rintro ⟨name, hname, hplace, -⟩
        obtain ⟨name', hname', hplace', -⟩ := hi
        obtain rfl : name' = name := Option.some.inj (hname'.symm.trans hname)
        exact hij (Option.some.inj (hplace'.symm.trans hplace))

/-- The columns of a row with the fields that they belong to. -/
theorem columnMap_zipIdx (s : Schema) (row : ResultRow) :
    (s.columnMap row.columns).zipIdx = row.zipIdx.map fun x => (s.fieldOf? x.1.1, x.2) := by
  rw [Schema.columnMap, ResultRow.columns, List.map_map, List.zipIdx_map]
  rfl

theorem decode_of_getElem? {α : Type} {read? : Value → Option α} {index : Nat} {name : String}
    {v : Value} {a : α} (h : row[index]? = some (name, v)) (ha : read? v = some a) :
    row.decode read? index = .ok a := by
  rw [ResultRow.decode, h]
  simp only [ha]

variable {d : Declaration FieldType} (hd : d.mapping = .ok e.mapping)
  (hcolumns : (e.schema.columns.map ColumnDef.columnName).Nodup)
include hd hcolumns

/-- The cell of a field is read into it. -/
theorem reads_of_stored {r : Record e} (hreads : r.ReadsBack reader) {index : Nat}
    {i : e.Place} (h : row[index]? =
      some ((e.field i).columnDef.columnName, (r.value? i).getD .null)) :
    r.Reads reader row (e.schema.fieldOf? (e.field i).columnDef.columnName, index) i := by
  have hmem : (e.field i).columnDef ∈ e.schema.columns :=
    List.mem_map_of_mem (List.getElem_mem i.isLt)
  exact ⟨(e.field i).name, Schema.fieldOf?_columnName hcolumns hmem,
    EntityType.place?_name (Declaration.nodup_names hd) i,
    decode_of_getElem? h (FieldType.read?_written (hreads i))⟩

/-- **Round trip** of a record.

A row with the cells of a record, in any order and with columns of no field between them, is bound
to the record itself, up to its unmapped part, by every reader that reads its scalars back. -/
theorem bindRow_eq {r : Record e} (hreads : r.ReadsBack reader)
    {extras : ResultRow} (hextras : ∀ x ∈ extras, e.schema.fieldOf? x.1 = none)
    (hrow : row.Perm (r.stored ++ extras)) :
    bindRow e row reader = .ok { r with unmapped := e.unmapped } := by
  have hstored := r.stored_eq (Declaration.nodup_names hd)
  have hcolumn : ∀ column ∈ row.zipIdx.map fun x => (e.schema.fieldOf? x.1.1, x.2),
      column.1 = none ∨ ∃ i, r.Reads reader row column i := by
    rw [List.forall_mem_map]
    rintro ⟨⟨name, v⟩, index⟩ hx
    have hindex : row[index]? = some (name, v) := List.mem_zipIdx_iff_getElem?.1 hx
    rcases List.mem_append.1 (hrow.mem_iff.1 (List.mem_of_getElem? hindex)) with hcell | hextra
    · rw [hstored] at hcell
      obtain ⟨i, -, heq⟩ := List.mem_map.1 hcell
      cases heq
      exact .inr ⟨i, reads_of_stored hd hcolumns hreads hindex⟩
    · exact .inl (hextras _ hextra)
  obtain ⟨r', hr', hunmapped, hget⟩ := exists_foldlM_bindNext hcolumn (initial e)
  -- every field has its column
  have hsame : ∀ i, r'.get i = r.get i := by
    intro i
    refine (hget i).resolve_right ?_
    rintro ⟨-, hnone⟩
    have hcell : ((e.field i).columnDef.columnName, (r.value? i).getD .null) ∈ row := by
      rw [hrow.mem_iff, hstored]
      exact List.mem_append_left _ (List.mem_map_of_mem (List.mem_finRange i))
    obtain ⟨index, hindex⟩ := List.getElem?_of_mem hcell
    have hmem : (((e.field i).columnDef.columnName, (r.value? i).getD .null), index) ∈ row.zipIdx :=
      List.mem_zipIdx_iff_getElem?.2 hindex
    exact hnone _ (List.mem_map_of_mem hmem) (reads_of_stored hd hcolumns hreads hindex)
  rw [bindRow, bindMapped, columnMap_zipIdx, hr']
  obtain ⟨get, unmapped⟩ := r'
  obtain rfl : get = r.get := funext hsame
  obtain rfl : unmapped = e.unmapped := hunmapped
  rfl

end

/-! ### A record with every kind of field -/

/-- A type with a field of every kind and one that is not mapped. -/
def accountDeclaration : Declaration FieldType where
  identifier := "Account"
  body := .record
    [⟨"id", .presence .int64, []⟩, ⟨"level", .presence .int64, []⟩, ⟨"ratio", .plain .single, []⟩,
      ⟨"r#type", .optional .text, [⟨"weft", [⟨"column", .text "kind"⟩]⟩]⟩,
      ⟨"cached", .plain .text, [⟨"weft", [⟨"ignore", .nothing⟩]⟩]⟩]

/-- The type with a text in the field that is not mapped. -/
def account : EntityType where
  modulePath := "app"
  mapping := ⟨"Account", none,
    [⟨"id", .presence .int64, "id", none, ""⟩, ⟨"level", .presence .int64, "level", none, ""⟩,
      ⟨"ratio", .plain .single, "ratio", none, ""⟩,
      ⟨"r#type", .optional .text, "type", some "kind", ""⟩]⟩
  Unmapped := String
  unmapped := ""

/-- A record without identifier, at level zero, with the ratio one and a half and of no type. -/
def newAccount : Record account where
  get
    | ⟨0, _⟩ => (⟨.absent, Presence.zeroed_absent⟩ : Presence.Kept Int64)
    | ⟨1, _⟩ => (⟨.new 0, Presence.zeroed_new 0⟩ : Presence.Kept Int64)
    | ⟨2, _⟩ => (⟨0x3fc00000⟩ : Single)
    | ⟨3, _⟩ => (none : Option String)
  unmapped := "cached"

theorem quiet_newAccount : newAccount.Quiet := by
  rintro ⟨i, hi⟩ x hx
  match i with
  | 0 | 1 | 3 => exact id
  | 2 =>
    obtain rfl := Option.some.inj hx
    exact (by decide : ¬ (⟨0x3fc00000⟩ : Single).IsSignalling)

/-- Absent, zero, nothing and a number come back, and a column of no field is passed over. -/
theorem bindRow_newAccount :
    accountDeclaration.mapping = .ok account.mapping ∧
      (account.schema.columns.map ColumnDef.columnName).Nodup ∧
      bindRow account [("kind", .null), ("rank", .int 7), ("ratio", .float ⟨0x3ff8000000000000⟩),
        ("id", .null), ("level", .int 0)] = .ok { newAccount with unmapped := "" } := by
  have hmapping : accountDeclaration.mapping = .ok account.mapping := rfl
  have hcolumns : (account.schema.columns.map ColumnDef.columnName).Nodup := by decide
  have hextras : ∀ x ∈ [("rank", Value.int 7)], account.schema.fieldOf? x.1 = none :=
    List.forall_mem_singleton.2 rfl
  refine ⟨hmapping, hcolumns, bindRow_eq hmapping hcolumns
    (readsBack_iff_quiet.2 quiet_newAccount) hextras ?_⟩
  decide

end Record

end EntitySql
