import EntitySql.Proofs.RoundTrip

/-!
# What binding a row computes

`EntityType.Owns` says which field a result column belongs to: the first one whose column has
exactly this name, or else the first one without a column of its own that is spelled like it.  It is
what `Schema.fieldOf?` finds (`fieldOf?_eq_some`, `fieldOf?_eq_none`).

A row is bound iff each of its cells is read into the field that its column belongs to, and
otherwise the first cell that is not is reported (`Record.bindRow_reads_last`).  What carries the
proof is that binding some cells gives each field what the last of its own is read as, or leaves it
as it was (`Record.foldlM_of_readable`).
-/

namespace EntitySql

namespace EntityType

variable (e : EntityType)

/-! ### The field of a column -/

/-- The name of the column of a field. -/
def columnName (i : e.Place) : String := (e.field i).columnDef.columnName

/-- A field without a column of its own is spelled like a column. -/
def Spells (i : e.Place) (column : String) : Prop :=
  (e.field i).column = none ∧ Naming.snake (e.field i).name = Naming.snake column

/-- A column belongs to a field. -/
def Owns (i : e.Place) (column : String) : Prop :=
  (e.columnName i = column ∧ ∀ j < i, e.columnName j ≠ column) ∨
    (∀ j, e.columnName j ≠ column) ∧ e.Spells i column ∧ ∀ j < i, ¬ e.Spells j column

/-- The place of the field that a column belongs to. -/
def owner? (column : String) : Option e.Place :=
  (Fin.find? fun i => e.columnName i == column).or
    (Fin.find? fun i =>
      (e.field i).column.isNone && Naming.snake (e.field i).name == Naming.snake column)

variable {e}

theorem spells_iff {i : e.Place} {column : String} : e.Spells i column ↔
    ((e.field i).column.isNone && Naming.snake (e.field i).name == Naming.snake column) = true := by
  rw [Bool.and_eq_true, Option.isNone_iff_eq_none, beq_iff_eq, Spells]

theorem owner?_eq_some {column : String} {i : e.Place} :
    e.owner? column = some i ↔ e.Owns i column := by
  simp only [owner?, Option.or_eq_some_iff, Fin.find?_eq_some_iff, Fin.find?_eq_none_iff, Owns,
    spells_iff, beq_iff_eq, beq_eq_false_iff_ne, Bool.not_eq_true]

theorem owner?_eq_none {column : String} :
    e.owner? column = none ↔ ∀ i, ¬ e.Owns i column := by
  simp only [Option.eq_none_iff_forall_not_mem, Option.mem_def, owner?_eq_some]

/-- A column belongs to one field only. -/
theorem Owns.unique {i j : e.Place} {column : String} (hi : e.Owns i column)
    (hj : e.Owns j column) : i = j :=
  Option.some.inj ((owner?_eq_some.2 hi).symm.trans (owner?_eq_some.2 hj))

/-- Only its own column belongs to a field that has one. -/
theorem Owns.eq_of_column {i : e.Place} {own column : String} (hown : (e.field i).column = some own)
    (h : e.Owns i column) : column = own := by
  rcases h with ⟨hname, -⟩ | ⟨-, ⟨hnone, -⟩, -⟩
  · rw [← hname, columnName, ColumnDef.columnName]
    show (e.field i).column.getD _ = own
    rw [hown, Option.getD_some]
  · rw [hown] at hnone
    cases hnone

theorem fieldOf?_eq_owner? (column : String) :
    e.schema.fieldOf? column = (e.owner? column).map fun i => (e.field i).name := by
  -- what is found among the columns has been found among the places
  have hfind : ∀ p : ColumnDef → Bool, e.schema.columns.find? p =
      (Fin.find? fun i => p (e.field i).columnDef).map fun i => (e.field i).columnDef := by
    intro p
    rw [e.columns_schema, List.find?_map, Fin.find?_eq_find?_finRange]
    rfl
  have hname : (fun i => (e.field i).columnDef.columnName == column) =
      fun i => e.columnName i == column := rfl
  simp only [Schema.fieldOf?, hfind, owner?, hname]
  cases Fin.find? fun i => e.columnName i == column with
  | some i => rfl
  | none =>
    rw [Option.none_or, Option.map_map]
    rfl

section

variable (hnames : (e.fields.map (·.name)).Nodup)
include hnames

theorem fieldOf?_eq_some {column : String} {i : e.Place} :
    e.schema.fieldOf? column = some (e.field i).name ↔ e.Owns i column := by
  rw [fieldOf?_eq_owner?, Option.map_eq_some_iff, ← owner?_eq_some]
  constructor
  · rintro ⟨j, hj, hname⟩
    -- no other field has this name
    have hplace := place?_name hnames j
    rw [hname, place?_name hnames] at hplace
    rw [hj, hplace]
  · exact fun h => ⟨i, h, rfl⟩

end

theorem fieldOf?_eq_none {column : String} :
    e.schema.fieldOf? column = none ↔ ∀ i, ¬ e.Owns i column := by
  rw [fieldOf?_eq_owner?, Option.map_eq_none_iff, owner?_eq_none]

/-! ### Cells of a field -/

/-- The cell of a column is not read into the field that the column belongs to. -/
def Unreadable (e : EntityType) (reader : CellReader) (cell : String × Value) : Prop :=
  ∃ i, e.Owns i cell.1 ∧ (e.field i).type.read? reader cell.2 = none

/-- Of the cells that are not readable there is a first one. -/
theorem exists_first_unreadable {reader : CellReader} {cells : ResultRow}
    (h : ∃ cell ∈ cells, e.Unreadable reader cell) :
    ∃ before cell after, cells = before ++ cell :: after ∧ e.Unreadable reader cell ∧
      ∀ x ∈ before, ¬ e.Unreadable reader x := by
  classical
  have hsome : (cells.find? fun cell => decide (e.Unreadable reader cell)).isSome := by
    simpa only [List.find?_isSome, decide_eq_true_eq] using h
  obtain ⟨cell, hcell⟩ := Option.isSome_iff_exists.1 hsome
  obtain ⟨hunreadable, before, after, hcells, hbefore⟩ := List.find?_eq_some_iff_append.1 hcell
  refine ⟨before, cell, after, hcells, of_decide_eq_true hunreadable, fun x hx => ?_⟩
  simpa using hbefore x hx

/-- The last of some cells whose column belongs to a field is read as a value. -/
def LastRead (e : EntityType) (reader : CellReader) (cells : ResultRow) (i : e.Place)
    (a : (e.field i).type.Carrier) : Prop :=
  ∃ before name v after, cells = before ++ (name, v) :: after ∧ e.Owns i name ∧
    (∀ x ∈ after, ¬ e.Owns i x.1) ∧ (e.field i).type.read? reader v = some a

theorem LastRead.cons {reader : CellReader} {cells : ResultRow} {i : e.Place}
    {a : (e.field i).type.Carrier} (h : e.LastRead reader cells i a) (cell : String × Value) :
    e.LastRead reader (cell :: cells) i a := by
  obtain ⟨before, name, v, after, rfl, hname, hafter, hread⟩ := h
  exact ⟨cell :: before, name, v, after, rfl, hname, hafter, hread⟩

end EntityType

namespace Record

variable {e : EntityType} {reader : CellReader} {row : ResultRow}

/-! ### One cell -/

theorem bindNext_unowned {name : String} (h : ∀ i, ¬ e.Owns i name) (r : Record e) (index : Nat) :
    bindNext reader row r (e.schema.fieldOf? name, index) = .ok r := by
  rw [EntityType.fieldOf?_eq_none.2 h]
  rfl

section

variable (hnames : (e.fields.map (·.name)).Nodup)
include hnames

/-- A cell of a field is read into it. -/
theorem bindNext_owned {name : String} {v : Value} {index : Nat}
    (hcell : row[index]? = some (name, v)) {i : e.Place} (hi : e.Owns i name) (r : Record e) :
    bindNext reader row r (e.schema.fieldOf? name, index) =
      match (e.field i).type.read? reader v with
      | some a => .ok (r.set i a)
      | none => .error (.columnDecode index) := by
  have hdecode : row.decode ((e.field i).type.read? reader) index =
      match (e.field i).type.read? reader v with
      | some a => .ok a
      | none => .error (.columnDecode index) := by
    rw [ResultRow.decode, hcell]
    dsimp only
    cases (e.field i).type.read? reader v <;> rfl
  rw [(EntityType.fieldOf?_eq_some hnames).2 hi]
  show (r.bindColumn? (e.field i).name row index reader).map _ = _
  rw [bindColumn?, EntityType.place?_name hnames]
  show ((row.decode ((e.field i).type.read? reader) index).map _).map _ = _
  rw [hdecode]
  cases (e.field i).type.read? reader v <;> rfl

/-! ### Cells one after the other -/

/-- Binding cells that are all readable gives each field what the last of its own is read as; a
field without any stays as it was. -/
theorem foldlM_of_readable {cells : ResultRow} {k : Nat}
    (hcells : ∀ x ∈ cells.zipIdx k, row[x.2]? = some x.1)
    (hreadable : ∀ cell ∈ cells, ¬ e.Unreadable reader cell) (r : Record e) :
    ∃ r', ((cells.zipIdx k).map fun x => (e.schema.fieldOf? x.1.1, x.2)).foldlM
          (bindNext reader row) r = .ok r' ∧ r'.unmapped = r.unmapped ∧
      ∀ i, e.LastRead reader cells i (r'.get i) ∨
        (∀ x ∈ cells, ¬ e.Owns i x.1) ∧ r'.get i = r.get i := by
  -- on the cells that are left, whatever those before them have made of the record
  induction cells generalizing k r with
  | nil => exact ⟨r, rfl, rfl, fun i => .inr ⟨List.forall_mem_nil _, rfl⟩⟩
  | cons cell cells ih =>
    obtain ⟨name, v⟩ := cell
    rw [List.zipIdx_cons] at hcells
    obtain ⟨hcell, hcells⟩ := List.forall_mem_cons.1 hcells
    obtain ⟨hread, hreadable⟩ := List.forall_mem_cons.1 hreadable
    rw [List.zipIdx_cons, List.map_cons, List.foldlM_cons]
    cases howner : e.owner? name with
    | none =>
      -- the column belongs to no field
      have hunowned : ∀ i, ¬ e.Owns i name := EntityType.owner?_eq_none.1 howner
      obtain ⟨r', hr', hunmapped, hget⟩ := ih hcells hreadable r
      rw [bindNext_unowned hunowned]
      refine ⟨r', hr', hunmapped, fun i => ?_⟩
      rcases hget i with hlast | ⟨hnone, hsame⟩
      · exact .inl (hlast.cons _)
      · exact .inr ⟨List.forall_mem_cons.2 ⟨hunowned i, hnone⟩, hsame⟩
    | some i =>
      have hi : e.Owns i name := EntityType.owner?_eq_some.1 howner
      obtain ⟨a, ha⟩ : ∃ a, (e.field i).type.read? reader v = some a :=
        Option.ne_none_iff_exists'.1 fun hnone => hread ⟨i, hi, hnone⟩
      obtain ⟨r', hr', hunmapped, hget⟩ := ih hcells hreadable (r.set i a)
      rw [bindNext_owned hnames hcell hi, ha]
      refine ⟨r', hr', hunmapped, fun j => ?_⟩
      -- read later, or read here, or not read at all
      rcases hget j with hlast | ⟨hnone, hsame⟩
      · exact .inl (hlast.cons _)
      by_cases hij : i = j
      · -- no later cell overwrites this one
        subst hij
        rw [hsame, get_set_same]
        exact .inl ⟨[], name, v, cells, rfl, hi, hnone, ha⟩
      · rw [hsame, get_set_other r a hij]
        refine .inr ⟨List.forall_mem_cons.2 ⟨fun hj => hij (hi.unique hj), hnone⟩, rfl⟩

/-- The first cell that is not readable is reported. -/
theorem bindRow_of_unreadable {before after : ResultRow} {cell : String × Value}
    (hrow : row = before ++ cell :: after) (hbefore : ∀ x ∈ before, ¬ e.Unreadable reader x)
    (hcell : e.Unreadable reader cell) :
    bindRow e row reader = .error (.columnDecode before.length) := by
  subst hrow
  obtain ⟨name, v⟩ := cell
  obtain ⟨i, hi, hnone⟩ := hcell
  have hindex : ∀ x ∈ (before ++ (name, v) :: after).zipIdx,
      (before ++ (name, v) :: after)[x.2]? = some x.1 :=
    fun x hx => List.mem_zipIdx_iff_getElem?.1 hx
  rw [List.zipIdx_append, List.zipIdx_cons, List.forall_mem_append, List.forall_mem_cons] at hindex
  obtain ⟨hcells, hcell, -⟩ := hindex
  -- the cells before it are bound, and those behind it are not looked at
  obtain ⟨r, hr, -⟩ := foldlM_of_readable hnames hcells hbefore (initial e)
  have herror : bindNext reader (before ++ (name, v) :: after) r
      (e.schema.fieldOf? name, before.length) = .error (.columnDecode before.length) := by
    rw [Nat.zero_add] at hcell
    rw [bindNext_owned hnames hcell hi, hnone]
  rw [bindRow, bindMapped, columnMap_zipIdx, List.zipIdx_append, List.zipIdx_cons, List.map_append,
    List.map_cons, List.foldlM_append, hr, Nat.zero_add]
  show (bindNext _ _ r (e.schema.fieldOf? name, before.length) >>= _) = _
  rw [herror]
  rfl

end

/-- **What binding a row computes.**

A row is refused iff it has a cell that is not read into the field that its column belongs to, and
the index of the first such cell is reported.  Otherwise each field holds what the last of its cells
is read as, or what it holds at first if it has none, as do the fields that are not mapped.

A column belongs to the first field whose column has its name, or else to the first one without a
column of its own that is spelled like it. -/
theorem bindRow_reads_last {d : Declaration FieldType} (hd : d.mapping = .ok e.mapping)
    (reader : CellReader) (row : ResultRow) :
    ((∃ error, bindRow e row reader = .error error) ↔ ∃ cell ∈ row, e.Unreadable reader cell) ∧
      (∀ before cell after, row = before ++ cell :: after → e.Unreadable reader cell →
        (∀ x ∈ before, ¬ e.Unreadable reader x) →
        bindRow e row reader = .error (.columnDecode before.length)) ∧
      (∀ r, bindRow e row reader = .ok r → r.unmapped = e.unmapped ∧
        ∀ i, e.LastRead reader row i (r.get i) ∨
          (∀ x ∈ row, ¬ e.Owns i x.1) ∧ r.get i = e.initial i) ∧
      (∀ column i, e.schema.fieldOf? column = some (e.field i).name ↔ e.Owns i column) ∧
      (∀ column, e.schema.fieldOf? column = none ↔ ∀ i, ¬ e.Owns i column) ∧
      ∀ i own column, (e.field i).column = some own → e.Owns i column → column = own := by
  have hnames : (e.fields.map (·.name)).Nodup := Declaration.nodup_names hd
  have hbound : (∀ cell ∈ row, ¬ e.Unreadable reader cell) → ∃ r, bindRow e row reader = .ok r ∧
      r.unmapped = e.unmapped ∧ ∀ i, e.LastRead reader row i (r.get i) ∨
        (∀ x ∈ row, ¬ e.Owns i x.1) ∧ r.get i = e.initial i := by
    intro hreadable
    rw [bindRow, bindMapped, columnMap_zipIdx]
    exact foldlM_of_readable hnames (fun x hx => List.mem_zipIdx_iff_getElem?.1 hx) hreadable
      (initial e)
  have hfails : (∃ cell ∈ row, e.Unreadable reader cell) →
      ∃ error, bindRow e row reader = .error error := by
    intro hcell
    obtain ⟨before, cell, after, hrow, hunreadable, hbefore⟩ :=
      EntityType.exists_first_unreadable hcell
    exact ⟨_, bindRow_of_unreadable hnames hrow hbefore hunreadable⟩
  refine ⟨⟨?_, hfails⟩, ?_, ?_, fun _ _ => EntityType.fieldOf?_eq_some hnames,
    fun _ => EntityType.fieldOf?_eq_none, fun _ _ _ hown => EntityType.Owns.eq_of_column hown⟩
  · -- an error has to come from a cell, since a row of readable ones is bound
    rintro ⟨error, herror⟩
    by_contra hnone
    obtain ⟨r, hr, -⟩ := hbound fun cell hcell hunreadable => hnone ⟨cell, hcell, hunreadable⟩
    rw [hr] at herror
    cases herror
  · intro before cell after hrow hunreadable hbefore
    exact bindRow_of_unreadable hnames hrow hbefore hunreadable
  · -- a row that is bound has no unreadable cell, or it would have failed
    intro r hr
    have hreadable : ∀ cell ∈ row, ¬ e.Unreadable reader cell := by
      intro cell hcell hunreadable
      obtain ⟨error, herror⟩ := hfails ⟨cell, hcell, hunreadable⟩
      rw [herror] at hr
      cases hr
    obtain ⟨r', hr', hspec⟩ := hbound hreadable
    obtain rfl := Except.ok.inj (hr'.symm.trans hr)
    exact hspec

/-- A row of accounts: the level comes twice, once in another spelling, and two columns are of no
field.  One of these has the name of a field that has a column of its own. -/
def accountCells : ResultRow :=
  [("Level", .int 3), ("type", .int 1), ("kind", .text "a"), ("level", .int 5), ("stray", .null),
    ("ratio", .float ⟨0x3ff8000000000000⟩)]

/-- The last level counts, and what cannot be read is reported where it comes first. -/
theorem bindRow_accountCells :
    accountDeclaration.mapping = .ok account.mapping ∧
      (∃ r, bindRow account accountCells = .ok r ∧
        account.LastRead .exact accountCells ⟨1, by decide⟩ (r.get ⟨1, by decide⟩) ∧
        r.get ⟨1, by decide⟩ = (⟨.new 5, Presence.zeroed_new 5⟩ : Presence.Kept Int64)) ∧
      account.schema.fieldOf? "type" = none ∧
      bindRow account (("id", .null) :: ("LEVEL", .text "x") :: ("id", .int 2) :: accountCells) =
        .error (.columnDecode 1) := by
  have hmapping : accountDeclaration.mapping = .ok account.mapping := rfl
  obtain ⟨-, -, hbound, hfield, -⟩ := bindRow_reads_last hmapping .exact accountCells
  refine ⟨hmapping, ?_, rfl, ?_⟩
  · obtain ⟨r, hr, hlevel⟩ : ∃ r, bindRow account accountCells = .ok r ∧
        r.get ⟨1, by decide⟩ = (⟨.new 5, Presence.zeroed_new 5⟩ : Presence.Kept Int64) :=
      ⟨_, rfl, rfl⟩
    obtain ⟨-, hget⟩ := hbound r hr
    refine ⟨r, hr, (hget ⟨1, by decide⟩).resolve_right ?_, hlevel⟩
    rintro ⟨hnone, -⟩
    have hcell : ("level", .int 5) ∈ accountCells := by decide
    exact hnone _ hcell ((hfield "level" ⟨1, by decide⟩).1 rfl)
  · obtain ⟨-, hfail, -⟩ := bindRow_reads_last hmapping .exact
      (("id", .null) :: ("LEVEL", .text "x") :: ("id", .int 2) :: accountCells)
    have hunreadable : account.Unreadable .exact ("LEVEL", .text "x") :=
      ⟨⟨1, by decide⟩, (hfield "LEVEL" ⟨1, by decide⟩).1 rfl, rfl⟩
    refine hfail [("id", .null)] _ _ rfl hunreadable (List.forall_mem_singleton.2 ?_)
    rintro ⟨i, hi, hnone⟩
    obtain rfl := hi.unique ((hfield "id" ⟨0, by decide⟩).1 rfl)
    cases hnone

/-- Accounts whose level is one at first. -/
def leveled : EntityType :=
  { account with
    defaults := ⟨fun
      | ⟨1, _⟩ => (⟨.new 1, Presence.zeroed_new 1⟩ : Presence.Kept Int64)
      | i => account.initial i⟩ }

/-- The level is not in the row, so it stays at one. -/
example : (bindRow leveled [("kind", .text "a")]).map (·.get ⟨1, by decide⟩) =
    .ok (⟨.new 1, Presence.zeroed_new 1⟩ : Presence.Kept Int64) := rfl

end Record

end EntitySql
