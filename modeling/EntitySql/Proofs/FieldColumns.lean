import EntitySql.Proofs.Declared
import EntitySql.Proofs.Naming.Spelling
import EntitySql.Proofs.Schema.LookUp

/-!
# Columns of declared fields

In a type that is declared with ASCII names, where no column is given that another field has, every
field has a column of its own: the column leads back to the field, and the field to the column
(`Declaration.columns_invertible`).

Only constants are compared when a type is declared.  That is enough, since the constant of a field
is its snake case, raised: two fields with one default column have one constant
(`Declaration.constant_eq_of_snake_eq`), and such a type is refused.
-/

namespace EntitySql

variable {τ : Type}

/-! ### Names of fields -/

namespace Identifier

theorem not_mem_of_isWord {s : List Char} (h : isWord s = true) : '#' ∉ s := by
  cases s with
  | nil => exact List.not_mem_nil
  | cons c rest =>
    obtain ⟨hstart, hcontinue⟩ := Bool.and_eq_true_iff.1 h
    intro hmark
    rcases List.mem_cons.1 hmark with rfl | hmark
    · exact absurd hstart (by decide)
    · exact absurd (List.all_eq_true.1 hcontinue '#' hmark) (by decide)

/-- A name without its mark is a word. -/
theorem isWord_unmarked {name : String} (h : isName name = true) :
    isWord (Naming.unmarked name.toList) = true := by
  rcases Naming.unmarked_cases name.toList with ⟨word, hmarked, hword⟩ | ⟨hplain, hword⟩
  · rw [isName, hmarked] at h
    rw [hword]
    exact (Bool.and_eq_true_iff.1 h).1
  · rw [hword]
    unfold isName at h
    split at h
    next word hmarked => exact absurd hmarked (hplain word)
    next => exact (Bool.and_eq_true_iff.1 h).1

end Identifier

/-! ### Snake case and constants -/

namespace Declaration

variable {d : Declaration τ} {mapped : List (MappedField τ)}

/-- Every mapped field was declared. -/
theorem exists_declared (h : d.candidates = .ok mapped) {f : MappedField τ} (hf : f ∈ mapped) :
    ∃ g ∈ d.namedFields, f.name = Naming.plain g.identifier := by
  obtain ⟨-, fields, hfields, -, -, marked, hmarked, rfl⟩ := candidates_eq_ok.1 h
  -- without a body of named fields the declaration has no record at all
  have hnamed : fields = d.namedFields := by
    unfold recordFields at hfields
    split at hfields
    · cases hfields
    · unfold namedFields
      split at hfields <;> cases hfields
      rename_i hbody
      rw [hbody]
  obtain ⟨o, ho, rfl⟩ := List.mem_filterMap.1 hf
  obtain ⟨g, hg, hgo⟩ := Outcome.exists_of_mem_of_mapM_eq_ok hmarked ho
  refine ⟨g, hnamed ▸ hg, ?_⟩
  obtain ⟨marks, -, hmarks⟩ := Outcome.map_eq_ok.1 hgo
  split at hmarks
  · cases hmarks
  · obtain rfl := Option.some.inj hmarks
    rfl

/-- The name of a mapped field has no mark in it. -/
theorem not_mem_name (h : d.candidates = .ok mapped) {f : MappedField τ} (hf : f ∈ mapped) :
    '#' ∉ f.name.toList := by
  obtain ⟨g, hg, hname⟩ := exists_declared h hf
  have hwell : d.isWellFormed = true := (candidates_eq_ok.1 h).1
  have hfields := (Bool.and_eq_true_iff.1 hwell).2
  rw [hname, Naming.plain, String.toList_ofList]
  -- a lone mark is no mark of a word; of any other name the mark was taken away
  rcases Bool.or_eq_true_iff.1 (List.all_eq_true.1 hfields g hg) with hlone | hword
  · rw [beq_iff_eq.1 hlone]
    decide
  · exact Identifier.not_mem_of_isWord (Identifier.isWord_unmarked hword)

/-- Declared names of ASCII characters. -/
def AsciiNames (d : Declaration τ) : Prop :=
  ∀ f ∈ d.namedFields, Naming.Ascii f.identifier.toList

instance (d : Declaration τ) : Decidable d.AsciiNames :=
  inferInstanceAs (Decidable (∀ f ∈ _, _))

theorem ascii_name (hascii : d.AsciiNames) (h : d.candidates = .ok mapped) {f : MappedField τ}
    (hf : f ∈ mapped) : Naming.Ascii f.name.toList := by
  obtain ⟨g, hg, hname⟩ := exists_declared h hf
  intro c hc
  rw [hname, Naming.plain, String.toList_ofList] at hc
  exact hascii g hg c (Naming.mem_of_mem_unmarked hc)

/-- Fields of one snake case have one constant. -/
theorem constant_eq_of_snake_eq (hascii : d.AsciiNames) (h : d.candidates = .ok mapped)
    {f g : MappedField τ} (hf : f ∈ mapped) (hg : g ∈ mapped)
    (hsnake : Naming.snake f.name = Naming.snake g.name) : f.constant = g.constant := by
  rw [MappedField.constant, MappedField.constant,
    Naming.shouty_eq_map_snake (not_mem_name h hf) (ascii_name hascii h hf),
    Naming.shouty_eq_map_snake (not_mem_name h hg) (ascii_name hascii h hg), hsnake]

end Declaration

/-! ### Columns -/

namespace MappedField

variable {f : MappedField τ}

theorem columnName_of_column_eq_some {c : String} (h : f.column = some c) :
    f.columnDef.columnName = c := by
  rw [columnDef, ColumnDef.columnName, h, Option.getD_some]

theorem columnName_of_column_eq_none (h : f.column = none) :
    f.columnDef.columnName = Naming.snake f.name := by
  rw [columnDef, ColumnDef.columnName, h, Option.getD_none]

end MappedField

namespace Mapping

/-- No column is given that is the column of another field. -/
def ColumnsApart (m : Mapping τ) : Prop :=
  ∀ f ∈ m.fields, ∀ g ∈ m.fields, f ≠ g → f.column ≠ some g.columnDef.columnName

instance [DecidableEq τ] (m : Mapping τ) : Decidable m.ColumnsApart :=
  inferInstanceAs (Decidable (∀ f ∈ _, _))

/-- Two fields of one column are one field. -/
theorem eq_of_columnName_eq {d : Declaration τ} (hascii : d.AsciiNames) {m : Mapping τ}
    (h : d.mapping = .ok m) (hapart : m.ColumnsApart) {f g : MappedField τ} (hf : f ∈ m.fields)
    (hg : g ∈ m.fields) (hcolumn : f.columnDef.columnName = g.columnDef.columnName) : f = g := by
  by_contra hfg
  -- a given column of either field is apart from the other; so both have none
  cases hfc : f.column with
  | some c =>
    refine hapart f hf g hg hfg ?_
    rw [hfc, ← hcolumn, MappedField.columnName_of_column_eq_some hfc]
  | none =>
    cases hgc : g.column with
    | some c =>
      refine hapart g hg f hf (Ne.symm hfg) ?_
      rw [hgc, hcolumn, MappedField.columnName_of_column_eq_some hgc]
    | none =>
      -- both columns are the snake case of the field
      have hsnake : Naming.snake f.name = Naming.snake g.name := by
        rwa [MappedField.columnName_of_column_eq_none hfc,
          MappedField.columnName_of_column_eq_none hgc] at hcolumn
      have hconstant := Declaration.constant_eq_of_snake_eq hascii
        (Declaration.candidates_of_mapping h) hf hg hsnake
      exact hfg (List.inj_on_of_nodup_map (Declaration.nodup_constants h) hf hg hconstant)

end Mapping

/-- A declaration with ASCII names maps its fields to columns and back, where no column is given
that another field has.  Two fields of one snake case are refused for a common constant, so that
this is so for any two fields that have one default column. -/
theorem Declaration.columns_invertible (d : Declaration τ) (hascii : d.AsciiNames) :
    (∀ m, d.mapping = .ok m → m.ColumnsApart →
      (m.fields.map fun f => f.columnDef.columnName).Nodup ∧
      ∀ f ∈ m.fields, ∀ modulePath,
        (m.schema modulePath).fieldOf? f.columnDef.columnName = some f.name ∧
        ∀ catalog : Catalog,
          catalog.schema? (m.schema modulePath).key = some (m.schema modulePath) →
          catalog.resolve? ⟨(m.schema modulePath).key, f.name⟩ =
            some ⟨(m.schema modulePath).tableName, f.columnDef.columnName⟩) ∧
    ∀ mapped, d.candidates = .ok mapped → ∀ f g, [f, g].Sublist mapped →
      Naming.snake f.name = Naming.snake g.name →
      ∃ a b, [a, b].Sublist mapped ∧ a.constant = b.constant ∧
        d.mapping = .error (.sharedConstant a.identifier b.identifier b.constant) := by
  refine ⟨fun m h hapart => ?_, fun mapped h f g hfg hsnake => ?_⟩
  · -- names are apart since constants are, and columns since names are
    have hnames := Declaration.nodup_names h
    have hcolumns : (m.fields.map fun f => f.columnDef.columnName).Nodup :=
      hnames.of_map.map_on fun f hf g hg => Mapping.eq_of_columnName_eq hascii h hapart hf hg
    refine ⟨hcolumns, fun f hf modulePath => ?_⟩
    have hmem : f.columnDef ∈ (m.schema modulePath).columns := List.mem_map_of_mem hf
    constructor
    · have hnodup : ((m.schema modulePath).columns.map ColumnDef.columnName).Nodup := by
        rwa [Mapping.schema, List.map_map]
      exact Schema.fieldOf?_columnName hnodup hmem
    · intro catalog hcatalog
      have hnodup : ((m.schema modulePath).columns.map (·.field)).Nodup := by
        rwa [Mapping.schema, List.map_map]
      exact Catalog.resolve?_field hcatalog hnodup hmem
  · have hf : f ∈ mapped := hfg.subset List.mem_cons_self
    have hg : g ∈ mapped := hfg.subset (List.mem_cons_of_mem f List.mem_cons_self)
    exact Declaration.exists_sharedConstant h hfg
      (Declaration.constant_eq_of_snake_eq hascii h hf hg hsnake)

/-! #### Two declarations -/

/-- A visit: its fields have a default column of several words, a given one, and one of capitals. -/
def visitDeclaration : Declaration Unit where
  identifier := "Visit"
  body := .record
    [⟨"userName", (), []⟩, ⟨"r#type", (), [⟨"weft", [⟨"column", .text "kind"⟩]⟩]⟩,
      ⟨"HTTPCode", (), []⟩]

/-- A visit that is mapped. -/
def visit : Mapping Unit where
  typeName := "Visit"
  fields := [⟨"userName", (), "userName", none, ""⟩, ⟨"r#type", (), "type", some "kind", ""⟩,
    ⟨"HTTPCode", (), "HTTPCode", none, ""⟩]

/-- A guest whose name is there in two spellings. -/
def guestDeclaration : Declaration Unit where
  identifier := "Guest"
  body := .record [⟨"user_name", (), []⟩, ⟨"level", (), []⟩, ⟨"userName", (), []⟩]

/-- The columns of a visit lead back to its fields, and a guest with two names is refused. -/
theorem Declaration.columns_invertible_visit :
    visitDeclaration.mapping = .ok visit ∧
    (visit.fields.map fun f => f.columnDef.columnName) = ["user_name", "kind", "http_code"] ∧
    (∀ f ∈ visit.fields, (visit.schema "app").fieldOf? f.columnDef.columnName = some f.name) ∧
    ∃ a b : MappedField Unit, a.constant = b.constant ∧
      guestDeclaration.mapping = .error (.sharedConstant a.identifier b.identifier b.constant) := by
  have hmapping : visitDeclaration.mapping = .ok visit := by decide
  have hapart : visit.ColumnsApart := by decide
  obtain ⟨-, hback⟩ :=
    (columns_invertible visitDeclaration (by decide)).1 visit hmapping hapart
  obtain ⟨a, b, -, hconstant, hrefused⟩ :=
    (columns_invertible guestDeclaration (by decide)).2
      [⟨"user_name", (), "user_name", none, ""⟩, ⟨"level", (), "level", none, ""⟩,
        ⟨"userName", (), "userName", none, ""⟩] (by decide)
      ⟨"user_name", (), "user_name", none, ""⟩ ⟨"userName", (), "userName", none, ""⟩ (by decide)
      (by decide)
  exact ⟨hmapping, by decide, fun f hf => (hback f hf "app").1, a, b, hconstant, hrefused⟩

end EntitySql
