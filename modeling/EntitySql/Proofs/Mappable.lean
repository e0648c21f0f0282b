import EntitySql.Proofs.Declared
import EntitySql.Proofs.Naming.Constant

/-!
# Declarations that are mapped

A declaration can be mapped if it is a record without parameters, if the items of its attributes are
those that there are, and if the fields that are not ignored have constants of their own
(`Declaration.Mappable`).  What comes of it is then known from the declaration: of several texts for
one key the last one counts (`FieldMarks.foldl_next`).

Of a declaration comes this mapping, or it can be mapped and one of the constants is no identifier,
or it cannot be mapped and the refusal says why (`Declaration.mapping_cases`).  The second case is
not reported as the third one is (`Declaration.mapping_cellar`).
-/

namespace EntitySql

variable {τ : Type}

/-! ### Items -/

namespace AttributeItem

/-- The items of types: the key of the table with its text. -/
def FitsType (i : AttributeItem) : Prop := ∃ s, i = ⟨"table", .text s⟩

/-- The items of fields: the keys of column and tags with their text, and the key of ignored fields
alone. -/
def FitsField (i : AttributeItem) : Prop :=
  (∃ s, i = ⟨"column", .text s⟩) ∨ (∃ s, i = ⟨"tag", .text s⟩) ∨ i = ⟨"ignore", .nothing⟩

/-- The text that an item gives for a key. -/
def textFor? (key : String) (i : AttributeItem) : Option String :=
  match i.given with
  | .text s => if i.key = key then some s else none
  | .nothing | .other => none

theorem textFor?_eq_some {key : String} {i : AttributeItem} {s : String} :
    i.textFor? key = some s ↔ i = ⟨key, .text s⟩ := by
  obtain ⟨key', given⟩ := i
  unfold textFor?
  cases given <;> simp

theorem isSome_textFor? {key : String} {i : AttributeItem} :
    (i.textFor? key).isSome = true ↔ ∃ s, i = ⟨key, .text s⟩ := by
  rw [Option.isSome_iff_exists]
  exact exists_congr fun s => textFor?_eq_some

instance (i : AttributeItem) : Decidable i.FitsType := decidable_of_iff _ isSome_textFor?

instance (i : AttributeItem) : Decidable i.FitsField :=
  decidable_of_iff
    ((i.textFor? "column").isSome = true ∨ (i.textFor? "tag").isSome = true ∨
      i = ⟨"ignore", .nothing⟩)
    (or_congr isSome_textFor? (or_congr isSome_textFor? Iff.rfl))

/-- The text that the last item for a key gives. -/
def lastText? (key : String) (items : List AttributeItem) : Option String :=
  items.reverse.findSome? (·.textFor? key)

theorem lastText?_cons (key : String) (i : AttributeItem) (items : List AttributeItem) :
    lastText? key (i :: items) = (lastText? key items).or (i.textFor? key) := by
  rw [lastText?, List.reverse_cons, List.findSome?_append, List.findSome?_singleton, lastText?]

theorem foldl_textFor? (key : String) (items : List AttributeItem) (old : Option String) :
    items.foldl (fun old i => (i.textFor? key).or old) old = (lastText? key items).or old := by
  induction items generalizing old with
  | nil => rfl
  | cons i items ih => rw [List.foldl_cons, ih, lastText?_cons, Option.or_assoc]

theorem text_eq_ok {i : AttributeItem} {s : String} : i.text = .ok s ↔ i.given = .text s := by
  unfold text
  cases i.given <;> simp

theorem bare_eq_ok {i : AttributeItem} {u : Unit} : i.bare = .ok u ↔ i.given = .nothing := by
  unfold bare
  cases i.given <;> simp

theorem addToTable_eq_ok (table : Option String) (i : AttributeItem) (table' : Option String) :
    addToTable table i = .ok table' ↔ i.FitsType ∧ (i.textFor? "table").or table = table' := by
  obtain ⟨key, given⟩ := i
  constructor
  · intro h
    unfold addToTable at h
    split at h
    next hkey =>
      obtain ⟨s, hs, rfl⟩ := Outcome.map_eq_ok.1 h
      obtain rfl : key = "table" := hkey
      obtain rfl : given = .text s := text_eq_ok.1 hs
      exact ⟨⟨s, rfl⟩, rfl⟩
    next => cases h
  · rintro ⟨⟨s, hi⟩, rfl⟩
    rw [hi]
    rfl

end AttributeItem

namespace FieldMarks

/-- The marks after an item that fits. -/
def next (marks : FieldMarks) (i : AttributeItem) : FieldMarks where
  column := (i.textFor? "column").or marks.column
  tags := (i.textFor? "tag").getD marks.tags
  ignored := marks.ignored || i.key == "ignore"

theorem add_eq_ok (marks : FieldMarks) (i : AttributeItem) (marks' : FieldMarks) :
    marks.add i = .ok marks' ↔ i.FitsField ∧ marks.next i = marks' := by
  obtain ⟨key, given⟩ := i
  constructor
  · intro h
    unfold add at h
    -- an item fits if it has one of the three keys and what that key needs; nothing else is added
    split_ifs at h with hcolumn htag hignore
    · obtain ⟨s, hs, rfl⟩ := Outcome.map_eq_ok.1 h
      obtain rfl : key = "column" := hcolumn
      obtain rfl : given = .text s := AttributeItem.text_eq_ok.1 hs
      exact ⟨Or.inl ⟨s, rfl⟩, by simp [next, AttributeItem.textFor?]⟩
    · obtain ⟨s, hs, rfl⟩ := Outcome.map_eq_ok.1 h
      obtain rfl : key = "tag" := htag
      obtain rfl : given = .text s := AttributeItem.text_eq_ok.1 hs
      exact ⟨Or.inr (Or.inl ⟨s, rfl⟩), by simp [next, AttributeItem.textFor?]⟩
    · obtain ⟨u, hu, rfl⟩ := Outcome.map_eq_ok.1 h
      obtain rfl : key = "ignore" := hignore
      obtain rfl : given = .nothing := AttributeItem.bare_eq_ok.1 hu
      exact ⟨Or.inr (Or.inr rfl), by simp [next, AttributeItem.textFor?]⟩
  · rintro ⟨⟨s, hi⟩ | ⟨s, hi⟩ | hi, rfl⟩
    · rw [hi]
      simp [add, next, AttributeItem.text, AttributeItem.textFor?, Except.map]
    · rw [hi]
      simp [add, next, AttributeItem.text, AttributeItem.textFor?, Except.map]
    · rw [hi]
      simp [add, next, AttributeItem.bare, AttributeItem.textFor?, Except.map]

/-- The last texts count, and one item is enough to ignore a field. -/
theorem foldl_next (items : List AttributeItem) (marks : FieldMarks) :
    items.foldl next marks =
      { column := (AttributeItem.lastText? "column" items).or marks.column
        tags := (AttributeItem.lastText? "tag" items).getD marks.tags
        ignored := marks.ignored || items.any (·.key == "ignore") } := by
  induction items generalizing marks with
  | nil => simp [AttributeItem.lastText?]
  | cons i items ih =>
    rw [List.foldl_cons, ih, next, AttributeItem.lastText?_cons, AttributeItem.lastText?_cons,
      List.any_cons, Option.or_assoc, Bool.or_assoc, Option.getD_or]

end FieldMarks

/-! ### Fields -/

namespace DeclaredField

/-- The constant that stands for a declared field. -/
def constant (f : DeclaredField τ) : String := Naming.shouty (Naming.plain f.identifier)

/-- Whether an item says that the field is ignored. -/
def ignored (f : DeclaredField τ) : Bool :=
  (Attribute.mappingItems f.attributes).any (·.key == "ignore")

/-- The field with the last column and the last tags that are given. -/
def mapped (f : DeclaredField τ) : MappedField τ where
  identifier := f.identifier
  type := f.type
  name := Naming.plain f.identifier
  column := AttributeItem.lastText? "column" (Attribute.mappingItems f.attributes)
  tags := (AttributeItem.lastText? "tag" (Attribute.mappingItems f.attributes)).getD ""

/-- The fields that are not ignored. -/
def kept (fields : List (DeclaredField τ)) : List (DeclaredField τ) := fields.filter (!·.ignored)

theorem marks_eq_ok {f : DeclaredField τ} {marks : FieldMarks} :
    f.marks = .ok marks ↔ (∀ i ∈ Attribute.mappingItems f.attributes, i.FitsField) ∧
      ⟨f.mapped.column, f.mapped.tags, f.ignored⟩ = marks := by
  have hrun : f.marks = .ok marks ↔ (∀ i ∈ Attribute.mappingItems f.attributes, i.FitsField) ∧
      (Attribute.mappingItems f.attributes).foldl FieldMarks.next {} = marks :=
    Outcome.foldlM_eq_ok_iff_foldl FieldMarks.add_eq_ok
  rw [FieldMarks.foldl_next, Option.or_none, Bool.false_or] at hrun
  exact hrun

theorem mapped?_eq_ok (f : DeclaredField τ) (o : Option (MappedField τ)) :
    f.mapped? = .ok o ↔ (∀ i ∈ Attribute.mappingItems f.attributes, i.FitsField) ∧
      (if f.ignored then none else some f.mapped) = o := by
  rw [mapped?, Outcome.map_eq_ok]
  constructor
  · rintro ⟨marks, h, rfl⟩
    obtain ⟨hfits, rfl⟩ := marks_eq_ok.1 h
    exact ⟨hfits, rfl⟩
  · rintro ⟨hfits, rfl⟩
    exact ⟨_, marks_eq_ok.2 ⟨hfits, rfl⟩, rfl⟩

theorem filterMap_mapped? (fields : List (DeclaredField τ)) :
    (fields.map fun f => if f.ignored then none else some f.mapped).filterMap id =
      (kept fields).map mapped := by
  unfold kept
  induction fields with
  | nil => rfl
  | cons f fields ih =>
    rw [List.map_cons, List.filter_cons]
    cases f.ignored with
    | true => simpa using ih
    | false => simpa using ih

end DeclaredField

/-! ### Declarations -/

namespace Declaration

variable {d : Declaration τ} {fields : List (DeclaredField τ)}

/-- A record without parameters whose attributes have the items that there are. -/
structure Fits (d : Declaration τ) (fields : List (DeclaredField τ)) : Prop where
  notGeneric : d.generic = false
  record : d.body = .record fields
  typeItems : ∀ i ∈ Attribute.mappingItems d.attributes, i.FitsType
  fieldItems : ∀ f ∈ fields, ∀ i ∈ Attribute.mappingItems f.attributes, i.FitsField

/-- A declaration that fits, where the fields that are not ignored have constants of their own. -/
structure Mappable (d : Declaration τ) (fields : List (DeclaredField τ)) : Prop extends
    d.Fits fields where
  apart : ((DeclaredField.kept fields).map (·.constant)).Nodup

/-- What a declaration with these fields is mapped to. -/
def mapped (d : Declaration τ) (fields : List (DeclaredField τ)) : Mapping τ where
  typeName := Naming.plain d.identifier
  table := AttributeItem.lastText? "table" (Attribute.mappingItems d.attributes)
  fields := (DeclaredField.kept fields).map DeclaredField.mapped

theorem constants_mapped (d : Declaration τ) (fields : List (DeclaredField τ)) :
    (d.mapped fields).fields.map MappedField.constant =
      (DeclaredField.kept fields).map (·.constant) := List.map_map

theorem recordFields_eq_ok :
    d.recordFields = .ok fields ↔ d.generic = false ∧ d.body = .record fields := by
  unfold recordFields
  cases d.generic with
  | true => exact iff_of_false nofun fun h => absurd h.1.symm Bool.false_ne_true
  | false =>
    cases d.body <;> simp

theorem table_eq_ok {table : Option String} :
    d.table = .ok table ↔ (∀ i ∈ Attribute.mappingItems d.attributes, i.FitsType) ∧
      AttributeItem.lastText? "table" (Attribute.mappingItems d.attributes) = table := by
  have hrun : d.table = .ok table ↔ (∀ i ∈ Attribute.mappingItems d.attributes, i.FitsType) ∧
      (Attribute.mappingItems d.attributes).foldl (fun old i => (i.textFor? "table").or old) none =
        table :=
    Outcome.foldlM_eq_ok_iff_foldl AttributeItem.addToTable_eq_ok
  rw [AttributeItem.foldl_textFor?, Option.or_none] at hrun
  exact hrun

/-- A declaration that fits is mapped unless its constants are wrong. -/
theorem candidates_of_fits (hwell : d.isWellFormed = true) (h : d.Fits fields) :
    d.candidates = .ok (d.mapped fields).fields := by
  refine candidates_eq_ok.2 ⟨hwell, fields, recordFields_eq_ok.2 ⟨h.notGeneric, h.record⟩, _,
    table_eq_ok.2 ⟨h.typeItems, rfl⟩, _, ?_, DeclaredField.filterMap_mapped? fields⟩
  exact (Outcome.mapM_eq_ok_iff_map DeclaredField.mapped?_eq_ok).2 ⟨h.fieldItems, rfl⟩

theorem fits_of_candidates {mapped : List (MappedField τ)} (h : d.candidates = .ok mapped) :
    ∃ fields, d.Fits fields := by
  obtain ⟨-, fields, hfields, table, htable, marked, hmarked, -⟩ := candidates_eq_ok.1 h
  obtain ⟨hgeneric, hrecord⟩ := recordFields_eq_ok.1 hfields
  obtain ⟨hitems, -⟩ := (Outcome.mapM_eq_ok_iff_map DeclaredField.mapped?_eq_ok).1 hmarked
  exact ⟨fields, hgeneric, hrecord, (table_eq_ok.1 htable).1, hitems⟩

end Declaration

/-! ### Refusals -/

/-- Whether an error is reported to whoever wrote the declaration.  What is no declaration is not
read, and an identifier that is none stops the mapping. -/
def DeclarationError.isReported : DeclarationError → Bool
  | .malformed | .unnameable _ => false
  | .generic | .notRecord | .fieldsUnnamed | .attribute _ | .sharedConstant _ _ _ => true

namespace Declaration

variable {d : Declaration τ} {fields : List (DeclaredField τ)}

theorem isReported_of_recordFields {e : DeclarationError} (h : d.recordFields = .error e) :
    e.isReported = true := by
  unfold recordFields at h
  split_ifs at h
  · obtain rfl := Except.error.inj h
    rfl
  · split at h <;> cases h <;> rfl

theorem candidates_eq_error (hwell : d.isWellFormed = true) {e : DeclarationError} :
    d.candidates = .error e ↔ d.recordFields = .error e ∨
      ∃ fields, d.recordFields = .ok fields ∧ ((∃ a, d.table = .error a ∧ .attribute a = e) ∨
        ∃ table, d.table = .ok table ∧
          ∃ a, fields.mapM DeclaredField.mapped? = .error a ∧ .attribute a = e) := by
  rw [candidates, hwell, Bool.not_true, if_neg Bool.false_ne_true]
  show (d.recordFields >>= fun fields => d.table.mapError .attribute >>= fun _ =>
    (fields.mapM DeclaredField.mapped?).mapError .attribute >>= fun marked => pure _) = _ ↔ _
  simp only [Outcome.bind_eq_error, Outcome.mapError_eq_error, Outcome.mapError_eq_ok,
    Outcome.pure_ne_error, and_false, exists_false, or_false]

/-- What is refused before constants are compared is reported. -/
theorem mapping_of_candidates_eq_error (hwell : d.isWellFormed = true) {e : DeclarationError}
    (h : d.candidates = .error e) : d.mapping = .error e ∧ e.isReported = true := by
  rw [mapping, hwell, Bool.not_true, if_neg Bool.false_ne_true]
  -- the candidates fail where the mapping does, since the mapping makes the same checks first
  rcases (candidates_eq_error hwell).1 h with hfields | ⟨fields, hfields, h⟩
  · rw [hfields]
    exact ⟨rfl, isReported_of_recordFields hfields⟩
  · rw [hfields]
    rcases h with ⟨a, htable, rfl⟩ | ⟨table, htable, a, hmarked, rfl⟩
    · rw [htable]
      exact ⟨rfl, rfl⟩
    · rw [htable]
      refine ⟨?_, rfl⟩
      show (mappedFields fields >>= fun mapped => _) = _
      rw [mappedFields, hmarked]
      rfl

theorem Fits.unique {fields' : List (DeclaredField τ)} (h : d.Fits fields)
    (h' : d.Fits fields') : fields = fields' :=
  Body.record.inj (h.record.symm.trans h'.record)

/-- A declaration is mapped, or it can be mapped but for an identifier, or it cannot be mapped and
that is reported. -/
theorem mapping_cases (hwell : d.isWellFormed = true) :
    (∃ fields, d.Mappable fields ∧
      (∀ f ∈ DeclaredField.kept fields, Identifier.isWord f.constant.toList = true) ∧
      d.mapping = .ok (d.mapped fields)) ∨
    (∃ fields, d.Mappable fields ∧ ∃ f ∈ DeclaredField.kept fields,
      Identifier.isWord f.constant.toList = false ∧
      d.mapping = .error (.unnameable f.constant)) ∨
    (¬ ∃ fields, d.Mappable fields) ∧ ∃ e, d.mapping = .error e ∧ e.isReported = true := by
  -- first what is refused on its own, then two equal constants, then a constant that is no word
  cases hcandidates : d.candidates with
  | error e =>
    refine Or.inr (Or.inr ⟨?_, e, mapping_of_candidates_eq_error hwell hcandidates⟩)
    rintro ⟨fields, h⟩
    rw [candidates_of_fits hwell h.toFits] at hcandidates
    cases hcandidates
  | ok mapped =>
    obtain ⟨fields, hfits⟩ := fits_of_candidates hcandidates
    obtain rfl := Except.ok.inj ((candidates_of_fits hwell hfits).symm.trans hcandidates)
    obtain ⟨table, htable, hmapping⟩ := mapping_of_candidates hcandidates
    obtain ⟨-, rfl⟩ := table_eq_ok.1 htable
    cases hclash : clash? [] (d.mapped fields).fields with
    | some pair =>
      obtain ⟨a, b⟩ := pair
      obtain ⟨hab, hsub⟩ := clash?_eq_some hclash
      rw [hclash] at hmapping
      refine Or.inr (Or.inr ⟨?_, _, hmapping, rfl⟩)
      rintro ⟨fields', h⟩
      -- the declaration has one list of fields only, so the clash is among those
      obtain rfl := hfits.unique h.toFits
      exact not_nodup_of_sublist hsub hab (constants_mapped d fields ▸ h.apart)
    | none =>
      have hmappable : d.Mappable fields :=
        ⟨hfits, constants_mapped d fields ▸ nodup_of_clash?_nil hclash⟩
      rw [hclash] at hmapping
      cases hfind : (d.mapped fields).fields.find? fun f =>
          !Identifier.isWord f.constant.toList with
      | some g =>
        rw [hfind] at hmapping
        obtain ⟨f, hf, rfl⟩ := List.mem_map.1 (List.mem_of_find?_eq_some hfind)
        have hword : Identifier.isWord f.mapped.constant.toList = false := by
          simpa using List.find?_some hfind
        exact Or.inr (Or.inl ⟨fields, hmappable, f, hf, hword, hmapping⟩)
      | none =>
        rw [hfind] at hmapping
        refine Or.inl ⟨fields, hmappable, fun f hf => ?_, hmapping⟩
        have hword : Identifier.isWord f.mapped.constant.toList = true := by
          simpa using List.find?_eq_none.1 hfind f.mapped (List.mem_map_of_mem hf)
        exact hword

section

variable (hwell : d.isWellFormed = true)
include hwell

theorem mapping_eq_ok {m : Mapping τ} :
    d.mapping = .ok m ↔ ∃ fields, d.Mappable fields ∧
      (∀ f ∈ DeclaredField.kept fields, Identifier.isWord f.constant.toList = true) ∧
      m = d.mapped fields := by
  -- each outcome has its own case, and the cases exclude one another
  rcases mapping_cases hwell with ⟨fields, hmappable, hwords, hok⟩ |
    ⟨fields, hmappable, f, hf, hword, herror⟩ | ⟨hnot, e, herror, -⟩
  · rw [hok]
    constructor
    · intro h
      exact ⟨fields, hmappable, hwords, (Except.ok.inj h).symm⟩
    · rintro ⟨fields', hmappable', -, rfl⟩
      rw [hmappable.unique hmappable'.toFits]
  · rw [herror]
    refine iff_of_false nofun ?_
    rintro ⟨fields', hmappable', hwords, -⟩
    obtain rfl := hmappable.unique hmappable'.toFits
    exact absurd (hwords f hf) (Bool.eq_false_iff.1 hword)
  · rw [herror]
    exact iff_of_false nofun fun ⟨fields, hmappable, _⟩ => hnot ⟨fields, hmappable⟩

theorem exists_mapping_unnameable :
    (∃ constant, d.mapping = .error (.unnameable constant)) ↔ ∃ fields, d.Mappable fields ∧
      ∃ f ∈ DeclaredField.kept fields, Identifier.isWord f.constant.toList = false := by
  rcases mapping_cases hwell with ⟨fields, hmappable, hwords, hok⟩ |
    ⟨fields, hmappable, f, hf, hword, herror⟩ | ⟨hnot, e, herror, hreported⟩
  · rw [hok]
    refine iff_of_false nofun ?_
    rintro ⟨fields', hmappable', f, hf, hword⟩
    obtain rfl := hmappable.unique hmappable'.toFits
    exact absurd (hwords f hf) (Bool.eq_false_iff.1 hword)
  · exact iff_of_true ⟨f.constant, herror⟩ ⟨fields, hmappable, f, hf, hword⟩
  · refine iff_of_false ?_ fun ⟨fields, hmappable, _⟩ => hnot ⟨fields, hmappable⟩
    rintro ⟨constant, h⟩
    obtain rfl := Except.error.inj (herror.symm.trans h)
    exact absurd hreported Bool.false_ne_true

theorem exists_mapping_reported :
    (∃ e, d.mapping = .error e ∧ e.isReported = true) ↔ ¬ ∃ fields, d.Mappable fields := by
  rcases mapping_cases hwell with ⟨fields, hmappable, -, hok⟩ |
    ⟨fields, hmappable, f, -, -, herror⟩ | ⟨hnot, e, herror, hreported⟩
  · refine iff_of_false ?_ fun h => h ⟨fields, hmappable⟩
    rintro ⟨e, he, -⟩
    cases hok.symm.trans he
  · refine iff_of_false ?_ fun h => h ⟨fields, hmappable⟩
    rintro ⟨e, he, hreported⟩
    obtain rfl := Except.error.inj (herror.symm.trans he)
    exact absurd hreported Bool.false_ne_true
  · exact iff_of_true ⟨e, herror, hreported⟩ hnot

/-- Which declarations are mapped, and what to.  A declaration has the mapping of its fields exactly
if it can be mapped and all constants are identifiers.  If it can be mapped and a constant is none,
the mapping stops, and if it cannot be mapped, this is reported.  A mapping has one column for each
field that is not ignored, with the last column and the last tags that are given, and for each of
them a constant of its own that is a name. -/
theorem mapping_iff :
    (∀ m, d.mapping = .ok m ↔ ∃ fields, d.Mappable fields ∧
      (∀ f ∈ DeclaredField.kept fields, Identifier.isWord f.constant.toList = true) ∧
      m = d.mapped fields) ∧
    ((∃ constant, d.mapping = .error (.unnameable constant)) ↔ ∃ fields, d.Mappable fields ∧
      ∃ f ∈ DeclaredField.kept fields, Identifier.isWord f.constant.toList = false) ∧
    ((∃ e, d.mapping = .error e ∧ e.isReported = true) ↔ ¬ ∃ fields, d.Mappable fields) ∧
    ∀ m, d.mapping = .ok m → ∀ modulePath,
      (∃ fields, d.body = .record fields ∧ (m.schema modulePath).columns =
        (DeclaredField.kept fields).map fun f =>
          ⟨Naming.plain f.identifier,
            AttributeItem.lastText? "column" (Attribute.mappingItems f.attributes),
            (AttributeItem.lastText? "tag" (Attribute.mappingItems f.attributes)).getD ""⟩) ∧
      (m.handles modulePath).map (·.2.name) = (m.schema modulePath).columns.map (·.field) ∧
      ((m.handles modulePath).map (·.1)).Nodup ∧
      ∀ h ∈ m.handles modulePath, Identifier.isName h.1 = true := by
  refine ⟨fun m => mapping_eq_ok hwell, exists_mapping_unnameable hwell,
    exists_mapping_reported hwell, fun m hm modulePath => ?_⟩
  obtain ⟨fields, hmappable, hwords, rfl⟩ := (mapping_eq_ok hwell).1 hm
  have hhandles : ((d.mapped fields).handles modulePath).map (·.1) =
      (DeclaredField.kept fields).map (·.constant) :=
    List.map_map.trans (constants_mapped d fields)
  refine ⟨⟨fields, hmappable.record, List.map_map⟩, ?_, hhandles ▸ hmappable.apart, ?_⟩
  · have hcolumns : ((d.mapped fields).schema modulePath).columns.map (·.field) =
        (d.mapped fields).fields.map (·.name) := List.map_map
    exact List.map_map.trans hcolumns.symm
  · intro h hh
    obtain ⟨g, hg, rfl⟩ := List.mem_map.1 hh
    obtain ⟨f, hf, rfl⟩ := List.mem_map.1 hg
    exact Naming.isName_shouty (hwords f hf)

end

/-! #### Two declarations -/

/-- The attribute that speaks about the mapping. -/
def about (items : List AttributeItem) : List Attribute := [⟨Attribute.mappingPath, items⟩]

/-- The fields of a bottle.  Of its two stocks only one is kept, and its year has two columns. -/
def bottleFields : List (DeclaredField Unit) :=
  [⟨"yearOfHarvest", (), about [⟨"column", .text "y"⟩, ⟨"column", .text "year"⟩]⟩,
    ⟨"stock", (), about [⟨"column", .text "s"⟩, ⟨"ignore", .nothing⟩]⟩,
    ⟨"_stock", (), []⟩,
    ⟨"r#type", (), about [⟨"tag", .text "primary"⟩]⟩]

/-- A bottle. -/
def bottle : Declaration Unit where
  identifier := "Bottle"
  attributes := about [⟨"table", .text "bottles"⟩]
  body := .record bottleFields

/-- A bottle has three columns. -/
theorem mapping_iff_bottle :
    bottle.mapping = .ok (bottle.mapped bottleFields) ∧
    ((bottle.mapped bottleFields).schema "app").columns =
      [⟨"yearOfHarvest", some "year", ""⟩, ⟨"_stock", none, ""⟩, ⟨"type", none, "primary"⟩] ∧
    ((bottle.mapped bottleFields).handles "app").map (·.1) =
      ["YEAR_OF_HARVEST", "STOCK", "TYPE"] ∧
    ∀ h ∈ (bottle.mapped bottleFields).handles "app", Identifier.isName h.1 = true := by
  obtain ⟨hmapped, -, -, hnames⟩ := mapping_iff (d := bottle) (by decide)
  have hmappable : bottle.Mappable bottleFields := {
    notGeneric := rfl
    record := rfl
    typeItems := by decide
    fieldItems := by decide
    apart := by decide }
  have hmapping := (hmapped _).2 ⟨bottleFields, hmappable, by decide, rfl⟩
  obtain ⟨-, -, -, hname⟩ := hnames _ hmapping "app"
  exact ⟨hmapping, by decide, by decide, hname⟩

/-- The fields of a cellar, of which one is only numbered. -/
def cellarFields : List (DeclaredField Unit) := [⟨"_1", (), []⟩]

/-- A cellar. -/
def cellar : Declaration Unit where
  identifier := "Cellar"
  body := .record cellarFields

/-- A cellar can be mapped, and nothing is reported, but the constant of its field is a number. -/
theorem mapping_cellar :
    cellar.isWellFormed = true ∧ cellar.Mappable cellarFields ∧
      cellar.mapping = .error (.unnameable "1") ∧
      ¬ ((∃ m, cellar.mapping = .ok m) ↔ ∃ fields, cellar.Mappable fields) := by
  have hmappable : cellar.Mappable cellarFields := {
    notGeneric := rfl
    record := rfl
    typeItems := by decide
    fieldItems := by decide
    apart := by decide }
  have hmapping : cellar.mapping = .error (.unnameable "1") := by decide
  refine ⟨by decide, hmappable, hmapping, fun h => ?_⟩
  obtain ⟨m, hm⟩ := h.2 ⟨cellarFields, hmappable⟩
  cases hmapping.symm.trans hm

end Declaration

end EntitySql
