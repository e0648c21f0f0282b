import EntitySql.Declaration.Mapping
import EntitySql.Proofs.Statement.Outcome
import Mathlib.Data.List.Nodup

/-!
# Names of mapped fields

The fields of a mapping that a declaration has differ in their constants, and so in their names.

`Declaration.candidates` is the mapping as far as it comes before constants are compared.  Two
candidates with one constant are always found, and the declaration is refused for such a pair
(`exists_sharedConstant`).
-/

namespace EntitySql.Declaration

variable {τ : Type}

/-- Where no clash is found, there is none. -/
theorem nodup_of_clash?_eq_none {seen fields : List (MappedField τ)}
    (hseen : (seen.map MappedField.constant).Nodup) (h : clash? seen fields = none) :
    ((seen ++ fields).map MappedField.constant).Nodup := by
  -- the fields already looked at keep apart, and each next one is unlike all of them
  induction fields generalizing seen with
  | nil => rwa [List.append_nil]
  | cons f rest ih =>
    rw [clash?] at h
    split at h
    next => cases h
    next hfind =>
      have hfresh : f.constant ∉ seen.map MappedField.constant := by
        intro hf
        obtain ⟨g, hg, hgf⟩ := List.mem_map.1 hf
        exact List.find?_eq_none.1 hfind g hg (beq_iff_eq.2 hgf)
      have hlonger : ((seen ++ [f]).map MappedField.constant).Nodup := by
        rw [List.map_append, List.map_singleton, List.nodup_append']
        exact ⟨hseen, List.nodup_singleton _, List.disjoint_singleton.2 hfresh⟩
      rw [List.append_cons]
      exact ih hlonger h

/-- Where no clash is found from the beginning, no two fields have one constant. -/
theorem nodup_of_clash?_nil {fields : List (MappedField τ)} (h : clash? [] fields = none) :
    (fields.map MappedField.constant).Nodup := by
  have hseen : (([] : List (MappedField τ)).map MappedField.constant).Nodup := List.nodup_nil
  exact nodup_of_clash?_eq_none hseen h

/-- A clash that is found is one: two fields with one constant, in this order. -/
theorem clash?_eq_some {seen fields : List (MappedField τ)} {a b : MappedField τ}
    (h : clash? seen fields = some (a, b)) :
    a.constant = b.constant ∧ [a, b].Sublist (seen ++ fields) := by
  induction fields generalizing seen with
  | nil => cases h
  | cons f rest ih =>
    rw [clash?] at h
    split at h
    next earlier hfind =>
      obtain ⟨rfl, rfl⟩ := Prod.mk.inj (Option.some.inj h)
      refine ⟨by simpa using List.find?_some hfind, ?_⟩
      have hseen : [earlier].Sublist seen :=
        List.singleton_sublist.2 (List.mem_of_find?_eq_some hfind)
      exact hseen.append (List.singleton_sublist.2 List.mem_cons_self)
    next =>
      rw [List.append_cons]
      exact ih h

theorem not_nodup_of_sublist {mapped : List (MappedField τ)} {a b : MappedField τ}
    (h : [a, b].Sublist mapped) (hab : a.constant = b.constant) :
    ¬ (mapped.map MappedField.constant).Nodup := by
  intro hnodup
  -- a part of a list without repetition would be without repetition too
  have hpair : [a.constant, b.constant].Nodup := hnodup.sublist (h.map _)
  exact (List.nodup_cons.1 hpair).1 (List.mem_singleton.2 hab)

/-! ### Before constants are compared -/

/-- The fields that are mapped by a declaration that nothing is wrong with but its constants. -/
def candidates (d : Declaration τ) : Except DeclarationError (List (MappedField τ)) := do
  if !d.isWellFormed then throw .malformed
  let fields ← d.recordFields
  let _ ← d.table.mapError .attribute
  let marked ← (fields.mapM DeclaredField.mapped?).mapError .attribute
  return marked.filterMap id

theorem candidates_eq_ok {d : Declaration τ} {mapped : List (MappedField τ)} :
    d.candidates = .ok mapped ↔ d.isWellFormed = true ∧ ∃ fields, d.recordFields = .ok fields ∧
      ∃ table, d.table = .ok table ∧ ∃ marked, fields.mapM DeclaredField.mapped? = .ok marked ∧
        marked.filterMap id = mapped := by
  rw [candidates]
  cases hwell : d.isWellFormed with
  | false =>
    refine ⟨fun h => ?_, fun h => absurd h.1 Bool.false_ne_true⟩
    cases h
  | true =>
    show (d.recordFields >>= fun fields => d.table.mapError .attribute >>= fun _ =>
      (fields.mapM DeclaredField.mapped?).mapError .attribute >>= fun marked => pure _) = _ ↔ _
    simp only [Outcome.bind_eq_ok, Outcome.mapError_eq_ok, Outcome.pure_eq_ok, true_and]

/-- What is done with the candidates: the first clash is refused, then the first constant that is no
identifier. -/
theorem mapping_of_candidates {d : Declaration τ} {mapped : List (MappedField τ)}
    (h : d.candidates = .ok mapped) : ∃ table, d.table = .ok table ∧ d.mapping =
      match clash? [] mapped, mapped.find? fun f => !Identifier.isWord f.constant.toList with
      | some (a, b), _ => .error (.sharedConstant a.identifier b.identifier b.constant)
      | none, some f => .error (.unnameable f.constant)
      | none, none => .ok ⟨Naming.plain d.identifier, table, mapped⟩ := by
  obtain ⟨hwell, fields, hfields, table, htable, marked, hmarked, rfl⟩ := candidates_eq_ok.1 h
  refine ⟨table, htable, ?_⟩
  rw [mapping, hwell, hfields, htable, Bool.not_true, if_neg Bool.false_ne_true]
  show (mappedFields fields >>= fun mapped => _) = _
  rw [mappedFields, hmarked]
  dsimp only [Except.mapError, bind, Except.bind]
  cases clash? [] (marked.filterMap id) with
  | some pair => rfl
  | none =>
    dsimp only [pure, Except.pure]
    cases (marked.filterMap id).find? fun f => !Identifier.isWord f.constant.toList <;> rfl

theorem candidates_of_mapping {d : Declaration τ} {m : Mapping τ} (h : d.mapping = .ok m) :
    d.candidates = .ok m.fields := by
  rw [mapping] at h
  split at h
  next => cases h
  next hwell =>
    -- each check that was passed is one of those that the candidates need
    obtain ⟨fields, hfields, h⟩ := Outcome.bind_eq_ok.1 h
    obtain ⟨table, htable, h⟩ := Outcome.bind_eq_ok.1 h
    obtain ⟨mapped, hmapped, h⟩ := Outcome.bind_eq_ok.1 h
    obtain ⟨marked, hmarked, hmapped⟩ := Outcome.bind_eq_ok.1 hmapped
    dsimp only at hmapped
    split at hmapped
    next => cases hmapped
    next =>
      obtain rfl := Except.ok.inj hmapped
      split at h
      next => cases h
      next =>
        obtain rfl := Except.ok.inj h
        exact candidates_eq_ok.2 ⟨by simpa using hwell, fields, hfields, table,
          Outcome.mapError_eq_ok.1 htable, marked, Outcome.mapError_eq_ok.1 hmarked, rfl⟩

/-- A declaration that maps two fields to one constant is refused for two such fields. -/
theorem exists_sharedConstant {d : Declaration τ} {mapped : List (MappedField τ)}
    (h : d.candidates = .ok mapped) {f g : MappedField τ} (hfg : [f, g].Sublist mapped)
    (hconstant : f.constant = g.constant) :
    ∃ a b, [a, b].Sublist mapped ∧ a.constant = b.constant ∧
      d.mapping = .error (.sharedConstant a.identifier b.identifier b.constant) := by
  obtain ⟨table, -, hmapping⟩ := mapping_of_candidates h
  cases hclash : clash? [] mapped with
  | none => exact absurd (nodup_of_clash?_nil hclash) (not_nodup_of_sublist hfg hconstant)
  | some pair =>
    obtain ⟨a, b⟩ := pair
    obtain ⟨hab, hsub⟩ := clash?_eq_some hclash
    rw [hclash] at hmapping
    exact ⟨a, b, hsub, hab, hmapping⟩

/-! ### Names of their own -/

/-- The fields of a mapping have constants of their own. -/
theorem nodup_constants {d : Declaration τ} {m : Mapping τ} (h : d.mapping = .ok m) :
    (m.fields.map MappedField.constant).Nodup := by
  obtain ⟨table, -, hmapping⟩ := mapping_of_candidates (candidates_of_mapping h)
  cases hclash : clash? [] m.fields with
  | none => exact nodup_of_clash?_nil hclash
  | some pair =>
    rw [hmapping, hclash] at h
    cases h

/-- The fields of a mapping have names of their own. -/
theorem nodup_names {d : Declaration τ} {m : Mapping τ} (h : d.mapping = .ok m) :
    (m.fields.map (·.name)).Nodup := by
  have hconstants := nodup_constants h
  rw [show MappedField.constant = Naming.shouty ∘ fun f : MappedField τ => f.name from rfl,
    ← List.map_map] at hconstants
  exact hconstants.of_map

end EntitySql.Declaration
