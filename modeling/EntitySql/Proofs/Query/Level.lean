import EntitySql.Query.Basic

/-!
# The levels of a query

Replacing the sub-queries of a level is functorial: two replacements in a row are one
(`Clauses.map_map`), and only what happens to the sub-queries that the level has matters
(`Clauses.map_congr`).

`Query.Level q c` says that `c` is a level of `q` that is rendered: the outermost one, or a level of
a sub-query of a level without raw override.
-/

namespace EntitySql

variable {S T U : Type}

/-! ### Replacing sub-queries -/

theorem Operand.map_map (g : T → U) (f : S → T) (o : Operand S) :
    (o.map f).map g = o.map fun s => g (f s) := by
  cases o <;> rfl

theorem Predicate.map_map (g : T → U) (f : S → T) (p : Predicate S) :
    (p.map f).map g = p.map fun s => g (f s) := by
  simp only [Predicate.map, Operand.map_map]

theorem SelectItem.map_map (g : T → U) (f : S → T) (i : SelectItem S) :
    (i.map f).map g = i.map fun s => g (f s) := by
  obtain ⟨expr, aggregate, aliasName⟩ := i
  cases expr <;> rfl

theorem Clauses.map_map (g : T → U) (f : S → T) (c : Clauses S) :
    (c.map f).map g = c.map fun s => g (f s) := by
  simp only [Clauses.map, List.map_map, Clauses.mk.injEq, true_and, and_true]
  refine ⟨?_, ?_, ?_⟩
  · exact List.map_congr_left fun i _ => SelectItem.map_map g f i
  · exact List.map_congr_left fun p _ => Predicate.map_map g f p
  · exact List.map_congr_left fun p _ => Predicate.map_map g f p

theorem Predicate.map_congr {f g : S → T} (p : Predicate S)
    (h : ∀ s ∈ p.operand.subs, f s = g s) : p.map f = p.map g := by
  obtain ⟨target, op, operand⟩ := p
  cases operand with
  | sub s => simp only [Predicate.map, Operand.map, h s (List.mem_singleton.2 rfl)]
  | _ => rfl

theorem SelectItem.map_congr {f g : S → T} (i : SelectItem S) (h : ∀ s ∈ i.subs, f s = g s) :
    i.map f = i.map g := by
  obtain ⟨expr, aggregate, aliasName⟩ := i
  cases expr with
  | sub s => simp only [SelectItem.map, SelectExpr.map, h s (List.mem_singleton.2 rfl)]
  | column c => rfl

/-! ### Where the sub-queries of a level stand -/

theorem Clauses.mem_subs {c : Clauses S} {s : S} :
    s ∈ c.subs ↔ (∃ i ∈ c.select, s ∈ i.subs) ∨ (∃ p ∈ c.wheres, s ∈ p.operand.subs) ∨
      ∃ p ∈ c.havings, s ∈ p.operand.subs := by
  simp only [Clauses.subs, List.mem_append, List.mem_flatMap, or_assoc]

theorem Clauses.mem_subs_of_select {c : Clauses S} {i : SelectItem S} (hi : i ∈ c.select) {s : S}
    (hs : s ∈ i.subs) : s ∈ c.subs :=
  Clauses.mem_subs.2 (Or.inl ⟨i, hi, hs⟩)

theorem Clauses.mem_subs_of_wheres {c : Clauses S} {p : Predicate S} (hp : p ∈ c.wheres) {s : S}
    (hs : s ∈ p.operand.subs) : s ∈ c.subs :=
  Clauses.mem_subs.2 (Or.inr (Or.inl ⟨p, hp, hs⟩))

theorem Clauses.mem_subs_of_havings {c : Clauses S} {p : Predicate S} (hp : p ∈ c.havings) {s : S}
    (hs : s ∈ p.operand.subs) : s ∈ c.subs :=
  Clauses.mem_subs.2 (Or.inr (Or.inr ⟨p, hp, hs⟩))

theorem Clauses.map_congr {f g : S → T} (c : Clauses S) (h : ∀ s ∈ c.subs, f s = g s) :
    c.map f = c.map g := by
  simp only [Clauses.map, Clauses.mk.injEq, true_and, and_true]
  refine ⟨?_, ?_, ?_⟩
  · exact List.map_congr_left fun i hi =>
      i.map_congr fun s hs => h s (Clauses.mem_subs_of_select hi hs)
  · exact List.map_congr_left fun p hp =>
      p.map_congr fun s hs => h s (Clauses.mem_subs_of_wheres hp hs)
  · exact List.map_congr_left fun p hp =>
      p.map_congr fun s hs => h s (Clauses.mem_subs_of_havings hp hs)

theorem Operand.subs_map (f : S → T) (o : Operand S) : (o.map f).subs = o.subs.map f := by
  cases o <;> rfl

theorem SelectItem.subs_map (f : S → T) (i : SelectItem S) : (i.map f).subs = i.subs.map f := by
  obtain ⟨expr, aggregate, aliasName⟩ := i
  cases expr <;> rfl

/-- The sub-queries of a level with replaced ones are the replaced ones. -/
theorem Clauses.subs_map (f : S → T) (c : Clauses S) : (c.map f).subs = c.subs.map f := by
  simp only [Clauses.subs, Clauses.map, List.flatMap_map, List.map_append, List.map_flatMap,
    Predicate.map, Operand.subs_map, SelectItem.subs_map]

/-! ### Rendered levels -/

/-- The levels of a query that are rendered. -/
inductive Query.Level : Query → Clauses Query → Prop
  | outermost (c : Clauses Query) : Level (.of c) c
  | inner {c : Clauses Query} {q : Query} {d : Clauses Query} (hraw : c.raw = none)
      (hq : q ∈ c.subs) (hd : Level q d) : Level (.of c) d

theorem Query.level_of_iff {c d : Clauses Query} :
    (Query.of c).Level d ↔ d = c ∨ (c.raw = none ∧ ∃ q ∈ c.subs, q.Level d) := by
  constructor
  · intro h
    cases h with
    | outermost => exact Or.inl rfl
    | inner hraw hq hd => exact Or.inr ⟨hraw, _, hq, hd⟩
  · rintro (rfl | ⟨hraw, q, hq, hd⟩)
    · exact .outermost d
    · exact .inner hraw hq hd

end EntitySql
