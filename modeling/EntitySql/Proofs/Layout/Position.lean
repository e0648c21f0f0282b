import EntitySql.Proofs.Layout.Rendering

/-!
# Where levels and predicates stand

The layout of a rendered level stands in the layout of the query as it is
(`Renderer.infix_layout_of_level`), and the layout of a predicate in `HAVING` in that of its level
(`Renderer.infix_levelLayout_of_havings`).
-/

namespace EntitySql

namespace Layout

theorem infix_parenthesized (l : Layout) : l <:+: l.parenthesized :=
  List.infix_cons List.infix_append_left

/-- Each of the joined layouts stands in the whole. -/
theorem infix_join (sep : String) {ls : List Layout} {l : Layout} (h : l ∈ ls) :
    l <:+: join sep ls := by
  induction ls with
  | nil => cases h
  | cons m rest ih =>
    cases rest with
    | nil =>
      obtain rfl := List.mem_singleton.1 h
      exact List.infix_rfl
    | cons m' rest =>
      rcases List.mem_cons.1 h with rfl | h
      · exact List.infix_append_left
      · exact List.infix_append_of_infix_right (List.infix_cons (ih h))

end Layout

namespace Renderer

variable {r : Renderer} {w : r.dialect.Weaving}

theorem infix_itemLayout {i : SelectItem Layout} {l : Layout} (h : l ∈ i.subs) :
    l <:+: r.itemLayout i := by
  obtain ⟨expr, aggregate, aliasName⟩ := i
  cases expr with
  | column c => cases h
  | sub m =>
    obtain rfl := List.mem_singleton.1 h
    have hexpr : l <:+: r.expressionLayout (.sub l) := Layout.infix_parenthesized l
    cases aggregate with
    | none => exact hexpr
    | some a => exact List.infix_cons (hexpr.trans (Layout.infix_parenthesized _))

theorem infix_selectListLayout {is : List (SelectItem Layout)} {i : SelectItem Layout}
    (hi : i ∈ is) {l : Layout} (h : l ∈ i.subs) : l <:+: r.selectListLayout is := by
  have hne : ¬ is.isEmpty = true := by
    rw [List.isEmpty_iff]
    exact List.ne_nil_of_mem hi
  rw [selectListLayout, if_neg hne]
  have hitem : l <:+: r.selectItemLayout i :=
    List.infix_append_of_infix_left (infix_itemLayout h)
  exact hitem.trans (Layout.infix_join ", " (List.mem_map_of_mem hi))

theorem infix_predicateLayout {select : List (SelectItem Layout)} {sec : Section}
    {p : Predicate Layout} {l : Layout} (h : l ∈ p.operand.subs) :
    l <:+: r.predicateLayout w select sec p := by
  obtain ⟨target, op, operand⟩ := p
  cases operand with
  | sub m =>
    obtain rfl := List.mem_singleton.1 h
    exact List.infix_append_of_infix_right
      (List.infix_cons (Layout.infix_parenthesized l))
  | _ => cases h

theorem infix_conjunctionLayout (keyword : String) {select : List (SelectItem Layout)}
    {sec : Section} {ps : List (Predicate Layout)} {p : Predicate Layout} (hp : p ∈ ps) :
    r.predicateLayout w select sec p <:+: r.conjunctionLayout w keyword select sec ps := by
  have hne : ¬ ps.isEmpty = true := by
    rw [List.isEmpty_iff]
    exact List.ne_nil_of_mem hp
  rw [conjunctionLayout, if_neg hne]
  exact List.infix_cons (Layout.infix_join " AND " (List.mem_map_of_mem hp))

/-! ### Parts of a level -/

section

variable {c : Clauses Layout} (hraw : c.raw = none)
include hraw

theorem infix_levelLayout {l : Layout}
    (h : l <:+: r.selectListLayout c.select ∨ l <:+: r.whereLayout w c ∨
      l <:+: r.havingLayout w c) : l <:+: r.levelLayout w c := by
  rw [levelLayout, hraw]
  refine List.infix_append_of_infix_left ?_
  rcases h with h | h | h
  · exact List.infix_append_of_infix_left (List.infix_cons h)
  · exact List.infix_append_of_infix_right
      (List.infix_append_of_infix_left (List.infix_cons h))
  · exact List.infix_append_of_infix_right
      (List.infix_append_of_infix_right (List.infix_cons h))

/-- The layout of a predicate in `HAVING` stands in that of its level. -/
theorem infix_levelLayout_of_havings {p : Predicate Layout} (hp : p ∈ c.havings) :
    r.predicateLayout w c.select .having p <:+: r.levelLayout w c :=
  infix_levelLayout hraw (Or.inr (Or.inr (infix_conjunctionLayout " HAVING " hp)))

/-- The layouts of the sub-queries stand in that of the level. -/
theorem infix_levelLayout_of_subs {l : Layout} (hl : l ∈ c.subs) : l <:+: r.levelLayout w c := by
  refine infix_levelLayout hraw ?_
  rcases Clauses.mem_subs.1 hl with ⟨i, hi, hl⟩ | ⟨p, hp, hl⟩ | ⟨p, hp, hl⟩
  · exact Or.inl (infix_selectListLayout hi hl)
  · exact Or.inr (Or.inl ((infix_predicateLayout hl).trans (infix_conjunctionLayout _ hp)))
  · exact Or.inr (Or.inr ((infix_predicateLayout hl).trans (infix_conjunctionLayout _ hp)))

end

/-- The layouts of the rendered levels stand in that of the query. -/
theorem infix_layout_of_level {q : Query} {d : Clauses Query} (h : q.Level d) :
    r.layout w (.of d) <:+: r.layout w q := by
  induction h with
  | outermost c => exact List.infix_rfl
  | @inner c q d hraw hq _ ih =>
    -- the level stands in the sub-query, and the sub-query in the level above it
    refine ih.trans ?_
    rw [layout_of]
    refine infix_levelLayout_of_subs hraw ?_
    rw [Clauses.subs_map]
    exact List.mem_map_of_mem hq

end Renderer

end EntitySql
