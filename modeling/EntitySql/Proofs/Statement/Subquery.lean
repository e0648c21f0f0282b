import EntitySql.Proofs.Query.Level
import EntitySql.Proofs.Statement.Command
import EntitySql.Proofs.Statement.Condition
import EntitySql.Proofs.Statement.Position

/-!
# Parts of what is rendered

A query is rendered only if every part of it is, and then each part stands in the whole as it is:
the predicates of `WHERE` and `HAVING` (`predicate_of_conjunction`), the sub-queries
(`query_of_mem_subs`), and so all of its levels (`query_of_level`) with their selected items
(`item_of_level`) and their predicates in `HAVING` (`predicate_of_level`).
-/

namespace EntitySql.Renderer

variable {r : Renderer}

section

variable {S : Type} {rendered : S → Rendered}

theorem standsIn_aggregated (aggregate : Option Aggregate) (f : Fragment) :
    f.StandsIn (aggregated aggregate f) := by
  cases aggregate with
  | none => exact f.standsIn_refl
  | some a => exact f.standsIn_parenthesized.append_left _

theorem params_aggregated (aggregate : Option Aggregate) (f : Fragment) :
    (aggregated aggregate f).params = f.params := by
  cases aggregate with
  | none => rfl
  | some a => simp [aggregated, Fragment.parenthesized]

/-- A selected column binds no values. -/
theorem item_column {c : ColumnRef} {sql : String} (h : r.column c = .ok sql)
    (aggregate : Option Aggregate) (aliasName : Option String) :
    r.item ⟨.column c, aggregate, aliasName⟩ = .ok ⟨(aggregated aggregate ⟨sql, []⟩).text, []⟩ := by
  have hitem : r.item ⟨.column c, aggregate, aliasName⟩ =
      (r.columnFragment c).map (aggregated aggregate) := rfl
  rw [hitem, columnFragment, h]
  exact congrArg (fun params => Except.ok (Fragment.mk _ params)) (params_aggregated aggregate _)

theorem subs_of_item {i : SelectItem S} {f : Fragment} (h : r.item (i.map rendered) = .ok f) :
    ∀ s ∈ i.subs, ∃ g, rendered s = .ok g ∧ g.StandsIn f := by
  intro s hs
  obtain ⟨inner, hinner, rfl⟩ := Outcome.map_eq_ok.1 h
  obtain ⟨expr, aggregate, aliasName⟩ := i
  cases expr with
  | column c => cases hs
  | sub q =>
    obtain rfl := List.mem_singleton.1 hs
    obtain ⟨g, hg, rfl⟩ := Outcome.map_eq_ok.1 hinner
    exact ⟨g, hg, g.standsIn_parenthesized.trans (standsIn_aggregated aggregate _)⟩

theorem subs_of_predicate {select : List (SelectItem Rendered)} {sec : Section} {p : Predicate S}
    {f : Fragment} (h : r.predicate select sec (p.map rendered) = .ok f) :
    ∀ s ∈ p.operand.subs, ∃ g, rendered s = .ok g ∧ g.StandsIn f := by
  intro s hs
  obtain ⟨lhs, -, hcondition⟩ := Outcome.bind_eq_ok.1 h
  obtain ⟨target, op, operand⟩ := p
  cases operand with
  | sub q =>
    obtain rfl := List.mem_singleton.1 hs
    obtain ⟨g, hg, rfl⟩ := condition_sub hcondition
    exact ⟨g, hg, g.standsIn_parenthesized.append_left _⟩
  | _ => cases hs

theorem ok_of_predicate {select : List (SelectItem Rendered)} {sec : Section} {p : Predicate S}
    {f : Fragment} (h : r.predicate select sec (p.map rendered) = .ok f) :
    ∀ s ∈ p.operand.subs, ∃ g, rendered s = .ok g :=
  fun s hs => (subs_of_predicate h s hs).imp fun _ hg => hg.1

theorem predicate_of_conjunction {keyword : String} {select : List (SelectItem Rendered)}
    {sec : Section} {ps : List (Predicate S)} {f : Fragment}
    (h : r.conjunction keyword select sec (ps.map (Predicate.map rendered)) = .ok f) :
    ∀ p ∈ ps, ∃ g, r.predicate select sec (p.map rendered) = .ok g ∧ g.StandsIn f := by
  intro p hp
  obtain ⟨conditions, hconditions, hf⟩ := Outcome.bind_eq_ok.1 h
  have hall := Outcome.mapM_eq_ok.1 hconditions
  obtain ⟨g, hg, hpredicate⟩ := Outcome.exists_of_forall₂ hall (List.mem_map_of_mem hp)
  -- there is a condition among them, so the clause has its keyword
  have hne : ¬ conditions.isEmpty = true := by
    rw [List.isEmpty_iff]
    exact List.ne_nil_of_mem hg
  rw [if_neg hne] at hf
  obtain rfl := Outcome.pure_eq_ok.1 hf
  exact ⟨g, hpredicate, (Fragment.standsIn_join " AND " hg).append_left _⟩

theorem predicate_ok_of_conjunction {keyword : String} {select : List (SelectItem Rendered)}
    {sec : Section} {ps : List (Predicate S)} {f : Fragment}
    (h : r.conjunction keyword select sec (ps.map (Predicate.map rendered)) = .ok f) :
    ∀ p ∈ ps, ∃ g, r.predicate select sec (p.map rendered) = .ok g :=
  fun p hp => (predicate_of_conjunction h p hp).imp fun _ hg => hg.1

/-- The items of a select list are rendered and stand in it with their aliases. -/
theorem item_of_selectList {is : List (SelectItem S)} {f : Fragment}
    (h : r.selectList (is.map (SelectItem.map rendered)) = .ok f) :
    ∀ i ∈ is, ∃ g, r.item (i.map rendered) = .ok g ∧
      (g ++ ⟨aliasSuffix i.aliasName, []⟩).StandsIn f := by
  intro i hi
  obtain ⟨fragments, hfragments, hf⟩ := Outcome.bind_eq_ok.1 h
  have hall := Outcome.mapM_eq_ok.1 hfragments
  obtain ⟨selected, hmem, hselected⟩ :=
    Outcome.exists_of_forall₂ hall (List.mem_map_of_mem hi)
  have hne : ¬ fragments.isEmpty = true := by
    rw [List.isEmpty_iff]
    exact List.ne_nil_of_mem hmem
  rw [if_neg hne] at hf
  obtain rfl := Outcome.pure_eq_ok.1 hf
  obtain ⟨g, hg, rfl⟩ := Outcome.map_eq_ok.1 hselected
  exact ⟨g, hg, Fragment.standsIn_join ", " hmem⟩

theorem subs_of_selectList {is : List (SelectItem S)} {f : Fragment}
    (h : r.selectList (is.map (SelectItem.map rendered)) = .ok f) :
    ∀ i ∈ is, ∀ s ∈ i.subs, ∃ g, rendered s = .ok g ∧ g.StandsIn f := by
  intro i hi s hs
  obtain ⟨item, hitem, hin⟩ := item_of_selectList h i hi
  obtain ⟨g, hg, hstands⟩ := subs_of_item hitem s hs
  exact ⟨g, hg, (hstands.append_right _).trans hin⟩

end

/-! ### Parts of a level -/

section

variable {c : Clauses Query} (hraw : c.raw = none) {f : Fragment} (h : r.query (.of c) = .ok f)
include hraw h

/-- The clauses of a rendered level are rendered and stand in it. -/
theorem clauses_of_query :
    (∃ items, r.selectList (c.select.map (SelectItem.map r.query)) = .ok items ∧
      items.StandsIn f) ∧
    (∃ filter, r.whereClause (c.map r.query) = .ok filter ∧ filter.StandsIn f) ∧
    ∃ having, r.havingClause (c.map r.query) = .ok having ∧ having.StandsIn f := by
  obtain ⟨items, hitems, rows, hrows, order, -, rfl⟩ :=
    r.selectLevel_eq_ok.1 ((r.query_eq_selectLevel hraw).symm.trans h)
  obtain ⟨table, -, joined, -, filter, hfilter, groups, -, having, hhaving, rfl⟩ :=
    r.source_eq_ok.1 hrows
  refine ⟨⟨items, hitems, ?_⟩, ⟨filter, hfilter, ?_⟩, having, hhaving, ?_⟩
  · exact (((items.standsIn_refl.append_left _).append_right _).append_right _).append_right _
      |>.append_right _
  · have hrows := ((filter.standsIn_refl.append_left ⟨" FROM " ++ table ++ joined, []⟩).append_right
      ⟨groups, []⟩).append_right having
    exact (((hrows.append_left _).append_right _).append_right _).append_right _
  · have hrows := having.standsIn_refl.append_left
      ((⟨" FROM " ++ table ++ joined, []⟩ : Fragment) ++ filter ++ ⟨groups, []⟩)
    exact (((hrows.append_left _).append_right _).append_right _).append_right _

/-- The predicates in `HAVING` of a rendered level are rendered and stand in it. -/
theorem predicate_of_query :
    ∀ p ∈ c.havings, ∃ g,
      r.predicate (c.select.map (SelectItem.map r.query)) .having (p.map r.query) = .ok g ∧
        g.StandsIn f := by
  intro p hp
  obtain ⟨-, -, having, hhaving, hstands⟩ := clauses_of_query hraw h
  obtain ⟨g, hg, hin⟩ := predicate_of_conjunction hhaving p hp
  exact ⟨g, hg, hin.trans hstands⟩

theorem predicate_ok_of_query :
    ∀ p ∈ c.havings, ∃ g,
      r.predicate (c.select.map (SelectItem.map r.query)) .having (p.map r.query) = .ok g :=
  fun p hp => (predicate_of_query hraw h p hp).imp fun _ hg => hg.1

/-- The sub-queries of a rendered level are rendered and stand in it. -/
theorem query_of_mem_subs : ∀ q ∈ c.subs, ∃ g, r.query q = .ok g ∧ g.StandsIn f := by
  intro q hq
  obtain ⟨⟨items, hitems, hselect⟩, ⟨filter, hfilter, hwhere⟩, -⟩ := clauses_of_query hraw h
  -- the sub-query stands in its item or operand, this in its clause, and the clause in the level
  rcases Clauses.mem_subs.1 hq with ⟨i, hi, hq⟩ | ⟨p, hp, hq⟩ | ⟨p, hp, hq⟩
  · obtain ⟨g, hg, hin⟩ := subs_of_selectList hitems i hi q hq
    exact ⟨g, hg, hin.trans hselect⟩
  · obtain ⟨conjunct, hconjunct, hin⟩ := predicate_of_conjunction hfilter p hp
    obtain ⟨g, hg, hoperand⟩ := subs_of_predicate hconjunct q hq
    exact ⟨g, hg, hoperand.trans (hin.trans hwhere)⟩
  · obtain ⟨conjunct, hconjunct, hin⟩ := predicate_of_query hraw h p hp
    obtain ⟨g, hg, hoperand⟩ := subs_of_predicate hconjunct q hq
    exact ⟨g, hg, hoperand.trans hin⟩

theorem query_ok_of_mem_subs : ∀ q ∈ c.subs, ∃ g, r.query q = .ok g :=
  fun q hq => (query_of_mem_subs hraw h q hq).imp fun _ hg => hg.1

end

/-! ### Levels -/

/-- If a query has a level without raw SQL, there is none at the outermost one. -/
theorem raw_eq_none_of_level {q : Query} {c : Clauses Query} (hc : q.Level c)
    (hraw : c.raw = none) : q.clauses.raw = none := by
  cases hc with
  | outermost => exact hraw
  | inner hraw' => exact hraw'

section

variable {q : Query} {d : Clauses Query} (hd : q.Level d) {f : Fragment} (h : r.query q = .ok f)
include hd h

/-- The levels of a rendered query are rendered and stand in it. -/
theorem query_of_level : ∃ g, r.query (.of d) = .ok g ∧ g.StandsIn f := by
  induction hd generalizing f with
  | outermost c => exact ⟨f, h, f.standsIn_refl⟩
  | inner hraw hq _ ih =>
    -- the level stands in the sub-query, and the sub-query in the level above it
    obtain ⟨sub, hsub, hstands⟩ := query_of_mem_subs hraw h _ hq
    obtain ⟨g, hg, hin⟩ := ih hsub
    exact ⟨g, hg, hin.trans hstands⟩

theorem query_ok_of_level : ∃ g, r.query (.of d) = .ok g :=
  (query_of_level hd h).imp fun _ hg => hg.1

/-- The selected items of all levels of a rendered query are rendered and stand in it with their
aliases. -/
theorem item_of_level (hraw : d.raw = none) {i : SelectItem Query} (hi : i ∈ d.select) :
    ∃ g, r.item (i.map r.query) = .ok g ∧ (g ++ ⟨aliasSuffix i.aliasName, []⟩).StandsIn f := by
  obtain ⟨level, hlevel, hstands⟩ := query_of_level hd h
  obtain ⟨⟨items, hitems, hselect⟩, -, -⟩ := clauses_of_query hraw hlevel
  obtain ⟨g, hg, hin⟩ := item_of_selectList hitems i hi
  exact ⟨g, hg, hin.trans (hselect.trans hstands)⟩

/-- The predicates in `HAVING` of all levels of a rendered query are rendered and stand in it. -/
theorem predicate_of_level (hraw : d.raw = none) {p : Predicate Query} (hp : p ∈ d.havings) :
    ∃ g, r.predicate (d.select.map (SelectItem.map r.query)) .having (p.map r.query) = .ok g ∧
      g.StandsIn f := by
  obtain ⟨level, hlevel, hstands⟩ := query_of_level hd h
  obtain ⟨g, hg, hin⟩ := predicate_of_query hraw hlevel p hp
  exact ⟨g, hg, hin.trans hstands⟩

end

end EntitySql.Renderer
