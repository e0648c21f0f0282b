import EntitySql.Proofs.Layout.Dialects
import EntitySql.Proofs.Layout.Filling
import EntitySql.Proofs.Layout.Plain
import EntitySql.Proofs.Layout.Position

/-!
# Placeholders and parameters

The text of a statement and its parameters are written apart from one another.  `statement_aligned`
says how they fit: with plain texts at every rendered level, the placeholders are as many as the
parameters iff no level strands values, and then each placeholder stands where its parameter
belongs.  Numbered with `$`, they read `1, 2, …` from left to right.

`having_aligned` says the same for what one predicate in `HAVING` adds to a statement, if its target
is replaced by the selected item that it names.

Both fail for a test for membership in the empty list whose target is replaced by a sub-query with
values (`strandedTotal_misaligned`, `strandedPage_misaligned`): the values are bound, and the
constant condition in the text has no place for them.
-/

namespace EntitySql

/-! ### Totals of a sub-query -/

/-- The amounts above 5 selected under an alias, with a test of the alias in `HAVING`. -/
def totals (op : Operator) (operand : Operand Query) (limit : Option UInt64) : Query :=
  .of { table := "Order", select := [⟨.sub (amountsAbove (.int 5)), none, some "total"⟩],
        havings := [⟨.aliased "total", op, operand⟩], limit := limit }

theorem level_totals {op : Operator} {operand : Operand Query} (hsubs : operand.subs = [])
    {limit : Option UInt64} {c : Clauses Query} (hc : (totals op operand limit).Level c) :
    c = (totals op operand limit).clauses ∨ c = (amountsAbove (.int 5)).clauses := by
  rcases Query.level_of_iff.1 hc with rfl | ⟨-, q, hq, hc⟩
  · exact Or.inl rfl
  · rcases Clauses.mem_subs.1 hq with ⟨i, hi, hq⟩ | ⟨p, hp, -⟩ | ⟨p, hp, hq⟩
    · obtain rfl := List.mem_singleton.1 hi
      obtain rfl := List.mem_singleton.1 hq
      rcases Query.level_of_iff.1 hc with rfl | ⟨-, q, hq, -⟩
      · exact Or.inr rfl
      · cases hq
    · cases hp
    · obtain rfl := List.mem_singleton.1 hp
      rw [hsubs] at hq
      cases hq

/-- All texts of both levels are plain. -/
theorem plain_totals (d : Dialect) {op : Operator} {operand : Operand Query}
    (hsubs : operand.subs = []) (htexts : operand.texts ⟨orders, d⟩ op = [])
    (limit : Option UInt64) :
    ∀ c, (totals op operand limit).Level c → c.Plain ⟨orders, d⟩ := by
  have houter : (totals op operand limit).clauses.texts ⟨orders, d⟩ =
      ["orders", "total"] ++ ("total" :: operand.texts ⟨orders, d⟩ op) :=
    congrArg (["orders", "total"] ++ ·) (by simp [totals, Query.clauses])
  have hinner : (amountsAbove (.int 5)).clauses.texts ⟨orders, d⟩ =
      ["orders", "amount", "amount"] := rfl
  intro c hc
  rcases level_totals hsubs hc with rfl | rfl
  · show ∀ t ∈ (totals op operand limit).clauses.texts ⟨orders, d⟩, Placeholder.Plain t
    rw [houter, htexts]
    decide
  · show ∀ t ∈ (amountsAbove (.int 5)).clauses.texts ⟨orders, d⟩, Placeholder.Plain t
    rw [hinner]
    decide

namespace Renderer

variable {r : Renderer}

/-- **Alignment** of a statement that selects, changes or deletes rows.

Its text has a placeholder for each parameter iff no rendered level strands values, and then the
parameters, filled in from left to right, come to their own places: first those of the select list,
then those of the changes or of `WHERE`, those of `HAVING`, and those of the page, where a sub-query
has its own between its parentheses.

The dialect has to put nothing but plain texts around others, as the built-in ones do
(`Dialect.nonempty_weaving`). -/
theorem statement_aligned (w : r.dialect.Weaving) {cmd : Command}
    (hraw : cmd.rows.clauses.raw = none) (hlevels : ∀ d, cmd.rows.Level d → d.Plain r)
    (hchanges : ∀ change ∈ cmd.changes, ∀ t ∈ change.texts r, Placeholder.Plain t)
    {st : Statement} (h : r.statement cmd = .ok st) :
    ∃ text, r.draft cmd = .ok ⟨text, st.params⟩ ∧ st.sql = r.dialect.number text ∧
      st.params = (r.blocks w cmd).flatten ∧
      Placeholder.after none text.toList = none ∧
      (Placeholder.count none text.toList = st.params.length ↔ r.KeepsPlaces cmd.rows) ∧
      (r.KeepsPlaces cmd.rows → ∀ literal : Value → List Char,
        Placeholder.fill literal st.params text.toList = (r.commandLayout w cmd).bound literal) ∧
      (r.dialect = .postgres →
        (∀ d, cmd.rows.Level d → ∀ raw ∈ d.raw,
          Placeholder.separated none raw.sql.toList = true) →
        Placeholder.count none st.sql.toList = 0 ∧
        Placeholder.dollars none st.sql.toList =
          (List.range' 1 (Placeholder.count none text.toList)).map
            fun k => (toString k).toList) := by
  -- the layout describes the fragment, and everything is read off the layout
  obtain ⟨f, hf, rfl⟩ := exists_draft_of_statement hraw h
  have htidy : (r.commandLayout w cmd).Tidy RawSql.Plain false :=
    tidy_commandLayout hlevels hchanges
  have hplain : (r.commandLayout w cmd).Plain := htidy.plainWith
  have hfits : f = (r.commandLayout w cmd).fragment := draft_fits w cmd f hf
  have hstrays : (r.commandLayout w cmd).strays = [] ↔ r.KeepsPlaces cmd.rows :=
    strays_commandLayout hf
  have htext : f.text = (r.commandLayout w cmd).fragment.text := congrArg Fragment.text hfits
  have hvalues : f.params = (r.commandLayout w cmd).values := congrArg Fragment.params hfits
  refine ⟨f.text, hf, rfl, hvalues.trans (values_commandLayout hraw), ?_, ?_, ?_, ?_⟩
  · rw [htext]
    exact Layout.after_text hplain
  · -- what the parameters are more than the placeholders are the strays
    have hlength := Layout.length_values hplain
    rw [← hstrays, ← List.length_eq_zero_iff]
    show Placeholder.count none f.text.toList = f.params.length ↔ _
    rw [hvalues, htext, hlength]
    omega
  · intro hkeeps literal
    show Placeholder.fill literal f.params f.text.toList = _
    rw [hvalues, htext]
    exact Layout.fill_text literal hplain (hstrays.2 hkeeps)
  · intro hdialect hseparated
    have hsep : Placeholder.separated none f.text.toList = true := by
      -- the same layout is tidy with hand-written SQL that keeps its placeholders apart
      rw [htext]
      exact (tidy_commandLayout (w := w) (fun d hd => (hlevels d hd).and r (hseparated d hd))
        hchanges).separated fun sql hsql => hsql
    have hdollars : Placeholder.dollars none f.text.toList = [] := by
      rw [htext]
      exact Layout.dollars_text hplain
    have hsql : (r.finish f).sql.toList =
        Placeholder.number Placeholder.dollarMark none 0 f.text.toList := by
      show (r.dialect.number f.text).toList = _
      rw [hdialect, Placeholder.toList_number_postgres]
    rw [hsql]
    exact ⟨Placeholder.count_number none 0 f.text.toList,
      Placeholder.dollars_number none 0 hdollars hsep⟩

set_option maxRecDepth 4000 in
/-- The values of a selected sub-query and those of its expansion in `HAVING` have their places. -/
theorem statement_aligned_totals :
    (Renderer.mk orders .postgres).KeepsPlaces (totals .gt (.value (.int 7)) none) ∧
      ∃ sql, (Renderer.mk orders .postgres).select (totals .gt (.value (.int 7)) none) =
          .ok ⟨sql, [.int 5, .int 5, .int 7]⟩ ∧
        Placeholder.dollars none sql.toList = [['1'], ['2'], ['3']] := by
  have hlevels : ∀ d, (Command.select (totals .gt (.value (.int 7)) none)).rows.Level d →
      d.Plain ⟨orders, .postgres⟩ := plain_totals .postgres rfl rfl none
  have hdraft : (Renderer.mk orders .postgres).draft
      (.select (totals .gt (.value (.int 7)) none)) = .ok
        ⟨"SELECT (SELECT amount FROM orders WHERE amount > ?) AS total FROM orders HAVING " ++
          "(SELECT amount FROM orders WHERE amount > ?) > ?", [.int 5, .int 5, .int 7]⟩ := rfl
  have hstatement : (Renderer.mk orders .postgres).statement
      (.select (totals .gt (.value (.int 7)) none)) = .ok
        ⟨"SELECT (SELECT amount FROM orders WHERE amount > $1) AS total FROM orders HAVING " ++
          "(SELECT amount FROM orders WHERE amount > $2) > $3", [.int 5, .int 5, .int 7]⟩ := rfl
  obtain ⟨text, htext, -, -, -, hcount, -, hnumbers⟩ :=
    statement_aligned (r := ⟨orders, .postgres⟩) Dialect.postgresWeaving rfl hlevels
      (List.forall_mem_nil _) hstatement
  have hthree : Placeholder.count none text.toList = 3 := by
    obtain rfl := congrArg Fragment.text (Except.ok.inj (hdraft.symm.trans htext))
    decide
  refine ⟨hcount.1 hthree, _, hstatement, ?_⟩
  obtain ⟨-, hdollars⟩ := hnumbers rfl fun d hd raw hraw => by
    rcases level_totals rfl hd with rfl | rfl <;> cases hraw
  rw [hdollars, hthree]
  rfl

set_option maxRecDepth 4000 in
/-- Two parameters, and one placeholder. -/
theorem strandedTotal_misaligned :
    (∀ d, (totals .in (.list []) none).Level d → d.Plain ⟨orders, .postgres⟩) ∧
      ∃ text, (Renderer.mk orders .postgres).draft (.select (totals .in (.list []) none)) =
          .ok ⟨text, [.int 5, .int 5]⟩ ∧
        Placeholder.count none text.toList = 1 :=
  ⟨plain_totals .postgres rfl rfl none,
    "SELECT (SELECT amount FROM orders WHERE amount > ?) AS total FROM orders HAVING 1=0", rfl,
    by decide⟩

/-! ### Predicates in `HAVING` -/

/-- The layout of a predicate in `HAVING` has no strays iff it strands no values and no sub-query in
it does. -/
theorem strays_havingPredicate (w : r.dialect.Weaving) {c : Clauses Query} (hraw : c.raw = none)
    {f : Fragment} (h : r.query (.of c) = .ok f) {p : Predicate Query} (hp : p ∈ c.havings)
    {i : SelectItem Query} (hi : r.Replaces c.select p.target i) :
    (r.predicateLayout w (c.select.map (SelectItem.map (r.layout w))) .having
        (p.map (r.layout w))).strays = [] ↔
      ¬ r.StrandsAt r.Binds c.select p ∧ (∀ s ∈ i.subs, r.KeepsPlaces s) ∧
        ∀ s ∈ p.operand.subs, r.KeepsPlaces s := by
  have hsubs : ∀ s ∈ c.subs, ∃ g, r.query s = .ok g := query_ok_of_mem_subs hraw h
  have hkeeps : ∀ s ∈ c.subs, ((r.layout w s).strays = [] ↔ r.KeepsPlaces s) := by
    intro s hs
    obtain ⟨g, hg⟩ := hsubs s hs
    exact strays_layout hg
  have hitem : (∀ l ∈ (i.map (r.layout w)).subs, l.strays = []) ↔
      ∀ s ∈ i.subs, r.KeepsPlaces s := by
    rw [SelectItem.subs_map, List.forall_mem_map]
    exact forall₂_congr fun s hs => hkeeps s (Clauses.mem_subs_of_select hi.mem hs)
  have hoperand : (∀ l ∈ (p.map (r.layout w)).operand.subs, l.strays = []) ↔
      ∀ s ∈ p.operand.subs, r.KeepsPlaces s := by
    rw [show (p.map (r.layout w)).operand.subs = _ from Operand.subs_map _ _, List.forall_mem_map]
    exact forall₂_congr fun s hs => hkeeps s (Clauses.mem_subs_of_havings hp hs)
  -- the layout of the level replaces the target by the layout of the same item
  have hreplaced := (replaces_map (r.layout w)).2 ⟨i, hi, rfl⟩
  rw [strays_predicateLayout_of_replaces hreplaced, strandsAt_layout hsubs]
  exact and_congr_right fun _ => and_congr hitem hoperand

/-- **Alignment** of what a predicate in `HAVING` adds to a statement, if its target is replaced by
a selected item.

The fragment of the predicate stands in that of the whole query as it is, between closed quotes.  It
has a placeholder for each of its parameters, so that what follows it keeps its own, iff the
predicate strands no values and no sub-query in it does. -/
theorem having_aligned (w : r.dialect.Weaving) {q : Query} {c : Clauses Query} (hc : q.Level c)
    (hraw : c.raw = none) {p : Predicate Query} (hp : p ∈ c.havings) {i : SelectItem Query}
    (hi : r.Replaces c.select p.target i) (hlevels : ∀ d, q.Level d → d.Plain r) {st : Statement}
    (h : r.select q = .ok st) :
    ∃ before g behind,
      r.query q = .ok (before ++ g ++ behind) ∧ st = r.finish (before ++ g ++ behind) ∧
      r.predicate (c.select.map (SelectItem.map r.query)) .having (p.map r.query) = .ok g ∧
      Placeholder.after none before.text.toList = none ∧
      Placeholder.after none g.text.toList = none ∧
      (g.params.length = Placeholder.count none g.text.toList ↔
        ¬ r.StrandsAt r.Binds c.select p ∧ (∀ s ∈ i.subs, r.KeepsPlaces s) ∧
          ∀ s ∈ p.operand.subs, r.KeepsPlaces s) := by
  have hrows : (Command.select q).rows.clauses.raw = none := raw_eq_none_of_level hc hraw
  obtain ⟨f, hf, rfl⟩ := exists_draft_of_statement hrows h
  have hplain : (r.layout w q).Plain := (tidy_layout (w := w) hlevels).plainWith
  obtain ⟨level, hlevel⟩ := query_ok_of_level hc hf
  obtain ⟨g, hg⟩ := predicate_ok_of_query hraw hlevel p hp
  have hg' := predicate_fits w c.select (fun _ _ s _ => query_fits w s) .having p
    (fun s _ => query_fits w s) g hg
  -- the layout of the predicate stands in that of its level, and so in that of the query
  have hinfix : r.predicateLayout w (c.select.map (SelectItem.map (r.layout w))) .having
      (p.map (r.layout w)) <:+: r.layout w q := by
    refine List.IsInfix.trans ?_ (infix_layout_of_level hc)
    rw [layout_of]
    exact infix_levelLayout_of_havings (c := c.map (r.layout w)) hraw (List.mem_map_of_mem hp)
  obtain ⟨before, behind, heq⟩ := hinfix
  rw [← heq] at hplain
  obtain ⟨hfront, -⟩ := Layout.plainWith_append.1 hplain
  obtain ⟨hbefore, hpredicate⟩ := Layout.plainWith_append.1 hfront
  have hf' : f = Layout.fragment before ++ g ++ Layout.fragment behind := by
    rw [query_fits w q f hf, ← heq, Layout.fragment_append, Layout.fragment_append, hg']
  -- the fragments before and behind are those of the two parts of the layout
  refine ⟨Layout.fragment before, g, Layout.fragment behind, ?_, ?_, hg,
    Layout.after_text hbefore, ?_, ?_⟩
  · rw [← hf']
    exact hf
  · rw [← hf']
  · rw [hg']
    exact Layout.after_text hpredicate
  · rw [← strays_havingPredicate w hraw hlevel hp hi]
    have hlength := Layout.length_values hpredicate
    rw [Layout.values, ← hg'] at hlength
    rw [hlength, ← List.length_eq_zero_iff]
    omega

set_option maxRecDepth 4000 in
/-- A comparison of an expanded sub-query has a placeholder for its value and one for that of the
sub-query. -/
theorem having_aligned_totals :
    ¬ (Renderer.mk orders .mssql).StrandsAt (Renderer.mk orders .mssql).Binds
        (totals .gt (.value (.int 7)) (some 10)).clauses.select
        ⟨.aliased "total", .gt, .value (.int 7)⟩ ∧
      (Renderer.mk orders .mssql).KeepsPlaces (amountsAbove (.int 5)) := by
  have hselect : (Renderer.mk orders .mssql).select (totals .gt (.value (.int 7)) (some 10)) = .ok
      ⟨"SELECT (SELECT amount FROM orders WHERE amount > ?) AS total FROM orders HAVING " ++
        "(SELECT amount FROM orders WHERE amount > ?) > ? ORDER BY (SELECT NULL) OFFSET ? ROWS " ++
        "FETCH NEXT ? ROWS ONLY", [.int 5, .int 5, .int 7, .int 0, .int 10]⟩ := rfl
  have hpredicate : (Renderer.mk orders .mssql).predicate
      ((totals .gt (.value (.int 7)) (some 10)).clauses.select.map
        (SelectItem.map (Renderer.mk orders .mssql).query)) .having
      ⟨.aliased "total", .gt, .value (.int 7)⟩ =
        .ok ⟨"(SELECT amount FROM orders WHERE amount > ?) > ?", [.int 5, .int 7]⟩ := rfl
  obtain ⟨-, g, -, -, -, hg, -, -, hcount⟩ :=
    having_aligned (r := ⟨orders, .mssql⟩) Dialect.mssqlWeaving
      (.outermost (totals .gt (.value (.int 7)) (some 10)).clauses) rfl List.mem_cons_self
      (i := ⟨.sub (amountsAbove (.int 5)), none, some "total"⟩) ⟨rfl, "total", rfl, rfl⟩
      (plain_totals .mssql rfl rfl (some 10)) hselect
  have htwo : g.params.length = Placeholder.count none g.text.toList := by
    obtain rfl := Except.ok.inj (hpredicate.symm.trans hg)
    decide
  obtain ⟨hstrands, hkeeps, -⟩ := hcount.1 htwo
  exact ⟨hstrands, hkeeps _ (List.mem_singleton.2 rfl)⟩

set_option maxRecDepth 4000 in
/-- The predicate binds a value, and its text has no placeholder: the skipped rows of the page come
to be the value that was bound in vain. -/
theorem strandedPage_misaligned :
    (∀ d, (totals .notIn (.list []) (some 10)).Level d → d.Plain ⟨orders, .mssql⟩) ∧
      (Renderer.mk orders .mssql).select (totals .notIn (.list []) (some 10)) = .ok
        ⟨"SELECT (SELECT amount FROM orders WHERE amount > ?) AS total FROM orders HAVING 1=1" ++
          " ORDER BY (SELECT NULL) OFFSET ? ROWS FETCH NEXT ? ROWS ONLY",
          [.int 5, .int 5, .int 0, .int 10]⟩ ∧
      (Renderer.mk orders .mssql).predicate
          ((totals .notIn (.list []) (some 10)).clauses.select.map
            (SelectItem.map (Renderer.mk orders .mssql).query)) .having
          ⟨.aliased "total", .notIn, .list []⟩ = .ok ⟨"1=1", [.int 5]⟩ :=
  ⟨plain_totals .mssql rfl rfl (some 10), rfl, rfl⟩

end Renderer

end EntitySql
