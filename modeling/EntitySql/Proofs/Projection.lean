import EntitySql.Proofs.Having.Target
import EntitySql.Query.Projection

/-!
# The rows of projections

A projection asks another question about the rows of a query (`Query.project`): it replaces the
select list and keeps the tables, the conditions and the groups.  `Renderer.project_keeps_rows` says
that the question can be asked of every query that is rendered, and that the part of the text that
decides which rows and groups there are is the same, with the same values.

There is one exception.  Where a dialect knows no aliases in `HAVING`, a target there is replaced by
the item that it names, and the items of the query are no longer selected.  Then the alias stays as
it is (`Renderer.countOfSums_keeps_alias`).
-/

namespace EntitySql

variable {S : Type}

/-! ### Questions -/

/-- A question about the rows of a query. -/
inductive Projection where
  /-- One aggregate over the rows. -/
  | aggregate (f : Aggregate) (target : ColumnRef)
  /-- Whether there is a row. -/
  | exists
  /-- One column of all rows. -/
  | column (target : ColumnRef)
  /-- One column of the first row. -/
  | firstOfColumn (target : ColumnRef)

namespace Projection

/-- The column that is asked for. -/
def target : Projection → ColumnRef
  | .aggregate _ t | .column t | .firstOfColumn t => t
  | .exists => .expr "1"

/-- The item that is selected in the place of all others. -/
def item : Projection → SelectItem S
  | .aggregate f t => ⟨.column t, some f, none⟩
  | .column t | .firstOfColumn t => ⟨.column t, none, none⟩
  | .exists => ⟨.column (.expr "1"), none, none⟩

end Projection

/-- The question about the rows of a query. -/
def Query.project (q : Query) : Projection → Query
  | .aggregate f t => q.toAggregate f t
  | .exists => q.toExists
  | .column t => q.toSingleColumn t
  | .firstOfColumn t => (q.toSingleColumn t).firstRow

namespace Renderer

variable {r : Renderer} {q : Query}

section

variable (hraw : q.clauses.raw = none) (p : Projection)
include hraw

theorem raw_project : (q.project p).clauses.raw = none := by
  cases p with
  | firstOfColumn t =>
    have hfirst : ((q.toSingleColumn t).firstRow).clauses.raw = q.clauses.raw := by
      unfold Query.firstRow
      split_ifs <;> rfl
    exact hfirst.trans hraw
  | _ => exact hraw

/-- Nothing but the select list, the order, the page and the lock are replaced. -/
theorem opened_project : ∃ distinct orderBy limit offset lock,
    (orderBy = [] ∨ orderBy = q.clauses.orderBy) ∧
      r.opened (q.project p) = { r.opened q with
        select := [p.item], distinct := distinct, orderBy := orderBy, limit := limit,
        offset := offset, lock := lock } := by
  cases p with
  | aggregate f t => exact ⟨false, [], none, none, false, .inl rfl, rfl⟩
  | «exists» => exact ⟨false, [], some 1, none, false, .inl rfl, rfl⟩
  | column t =>
    exact ⟨q.clauses.distinct, q.clauses.orderBy, q.clauses.limit, q.clauses.offset,
      q.clauses.lock, .inr rfl, rfl⟩
  | firstOfColumn t =>
    refine ⟨q.clauses.distinct, q.clauses.orderBy, some 1, q.clauses.offset, q.clauses.lock,
      .inr rfl, ?_⟩
    -- asking for the first row is a limit as long as there is no raw SQL to replace
    have hfirst : (q.toSingleColumn t).firstRow = (q.toSingleColumn t).apply (.limit 1) := by
      have hnone : (q.toSingleColumn t).clauses.raw.isNone = true := Option.isNone_iff_eq_none.2 hraw
      rw [Query.firstRow, if_pos hnone]
    show r.opened (q.toSingleColumn t).firstRow = _
    rw [hfirst]
    rfl

end

/-! ### Conditions on another select list -/

/-- An item without an alias takes the place of no target. -/
theorem not_replaces_unaliased {i : SelectItem S} (hi : i.aliasName = none) (t : ColumnRef)
    (j : SelectItem S) : ¬ r.Replaces [i] t j := by
  intro hj
  have hmem := List.mem_singleton.1 hj.mem
  obtain ⟨-, name, -, hfind⟩ := hj
  have hname := List.find?_some hfind
  rw [hmem, hi] at hname
  cases hname

theorem not_replaces_nil (t : ColumnRef) (i : SelectItem S) : ¬ r.Replaces [] t i :=
  fun hi => List.not_mem_nil hi.mem

section

variable {select select' : List (SelectItem Rendered)} {p : Predicate Rendered}

/-- A target that is not replaced is the same on any two select lists. -/
theorem predicate_congr (h : ∀ i, ¬ r.Replaces select p.target i)
    (h' : ∀ i, ¬ r.Replaces select' p.target i) :
    r.predicate select .having p = r.predicate select' .having p := by
  rw [predicate, predicate, target_of_not_replaces h, target_of_not_replaces h']

/-- A predicate that is rendered with an item in the place of its target is rendered without. -/
theorem exists_predicate {f : Fragment} (hp : r.predicate select .having p = .ok f)
    (h' : ∀ i, ¬ r.Replaces select' p.target i) :
    ∃ g, r.predicate select' .having p = .ok g := by
  -- in the place of a replaced target the alias itself is written, which always has a text
  by_cases h : ∃ i, r.Replaces select p.target i
  · obtain ⟨i, -, name, hname, -⟩ := h
    obtain ⟨lhs, -, hcondition⟩ := predicate_eq_ok.1 hp
    obtain ⟨g, hg⟩ := exists_condition hcondition ⟨name, []⟩
    have htarget : r.target select' .having p.target = .ok ⟨name, []⟩ := by
      rw [target_of_not_replaces h', hname]
      rfl
    exact ⟨g, predicate_eq_ok.2 ⟨_, htarget, hg⟩⟩
  · rw [not_exists] at h
    exact ⟨f, (predicate_congr h h').symm.trans hp⟩

end

/-- Predicates that are all rendered make a clause. -/
theorem exists_conjunction {keyword : String} {select : List (SelectItem Rendered)} {sec : Section}
    {ps : List (Predicate Rendered)} (h : ∀ p ∈ ps, ∃ g, r.predicate select sec p = .ok g) :
    ∃ f, r.conjunction keyword select sec ps = .ok f := by
  obtain ⟨conditions, hconditions⟩ := Outcome.exists_mapM h
  rw [conjunction, hconditions]
  show ∃ f, (if conditions.isEmpty then pure Fragment.empty else pure _ : Rendered) = .ok f
  split_ifs
  · exact ⟨_, rfl⟩
  · exact ⟨_, rfl⟩

/-- `HAVING` can be rendered on a select list that has none of its targets. -/
theorem exists_havingClause {c : Clauses Rendered} {f : Fragment}
    (h : r.havingClause c = .ok f) {select' : List (SelectItem Rendered)}
    (h' : ∀ p ∈ c.havings, ∀ i, ¬ r.Replaces select' p.target i) :
    ∃ g, r.havingClause { c with select := select' } = .ok g := by
  obtain ⟨conditions, hconditions, -⟩ := Outcome.bind_eq_ok.1 h
  refine exists_conjunction fun p hp => ?_
  obtain ⟨g, hg⟩ := Outcome.exists_of_mapM_eq_ok hconditions hp
  exact exists_predicate hg (h' p hp)

/-- `HAVING` is the same on select lists that have none of its targets. -/
theorem havingClause_congr {c : Clauses Rendered} {select select' : List (SelectItem Rendered)}
    (h : ∀ p ∈ c.havings, ∀ i, ¬ r.Replaces select p.target i)
    (h' : ∀ p ∈ c.havings, ∀ i, ¬ r.Replaces select' p.target i) :
    r.havingClause { c with select := select } = r.havingClause { c with select := select' } := by
  have hpredicates : c.havings.mapM (r.predicate select .having) =
      c.havings.mapM (r.predicate select' .having) :=
    Outcome.mapM_congr fun p hp => predicate_congr (h p hp) (h' p hp)
  show r.conjunction _ select .having c.havings = r.conjunction _ select' .having c.havings
  rw [conjunction, conjunction, hpredicates]

/-! ### Rows -/

/-- What stands before the rows: the keyword and the select list. -/
def heading (r : Renderer) (c : Clauses Rendered) : Rendered :=
  (r.selectList c.select).map fun items =>
    (⟨if c.distinct then "SELECT DISTINCT " else "SELECT ", []⟩ : Fragment) ++ items

/-- What stands behind the rows: the order, the page and the lock. -/
def closing (r : Renderer) (c : Clauses Rendered) : Rendered :=
  (r.orderClause c.orderBy).map fun order =>
    (⟨order, []⟩ : Fragment) ++ r.pageClause c ++ ⟨r.lockClause c, []⟩

/-- The query is rendered, and between its select list and its order there are the given rows:
everything from the table to the conditions on the groups. -/
def RendersRows (r : Renderer) (q : Query) (rows draft : Fragment) : Prop :=
  r.query q = .ok draft ∧ ∃ heading closing, r.heading (r.opened q) = .ok heading ∧
    r.source (r.opened q) = .ok rows ∧ r.closing (r.opened q) = .ok closing ∧
    heading ++ rows ++ closing = draft

/-- No target in `HAVING` of the outermost level is replaced by a selected item. -/
def KeepsTargets (r : Renderer) (q : Query) : Prop :=
  ∀ p ∈ q.clauses.havings, ∀ i, ¬ r.Replaces q.clauses.select p.target i

/-- A query without raw SQL is rendered in three parts. -/
theorem query_eq_ok (hraw : q.clauses.raw = none) {draft : Fragment} :
    r.query q = .ok draft ↔ ∃ heading rows closing, r.heading (r.opened q) = .ok heading ∧
      r.source (r.opened q) = .ok rows ∧ r.closing (r.opened q) = .ok closing ∧
      heading ++ rows ++ closing = draft := by
  obtain ⟨c⟩ := q
  rw [r.query_eq_selectLevel (show c.raw = none from hraw), r.selectLevel_eq_ok]
  constructor
  · rintro ⟨items, hitems, rows, hrows, order, horder, rfl⟩
    refine ⟨_, rows, _, Outcome.map_eq_ok.2 ⟨items, hitems, rfl⟩, hrows,
      Outcome.map_eq_ok.2 ⟨order, horder, rfl⟩, ?_⟩
    -- the keyword is counted to the heading, and the order to the closing
    simp only [Fragment.append_assoc]
    rfl
  · rintro ⟨heading, rows, closing, hheading, hrows, hclosing, rfl⟩
    obtain ⟨items, hitems, rfl⟩ := Outcome.map_eq_ok.1 hheading
    obtain ⟨order, horder, rfl⟩ := Outcome.map_eq_ok.1 hclosing
    refine ⟨items, hitems, rows, hrows, order, horder, ?_⟩
    simp only [Fragment.append_assoc]
    rfl

theorem selectList_singleton (i : SelectItem Rendered) : r.selectList [i] = r.selectItem i := by
  rw [selectList, List.mapM_cons]
  cases r.selectItem i <;> rfl

/-- The item of a projection is rendered if its column is. -/
theorem exists_selectList_item {p : Projection} (hp : ∃ sql, r.column p.target = .ok sql) :
    ∃ items, r.selectList [p.item] = .ok items := by
  obtain ⟨sql, hsql⟩ := hp
  have hitem : ∀ aggregate, ∃ items,
      r.selectList [⟨.column p.target, aggregate, none⟩] = .ok items := by
    intro aggregate
    rw [selectList_singleton]
    exact ⟨_, Outcome.map_eq_ok.2 ⟨_, item_column hsql aggregate none, rfl⟩⟩
  cases p with
  | aggregate f t => exact hitem (some f)
  | «exists» | column t | firstOfColumn t => exact hitem none

theorem exists_orderClause_project {c : Clauses Rendered} {closing : Fragment}
    (h : r.closing c = .ok closing) {orderBy : List OrderItem}
    (horderBy : orderBy = [] ∨ orderBy = c.orderBy) : ∃ order, r.orderClause orderBy = .ok order := by
  rcases horderBy with rfl | rfl
  · exact ⟨_, rfl⟩
  · obtain ⟨order, horder, -⟩ := Outcome.map_eq_ok.1 h
    exact ⟨order, horder⟩

/-- The rows of a projection are those of the query up to the targets in `HAVING`. -/
theorem source_project (hraw : q.clauses.raw = none) {rows : Fragment}
    (h : r.source (r.opened q) = .ok rows) (p : Projection) :
    ∃ front having having', rows = front ++ having ∧
      r.source (r.opened (q.project p)) = .ok (front ++ having') ∧
      r.havingClause { r.opened q with select := [] } = .ok having' ∧
      (r.KeepsTargets q → having' = having) := by
  obtain ⟨table, htable, joined, hjoined, filter, hfilter, groups, hgroups, having, hhaving, rfl⟩ :=
    r.source_eq_ok.1 h
  obtain ⟨distinct, orderBy, limit, offset, lock, -, hopened⟩ := opened_project (r := r) hraw p
  -- the one item that is left has no alias, so it replaces as little as an empty select list
  have hitem : ∀ t ∈ (r.opened q).havings, ∀ i : SelectItem Rendered,
      ¬ r.Replaces [p.item] t.target i := by
    intro t _ i
    exact not_replaces_unaliased (by cases p <;> rfl) t.target i
  have hnil : ∀ t ∈ (r.opened q).havings, ∀ i : SelectItem Rendered, ¬ r.Replaces [] t.target i :=
    fun t _ i => not_replaces_nil t.target i
  obtain ⟨having', hhaving'⟩ := exists_havingClause hhaving hnil
  have hprojected : r.havingClause { r.opened q with select := [p.item] } = .ok having' :=
    (havingClause_congr hitem hnil).trans hhaving'
  refine ⟨_, having, having', rfl, ?_, hhaving', fun hkeeps => ?_⟩
  · rw [hopened]
    exact r.source_eq_ok.2 ⟨table, htable, joined, hjoined, filter, hfilter, groups, hgroups,
      having', hprojected, rfl⟩
  · have hkept : ∀ t ∈ (r.opened q).havings, ∀ i, ¬ r.Replaces (r.opened q).select t.target i := by
      intro t ht i hi
      obtain ⟨t, hmem, rfl⟩ := List.mem_map.1 ht
      obtain ⟨j, hj, -⟩ := (replaces_map r.query).1 hi
      exact hkeeps t hmem j hj
    have hsame : r.havingClause { r.opened q with select := [] } = r.havingClause (r.opened q) :=
      havingClause_congr hnil hkept
    exact Except.ok.inj (hhaving'.symm.trans (hsame.trans hhaving))

/-- **Rows** of a projection.

A question about the rows of a query that is rendered is rendered as well, if the column that it is
about is.  From the table to the groups the two texts are the same.  In `HAVING` the question has
the targets as they stand; and this is what the query has too, if it has no target there that is
replaced. -/
theorem project_keeps_rows (hraw : q.clauses.raw = none) {st : Statement}
    (h : r.select q = .ok st) (p : Projection) (hp : ∃ sql, r.column p.target = .ok sql) :
    ∃ front having having' draft draft',
      r.RendersRows q (front ++ having) draft ∧ st = r.finish draft ∧
      r.RendersRows (q.project p) (front ++ having') draft' ∧
      r.select (q.project p) = .ok (r.finish draft') ∧
      r.havingClause { r.opened q with select := [] } = .ok having' ∧
      (r.KeepsTargets q → having' = having) := by
  obtain ⟨draft, hdraft, rfl⟩ := (select_eq_ok hraw).1 h
  obtain ⟨heading, rows, closing, hheading, hrows, hclosing, rfl⟩ := (query_eq_ok hraw).1 hdraft
  obtain ⟨front, having, having', rfl, hrows', hhaving', hkeeps⟩ := source_project hraw hrows p
  obtain ⟨distinct, orderBy, limit, offset, lock, horderBy, hopened⟩ :=
    opened_project (r := r) hraw p
  obtain ⟨items, hitems⟩ := exists_selectList_item hp
  obtain ⟨order, horder⟩ := exists_orderClause_project hclosing horderBy
  obtain ⟨heading', hheading'⟩ : ∃ heading', r.heading (r.opened (q.project p)) = .ok heading' := by
    rw [hopened]
    exact ⟨_, Outcome.map_eq_ok.2 ⟨items, hitems, rfl⟩⟩
  obtain ⟨closing', hclosing'⟩ : ∃ closing', r.closing (r.opened (q.project p)) = .ok closing' := by
    rw [hopened]
    exact ⟨_, Outcome.map_eq_ok.2 ⟨order, horder, rfl⟩⟩
  -- the parts of the projection, put together again
  have hraw' := raw_project hraw p
  have hdraft' := (query_eq_ok hraw').2 ⟨_, _, _, hheading', hrows', hclosing', rfl⟩
  have hselect' := (select_eq_ok hraw').2 ⟨_, hdraft', rfl⟩
  exact ⟨front, having, having', _, _,
    ⟨hdraft, heading, closing, hheading, hrows, hclosing, rfl⟩, rfl,
    ⟨hdraft', heading', closing', hheading', hrows', hclosing', rfl⟩, hselect', hhaving', hkeeps⟩

/-- An aggregate is asked for by its function, its column and the rows, and by nothing else. -/
theorem query_aggregate (hraw : q.clauses.raw = none) {f : Aggregate} {target : ColumnRef}
    {draft : Fragment} (h : r.query (q.project (.aggregate f target)) = .ok draft) :
    ∃ column rows, r.column target = .ok column ∧
      r.source (r.opened (q.project (.aggregate f target))) = .ok rows ∧
      draft = ⟨"SELECT " ++ f.sql ++ "(" ++ column ++ ")", []⟩ ++ rows := by
  obtain ⟨heading, rows, closing, hheading, hrows, hclosing, rfl⟩ :=
    (query_eq_ok (raw_project hraw (.aggregate f target))).1 h
  obtain ⟨items, hitems, rfl⟩ := Outcome.map_eq_ok.1 hheading
  have hselected : r.selectItem ⟨.column target, some f, none⟩ = .ok items :=
    (selectList_singleton _).symm.trans hitems
  obtain ⟨item, hitem, rfl⟩ := Outcome.map_eq_ok.1 hselected
  obtain ⟨g, hg, rfl⟩ := Outcome.map_eq_ok.1 hitem
  obtain ⟨column, hcolumn, rfl⟩ := columnFragment_eq_ok.1 hg
  -- an aggregate has no order, no page and no lock
  have hnothing : r.closing (r.opened (q.project (.aggregate f target))) = .ok .empty := rfl
  obtain rfl := Except.ok.inj (hclosing.symm.trans hnothing)
  refine ⟨column, rows, hcolumn, hrows, ?_⟩
  rw [Fragment.append_empty]
  refine congrArg (· ++ rows) (congrArg (Fragment.mk · []) ?_)
  show "SELECT " ++ (f.sql ++ ("(" ++ column ++ ")") ++ "") = _
  rw [String.append_empty]
  simp only [String.append_assoc]

/-- The number of the groups whose amount is above 9, and these groups. -/
theorem project_keeps_rows_sums :
    ∃ rows draft draft',
      (Renderer.mk orders .postgres).RendersRows (sums amount .gt (.value (.int 9))) rows draft ∧
      (Renderer.mk orders .postgres).RendersRows
        ((sums amount .gt (.value (.int 9))).project (.aggregate .count (.expr "*"))) rows draft' ∧
      (Renderer.mk orders .postgres).finish draft' =
        ⟨"SELECT COUNT(*) FROM orders GROUP BY amount HAVING amount > $1", [.int 9]⟩ := by
  have hstatement : (Renderer.mk orders .postgres).select (sums amount .gt (.value (.int 9))) = .ok
      ⟨"SELECT amount, SUM(amount) AS total FROM orders GROUP BY amount HAVING amount > $1",
        [.int 9]⟩ := rfl
  have hcount : (Renderer.mk orders .postgres).select
      ((sums amount .gt (.value (.int 9))).project (.aggregate .count (.expr "*"))) = .ok
        ⟨"SELECT COUNT(*) FROM orders GROUP BY amount HAVING amount > $1", [.int 9]⟩ := rfl
  obtain ⟨front, having, having', draft, draft', hq, -, hp, hselect, -, hkeeps⟩ :=
    project_keeps_rows (q := sums amount .gt (.value (.int 9))) rfl hstatement
      (.aggregate .count (.expr "*")) ⟨"*", rfl⟩
  have hamount : (Renderer.mk orders .postgres).KeepsTargets
      (sums amount .gt (.value (.int 9))) := by
    rintro p hmem i ⟨-, name, hname, -⟩
    obtain rfl := List.mem_singleton.1 hmem
    cases hname
  obtain rfl := hkeeps hamount
  exact ⟨_, draft, draft', hq, hp, Except.ok.inj (hselect.symm.trans hcount)⟩

/-- The sum is not selected any more, and its alias stays in `HAVING`. -/
theorem countOfSums_keeps_alias :
    (Renderer.mk orders .postgres).select (sums (.aliased "total") .gt (.value (.int 9))) =
      .ok ⟨"SELECT amount, SUM(amount) AS total FROM orders GROUP BY amount HAVING " ++
        "SUM(amount) > $1", [.int 9]⟩ ∧
    (Renderer.mk orders .postgres).source
        ((Renderer.mk orders .postgres).opened (sums (.aliased "total") .gt (.value (.int 9)))) =
      .ok ⟨" FROM orders GROUP BY amount HAVING SUM(amount) > ?", [.int 9]⟩ ∧
    (Renderer.mk orders .postgres).source
        ((Renderer.mk orders .postgres).opened
          ((sums (.aliased "total") .gt (.value (.int 9))).project
            (.aggregate .count (.expr "*")))) =
      .ok ⟨" FROM orders GROUP BY amount HAVING total > ?", [.int 9]⟩ ∧
    (Renderer.mk orders .postgres).select
        ((sums (.aliased "total") .gt (.value (.int 9))).project
          (.aggregate .count (.expr "*"))) =
      .ok ⟨"SELECT COUNT(*) FROM orders GROUP BY amount HAVING total > $1", [.int 9]⟩ :=
  ⟨rfl, rfl, rfl, rfl⟩

end Renderer

end EntitySql
