import EntitySql.Proofs.Layout.Level
import EntitySql.Proofs.Query.Level
import EntitySql.Proofs.Statement.Condition

/-!
# Rendering forgets the places

What is rendered is the fragment of the layout (`query_fits`, `draft_fits`): at each level the text
and the parameters, which are written apart from one another, fit the same pieces in the same
order.  The proof goes through the levels from the innermost ones, and on one level through the
parts of its clauses.
-/

namespace EntitySql.Renderer

/-- A rendering that, if it succeeds, gives the fragment of a layout. -/
def Fits (x : Rendered) (l : Layout) : Prop := ∀ f, x = .ok f → f = l.fragment

variable {r : Renderer} {w : r.dialect.Weaving}

/-! ### Fragments of layouts -/

theorem fragment_infixedLayout (lhs : Layout) (op : Operator) (rhs : Layout) :
    (infixedLayout lhs op rhs).fragment = infixed lhs.fragment op rhs.fragment := by
  rw [infixedLayout, Layout.fragment_append, Layout.fragment_cons, ← Fragment.append_assoc]
  rfl

theorem fragment_nullCheck (lhs : Layout) (op : Operator) :
    Layout.fragment (lhs ++ [.text (" " ++ op.sql)]) = nullCheck lhs.fragment op := by
  rw [Layout.fragment_append, Layout.fragment_text]
  rfl

theorem fragment_float (w : r.dialect.Weaving) (lhs : Layout) :
    Layout.fragment (.text w.beforeFloat :: lhs ++ [.text w.afterFloat]) =
      lhs.fragment.mapText r.dialect.floatAsText := by
  rw [List.cons_append, Layout.fragment_cons, Layout.fragment_append, Layout.fragment_text]
  show Fragment.append ⟨w.beforeFloat, []⟩ (Fragment.append lhs.fragment ⟨w.afterFloat, []⟩) = _
  simp only [Fragment.append, Fragment.mapText, w.floatAsText_eq, List.nil_append, List.append_nil,
    String.append_assoc]

theorem fragment_placeholder (v : Value) : Layout.fragment [.slot v] = .placeholder v :=
  Fragment.append_empty _

theorem fragment_weave (texts : List String) (ls : List Layout) :
    (Layout.weave texts ls).fragment =
      ⟨weaveTexts texts (ls.map fun l => l.fragment.text),
        ls.flatMap fun l => l.fragment.params⟩ := by
  induction texts generalizing ls with
  | nil =>
    -- no texts are left to put around the rest
    rw [Layout.weave]
    induction ls with
    | nil => rfl
    | cons l ls ih =>
      rw [List.flatten_cons, Layout.fragment_append, ih]
      simp only [weaveTexts, List.map_cons, String.join_cons, List.flatMap_cons]
      rfl
  | cons t texts ih =>
    cases ls with
    | nil => exact Layout.fragment_text t
    | cons l ls =>
      rw [Layout.weave, List.cons_append, Layout.fragment_cons, Layout.fragment_append, ih,
        ← Fragment.append_assoc]
      rfl

theorem fragment_partPiece (v : Value) : Layout.fragment [partPiece v] = patternPart v := by
  by_cases hv : v.isWildcard = true
  · rw [partPiece, patternPart, if_pos hv, if_pos hv, Layout.fragment_text]
  · rw [partPiece, patternPart, if_neg hv, if_neg hv, fragment_placeholder]

theorem fragment_concat (w : r.dialect.Weaving) (vs : List Value) :
    (Layout.weave (w.around vs.length) (vs.map fun v => [partPiece v])).fragment =
      ⟨r.dialect.concat ((vs.map patternPart).map (·.text)),
        (vs.map patternPart).flatMap (·.params)⟩ := by
  rw [fragment_weave, w.concat_eq, List.length_map, List.length_map, List.map_map, List.map_map,
    List.flatMap_map, List.flatMap_map]
  simp only [Function.comp_def, fragment_partPiece]

theorem fragment_patternLayout (w : r.dialect.Weaving) (vs : List Value) :
    (patternLayout r w vs).fragment = r.patternOf vs := by
  match vs with
  | [] => exact fragment_concat w []
  | [v] =>
    rw [patternLayout, fragment_partPiece, patternOf]
    simp
  | v :: v' :: vs => exact fragment_concat w (v :: v' :: vs)

theorem fragment_valueLayout (w : r.dialect.Weaving) (lhs : Layout) (op : Operator) (v : Value) :
    (valueLayout r w lhs op v).fragment = r.valueComparison lhs.fragment op v := by
  rw [valueLayout, valueComparison]
  split_ifs
  · exact fragment_nullCheck lhs .isNull
  · exact fragment_nullCheck lhs .isNotNull
  · rw [fragment_infixedLayout, fragment_float]
    congr 1
    exact fragment_float w [.slot v]
  · rw [fragment_infixedLayout, fragment_placeholder]

theorem fragment_rangeLayout (lhs : Layout) (op : Operator) (low high : Value) :
    (rangeLayout lhs op [low, high]).fragment =
      infixed lhs.fragment op ⟨"(?) AND (?)", [low, high]⟩ :=
  fragment_infixedLayout lhs op _

theorem fragment_slots (vs : List Value) :
    (Layout.join "," (vs.map fun v => [.slot v])).fragment =
      Fragment.join "," (vs.map .placeholder) := by
  rw [Layout.fragment_join, List.map_map]
  exact congrArg (Fragment.join ",") (List.map_congr_left fun v _ => fragment_placeholder v)

theorem membership_fits (lhs : Layout) (op : Operator) (vs : List Value) :
    Fits (membership lhs.fragment op (.list vs)) (membershipLayout lhs op vs) := by
  intro f h
  cases vs with
  | nil =>
    obtain rfl := Except.ok.inj h
    rw [membershipLayout, Layout.fragment_append, Layout.params_dropped, Layout.fragment_text]
    show _ = Fragment.append _ _
    simp [Fragment.append, Fragment.mapText, Layout.values]
  | cons v vs =>
    obtain rfl := Except.ok.inj h
    rw [membershipLayout, fragment_infixedLayout, Layout.fragment_parenthesized, fragment_slots]
    exact fun h => List.cons_ne_nil v vs h

/-! ### Targets and conditions -/

theorem columnFragment_fits (c : ColumnRef) : Fits (r.columnFragment c) (r.columnLayout c) := by
  intro f h
  obtain ⟨sql, hsql, rfl⟩ := columnFragment_eq_ok.1 h
  rw [columnLayout, hsql, Layout.fragment_text]
  rfl

section

-- the sub-queries are rendered, and have layouts
variable {S : Type} {rendered : S → Rendered} {layoutOf : S → Layout}

theorem expression_fits (e : SelectExpr S)
    (h : ∀ s, e = .sub s → Fits (rendered s) (layoutOf s)) :
    Fits (r.expression (e.map rendered)) (r.expressionLayout (e.map layoutOf)) := by
  intro f hf
  cases e with
  | column c => exact columnFragment_fits c f hf
  | sub s =>
    obtain ⟨g, hg, rfl⟩ := Outcome.map_eq_ok.1 hf
    obtain rfl := h s rfl g hg
    exact (Layout.fragment_parenthesized _).symm

theorem fragment_aggregatedLayout (aggregate : Option Aggregate) (l : Layout) :
    (aggregatedLayout aggregate l).fragment = aggregated aggregate l.fragment := by
  cases aggregate with
  | none => rfl
  | some a =>
    rw [aggregatedLayout, Layout.fragment_cons, Layout.fragment_parenthesized]
    rfl

theorem item_fits (i : SelectItem S) (h : ∀ s ∈ i.subs, Fits (rendered s) (layoutOf s)) :
    Fits (r.item (i.map rendered)) (r.itemLayout (i.map layoutOf)) := by
  intro f hf
  obtain ⟨inner, hinner, rfl⟩ := Outcome.map_eq_ok.1 hf
  have hexpr : ∀ s, i.expr = .sub s → Fits (rendered s) (layoutOf s) := by
    intro s hs
    exact h s (by rw [SelectItem.subs, hs]; exact List.mem_singleton.2 rfl)
  obtain rfl := expression_fits i.expr hexpr inner hinner
  exact (fragment_aggregatedLayout i.aggregate _).symm

theorem find?_map_aliasName {T : Type} (f : S → T) (select : List (SelectItem S)) (name : String) :
    (select.map (SelectItem.map f)).find? (·.aliasName == some name) =
      (select.find? (·.aliasName == some name)).map (SelectItem.map f) := by
  rw [List.find?_map]
  rfl

theorem target_fits (select : List (SelectItem S))
    (h : ∀ i ∈ select, ∀ s ∈ i.subs, Fits (rendered s) (layoutOf s)) (sec : Section)
    (t : ColumnRef) :
    Fits (r.target (select.map (SelectItem.map rendered)) sec t)
      (r.targetLayout (select.map (SelectItem.map layoutOf)) sec t) := by
  intro f hf
  match sec, t with
  | .having, .aliased name =>
    -- the same item is found among the layouts and among the rendered items
    rw [targetLayout, find?_map_aliasName]
    rw [target, find?_map_aliasName] at hf
    by_cases hknown : r.dialect.havingAllowsAlias = true
    · rw [if_pos hknown] at hf ⊢
      rw [Layout.fragment_text]
      exact (Except.ok.inj hf).symm
    · rw [if_neg hknown] at hf ⊢
      cases hfind : select.find? (·.aliasName == some name) with
      | none =>
        rw [hfind] at hf
        rw [Option.map_none, Layout.fragment_text]
        exact (Except.ok.inj hf).symm
      | some i =>
        rw [hfind] at hf
        exact item_fits i (h i (List.mem_of_find?_eq_some hfind)) f hf
  | .where, t => exact columnFragment_fits t f hf
  | .having, .field q field => exact columnFragment_fits _ f hf
  | .having, .expr sql => exact columnFragment_fits _ f hf

theorem condition_fits (w : r.dialect.Weaving) (lhs : Layout) (op : Operator) (operand : Operand S)
    (h : ∀ s ∈ operand.subs, Fits (rendered s) (layoutOf s)) :
    Fits (r.condition lhs.fragment op (operand.map rendered))
      (r.conditionLayout w lhs op (operand.map layoutOf)) := by
  intro f hf
  cases operand with
  | absent =>
    obtain ⟨-, rfl⟩ := condition_absent hf
    exact (fragment_nullCheck lhs op).symm
  | raw sql =>
    obtain ⟨-, rfl⟩ := condition_raw hf
    rw [Operand.map, conditionLayout, Layout.fragment_append, Layout.fragment_text]
  | sub s =>
    obtain ⟨g, hg, rfl⟩ := condition_sub hf
    obtain rfl := h s (List.mem_singleton.2 rfl) g hg
    rw [Operand.map, conditionLayout, fragment_infixedLayout, Layout.fragment_parenthesized]
  | column c =>
    obtain ⟨sql, hsql, rfl⟩ := condition_column hf
    rw [Operand.map, conditionLayout, fragment_infixedLayout, columnLayout, hsql,
      Layout.fragment_text]
    rfl
  | list vs =>
    -- membership, a pattern or a range, by the operator
    rcases condition_list hf with ⟨hop, hf⟩ | ⟨hop, -, rfl⟩ | ⟨hop, low, high, rfl, rfl⟩
    · rcases hop with rfl | rfl <;> exact membership_fits lhs _ vs f hf
    · rcases hop with rfl | rfl <;>
        rw [Operand.map, conditionLayout, fragment_infixedLayout, fragment_patternLayout]
    · rcases hop with rfl | rfl <;> exact (fragment_rangeLayout lhs _ low high).symm
  | value v =>
    rcases condition_value hf with ⟨rfl, sql, rfl, rfl⟩ | ⟨hop, rfl⟩ | ⟨hop, rfl⟩
    · rw [Operand.map, conditionLayout, Layout.fragment_append, Layout.fragment_text]
    · rcases hop with rfl | rfl <;>
        rw [Operand.map, conditionLayout, fragment_infixedLayout, fragment_patternLayout]
    · have hlayout : r.conditionLayout w lhs op (.value v) = valueLayout r w lhs op v := by
        simp only [List.mem_cons, List.not_mem_nil, or_false] at hop
        rcases hop with rfl | rfl | rfl | rfl | rfl | rfl <;> rfl
      rw [Operand.map, hlayout, fragment_valueLayout]

theorem predicate_fits (w : r.dialect.Weaving) (select : List (SelectItem S))
    (hselect : ∀ i ∈ select, ∀ s ∈ i.subs, Fits (rendered s) (layoutOf s)) (sec : Section)
    (p : Predicate S) (hp : ∀ s ∈ p.operand.subs, Fits (rendered s) (layoutOf s)) :
    Fits (r.predicate (select.map (SelectItem.map rendered)) sec (p.map rendered))
      (r.predicateLayout w (select.map (SelectItem.map layoutOf)) sec (p.map layoutOf)) := by
  intro f hf
  obtain ⟨lhs, hlhs, hf⟩ := Outcome.bind_eq_ok.1 hf
  obtain rfl := target_fits select hselect sec p.target lhs hlhs
  exact condition_fits w _ p.op p.operand hp f hf

theorem conjunction_fits (w : r.dialect.Weaving) (keyword : String) (select : List (SelectItem S))
    (hselect : ∀ i ∈ select, ∀ s ∈ i.subs, Fits (rendered s) (layoutOf s)) (sec : Section)
    (ps : List (Predicate S))
    (hps : ∀ p ∈ ps, ∀ s ∈ p.operand.subs, Fits (rendered s) (layoutOf s)) :
    Fits (r.conjunction keyword (select.map (SelectItem.map rendered)) sec
        (ps.map (Predicate.map rendered)))
      (r.conjunctionLayout w keyword (select.map (SelectItem.map layoutOf)) sec
        (ps.map (Predicate.map layoutOf))) := by
  intro f hf
  obtain ⟨conditions, hconditions, hf⟩ := Outcome.bind_eq_ok.1 hf
  rw [List.mapM_map] at hconditions
  -- what was rendered one after the other is, one after the other, what the layouts describe
  have heq := Outcome.eq_map_of_mapM_eq_ok hconditions
    (g := fun p => (r.predicateLayout w (select.map (SelectItem.map layoutOf)) sec
      (p.map layoutOf)).fragment)
    fun p hp f hf => predicate_fits w select hselect sec p (hps p hp) f hf
  subst heq
  cases ps with
  | nil => exact (Except.ok.inj hf).symm
  | cons p ps =>
    obtain rfl := Except.ok.inj hf
    rw [conjunctionLayout, if_neg (by simp), Layout.fragment_cons, Layout.fragment_join,
      List.map_map, List.map_map]
    rfl

/-! ### Levels -/

theorem selectItem_fits (i : SelectItem S) (h : ∀ s ∈ i.subs, Fits (rendered s) (layoutOf s)) :
    Fits (r.selectItem (i.map rendered)) (r.selectItemLayout (i.map layoutOf)) := by
  intro f hf
  obtain ⟨g, hg, rfl⟩ := Outcome.map_eq_ok.1 hf
  obtain rfl := item_fits i h g hg
  rw [selectItemLayout, Layout.fragment_append, Layout.fragment_text]
  rfl

theorem selectList_fits (is : List (SelectItem S))
    (h : ∀ i ∈ is, ∀ s ∈ i.subs, Fits (rendered s) (layoutOf s)) :
    Fits (r.selectList (is.map (SelectItem.map rendered)))
      (r.selectListLayout (is.map (SelectItem.map layoutOf))) := by
  intro f hf
  obtain ⟨fragments, hfragments, hf⟩ := Outcome.bind_eq_ok.1 hf
  rw [List.mapM_map] at hfragments
  have heq := Outcome.eq_map_of_mapM_eq_ok hfragments
    (g := fun i => (r.selectItemLayout (i.map layoutOf)).fragment)
    fun i hi f hf => selectItem_fits i (h i hi) f hf
  subst heq
  cases is with
  | nil => exact (Except.ok.inj hf).symm.trans (Layout.fragment_text "*").symm
  | cons i is =>
    obtain rfl := Except.ok.inj hf
    rw [selectListLayout, if_neg (by simp), Layout.fragment_join, List.map_map, List.map_map]
    rfl

theorem fragment_page (d : Dialect) (limit offset : Option UInt64) (ordered : Bool) :
    (d.pageLayout limit offset ordered).fragment = d.page limit offset ordered := by
  rw [Dialect.pageLayout, Dialect.page]
  cases d.pagination with
  | offsetCount => rfl
  | countOffset => rfl
  | offsetFetch =>
    simp only [Layout.fragment_append]
    congr 1
    · congr 1
      cases ordered <;> rfl
    · cases limit <;> rfl

theorem fragment_pageLayout (rendered : S → Rendered) (layoutOf : S → Layout) (c : Clauses S) :
    (r.pageLayout (c.map layoutOf)).fragment = r.pageClause (c.map rendered) := by
  show (if c.limit.isSome || c.offset.isSome then
      r.dialect.pageLayout c.limit c.offset (!c.orderBy.isEmpty) else []).fragment =
    if c.limit.isSome || c.offset.isSome then
      r.dialect.page c.limit c.offset (!c.orderBy.isEmpty) else .empty
  split_ifs
  · exact fragment_page r.dialect c.limit c.offset _
  · rfl

theorem source_fits (w : r.dialect.Weaving) (c : Clauses S)
    (h : ∀ s ∈ c.subs, Fits (rendered s) (layoutOf s)) :
    Fits (r.source (c.map rendered)) (r.sourceLayout w (c.map layoutOf)) := by
  intro f hf
  obtain ⟨table, htable, joined, hjoined, filter, hfilter, groups, hgroups, having, hhaving, rfl⟩ :=
    r.source_eq_ok.1 hf
  have hselect : ∀ i ∈ c.select, ∀ s ∈ i.subs, Fits (rendered s) (layoutOf s) :=
    fun i hi s hs => h s (Clauses.mem_subs_of_select hi hs)
  have hwheres := conjunction_fits w " WHERE " c.select hselect .where c.wheres
    (fun p hp s hs => h s (Clauses.mem_subs_of_wheres hp hs)) filter hfilter
  have hhavings := conjunction_fits w " HAVING " c.select hselect .having c.havings
    (fun p hp s hs => h s (Clauses.mem_subs_of_havings hp hs)) having hhaving
  have hfrom : r.fromText (c.map layoutOf) = " FROM " ++ table ++ joined := by
    rw [fromText,
      show r.tableText (c.map layoutOf).table (c.map layoutOf).aliasName = _ from htable,
      show r.joins (c.map layoutOf).joins = _ from hjoined]
    rfl
  have hgroup : textOf (r.groupClause (c.map layoutOf).groupBy) = groups := by
    rw [show r.groupClause (c.map layoutOf).groupBy = _ from hgroups]
    rfl
  -- both sides are the same five parts, put together from the other end
  rw [sourceLayout, hfrom, hgroup, List.cons_append, Layout.fragment_cons, Layout.fragment_append,
    Layout.fragment_cons, ← Fragment.append_assoc, ← Fragment.append_assoc, hwheres, hhavings]
  rfl

theorem level_fits (w : r.dialect.Weaving) (c : Clauses S)
    (h : ∀ s ∈ c.subs, Fits (rendered s) (layoutOf s)) :
    Fits (r.level (c.map rendered)) (r.levelLayout w (c.map layoutOf)) := by
  intro f hf
  rw [levelLayout]
  rw [level] at hf
  cases hraw : c.raw with
  | some raw =>
    rw [show (c.map rendered).raw = _ from hraw] at hf
    rw [show (c.map layoutOf).raw = _ from hraw]
    exact (Except.ok.inj hf).symm.trans (Fragment.append_empty _).symm
  | none =>
    rw [show (c.map rendered).raw = _ from hraw] at hf
    rw [show (c.map layoutOf).raw = _ from hraw]
    -- part by part, the fragments are those of the layouts
    obtain ⟨items, hitems, rows, hrows, order, horder, rfl⟩ := r.selectLevel_eq_ok.1 hf
    obtain rfl := selectList_fits c.select
      (fun i hi s hs => h s (Clauses.mem_subs_of_select hi hs)) items hitems
    obtain rfl := source_fits w c h rows hrows
    have hordered : textOf (r.orderClause (c.map layoutOf).orderBy) = order := by
      rw [show r.orderClause (c.map layoutOf).orderBy = _ from horder]
      rfl
    simp only [tailLayout, hordered, List.cons_append, Layout.fragment_cons,
      Layout.fragment_append, Layout.fragment_nil, Fragment.append_empty, Fragment.append_assoc,
      fragment_pageLayout rendered layoutOf c]
    rfl

end

/-- A query is rendered as the fragment of its layout. -/
theorem query_fits (w : r.dialect.Weaving) (q : Query) : Fits (r.query q) (r.layout w q) := by
  induction q using Query.induct with
  | level c ih =>
    rw [query_of, layout_of]
    exact level_fits w c ih

/-! ### Commands -/

theorem assignment_fits (change : Assignment) :
    Fits (r.assignment change) (r.assignmentLayout change) := by
  intro f hf
  cases change with
  | set field v =>
    obtain ⟨c, hc, rfl⟩ := Outcome.map_eq_ok.1 hf
    simp only [assignmentLayout, hc, Except.map, textOf]
    split_ifs
    · exact (Layout.fragment_text _).symm
    · rw [Layout.fragment_cons, fragment_placeholder]
      rfl
  | increase field v =>
    obtain ⟨c, hc, rfl⟩ := Outcome.map_eq_ok.1 hf
    simp only [assignmentLayout, hc, Except.map, textOf]
    rw [Layout.fragment_cons, fragment_placeholder]
    rfl
  | decrease field v =>
    obtain ⟨c, hc, rfl⟩ := Outcome.map_eq_ok.1 hf
    simp only [assignmentLayout, hc, Except.map, textOf]
    rw [Layout.fragment_cons, fragment_placeholder]
    rfl

theorem whereClause_fits (w : r.dialect.Weaving) (q : Query) :
    Fits (r.whereClause (r.opened q)) (r.whereLayout w (q.clauses.map (r.layout w))) :=
  conjunction_fits w " WHERE " q.clauses.select (fun _ _ s _ => query_fits w s) .where
    q.clauses.wheres fun _ _ s _ => query_fits w s

/-- A command is rendered as the fragment of its layout. -/
theorem draft_fits (w : r.dialect.Weaving) (cmd : Command) :
    Fits (r.draft cmd) (r.commandLayout w cmd) := by
  intro f hf
  cases cmd with
  | select q => exact query_fits w q f hf
  | update q changes =>
    obtain ⟨-, table, htable, set, hset, filter, hfilter, rfl⟩ := r.updateFragment_eq_ok.1 hf
    -- the changes first, since they are rendered before the filter
    have heq := Outcome.eq_map_of_mapM_eq_ok hset
      (g := fun change => (r.assignmentLayout change).fragment)
      fun change _ f hf => assignment_fits change f hf
    obtain rfl := whereClause_fits w q filter hfilter
    rw [commandLayout, htable, List.cons_append, Layout.fragment_cons, Layout.fragment_append,
      Layout.fragment_join, List.map_map, heq, ← Fragment.append_assoc]
    rfl
  | delete q =>
    obtain ⟨table, htable, filter, hfilter, rfl⟩ := r.deleteFragment_eq_ok.1 hf
    obtain rfl := whereClause_fits w q filter hfilter
    rw [commandLayout, htable, Layout.fragment_cons]
    rfl

end EntitySql.Renderer
