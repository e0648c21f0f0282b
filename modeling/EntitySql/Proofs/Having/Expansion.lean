import EntitySql.Proofs.Having.Target

/-!
# Expansion in `HAVING` as substitution

What a dialect without aliases in `HAVING` does to a query can be done to the query itself.
`Query.retarget` puts other columns and other targets into all of its levels, and if these have the
same text, then the statement is the same (`Renderer.select_retarget`).

`Renderer.expandTarget` replaces the alias of a selected column by the SQL of the item, and
`ColumnRef.spelled` an alias by its own text.  A sub-query has values besides its text, and no
column reference binds values; a predicate on it is the predicate on its text with these values in
front (`Renderer.predicate_of_replaces`).  Together this is `Renderer.having_expansion`.
-/

namespace EntitySql

variable {S T : Type}

/-- The fragment with values bound before its own. -/
def Fragment.behind (vs : List Value) (f : Fragment) : Fragment := ⟨f.text, vs ++ f.params⟩

theorem Fragment.behind_append (vs : List Value) (f g : Fragment) :
    f.behind vs ++ g = (f ++ g).behind vs :=
  congrArg (Fragment.mk _) (List.append_assoc vs f.params g.params)

/-! ### Other columns at every level -/

/-- An alias as the text that it is. -/
def ColumnRef.spelled : ColumnRef → ColumnRef
  | .aliased name => .expr name
  | t => t

/-- The operand with another column in the place of the one it has. -/
def Operand.recolumn (reference : ColumnRef → ColumnRef) : Operand S → Operand S
  | .column c => .column (reference c)
  | operand => operand

/-- The level with other columns in `WHERE`, `GROUP BY` and `ORDER BY`, and other targets in
`HAVING`. -/
def Clauses.retarget (reference target : ColumnRef → ColumnRef) (c : Clauses S) : Clauses S :=
  { c with
    wheres := c.wheres.map fun p => ⟨reference p.target, p.op, p.operand.recolumn reference⟩
    groupBy := c.groupBy.map reference
    havings := c.havings.map fun p => ⟨target p.target, p.op, p.operand⟩
    orderBy := c.orderBy.map fun o => ⟨reference o.target, o.direction⟩ }

/-- The query with other columns and targets at all levels.  Which targets these are may depend on
the select list of their own level. -/
def Query.retarget (reference : ColumnRef → ColumnRef)
    (target : List (SelectItem Query) → ColumnRef → ColumnRef) (q : Query) : Query :=
  q.fold fun c => .of (c.retarget reference (target c.select))

theorem Operand.map_recolumn (f : S → T) (reference : ColumnRef → ColumnRef) (o : Operand S) :
    (o.recolumn reference).map f = (o.map f).recolumn reference := by
  cases o <;> rfl

theorem Clauses.map_retarget (f : S → T) (reference target : ColumnRef → ColumnRef)
    (c : Clauses S) :
    (c.retarget reference target).map f = (c.map f).retarget reference target := by
  simp only [Clauses.map, retarget, List.map_map, Clauses.mk.injEq, true_and, and_true]
  refine ⟨List.map_congr_left fun p _ => ?_, List.map_congr_left fun p _ => rfl⟩
  exact congrArg (Predicate.mk (reference p.target) p.op) (p.operand.map_recolumn f reference)

theorem Query.retarget_of (reference : ColumnRef → ColumnRef)
    (target : List (SelectItem Query) → ColumnRef → ColumnRef) (c : Clauses Query) :
    (Query.of c).retarget reference target =
      .of ((c.map fun q => q.retarget reference target).retarget reference
        (target (c.map fun q => q.retarget reference target).select)) :=
  fold_of _ c

namespace Renderer

variable {r : Renderer}

/-! ### The same texts -/

section

variable {reference : ColumnRef → ColumnRef} (hreference : ∀ t, r.column (reference t) = r.column t)
include hreference

theorem columnFragment_reference (t : ColumnRef) :
    r.columnFragment (reference t) = r.columnFragment t :=
  congrArg (Except.map fun sql : String => (⟨sql, []⟩ : Fragment)) (hreference t)

theorem condition_recolumn (lhs : Fragment) (op : Operator) (operand : Operand Rendered) :
    r.condition lhs op (operand.recolumn reference) = r.condition lhs op operand := by
  cases operand with
  | column c =>
    -- every operator that takes the column takes its text
    have htext := columnFragment_reference hreference c
    cases op with
    | rawEq | eq | ne | gt | ge | lt | le => exact congrArg (Except.map (infixed lhs _)) htext
    | _ => rfl
  | _ => rfl

theorem groupClause_map (columns : List ColumnRef) :
    r.groupClause (columns.map reference) = r.groupClause columns := by
  have hcolumn : r.column ∘ reference = r.column := funext hreference
  rw [groupClause, groupClause, List.mapM_map, hcolumn]

theorem orderClause_map (items : List OrderItem) :
    r.orderClause (items.map fun o => ⟨reference o.target, o.direction⟩) = r.orderClause items := by
  have hitem : (r.orderItem ∘ fun o => ⟨reference o.target, o.direction⟩) = r.orderItem := by
    funext o
    show r.orderItem ⟨reference o.target, o.direction⟩ = r.orderItem o
    rw [orderItem, orderItem, hreference]
  rw [orderClause, orderClause, List.mapM_map, hitem]

omit hreference in
theorem conjunction_map {keyword : String} {select : List (SelectItem Rendered)} {sec : Section}
    {change : Predicate Rendered → Predicate Rendered}
    (h : ∀ p, r.predicate select sec (change p) = r.predicate select sec p)
    (ps : List (Predicate Rendered)) :
    r.conjunction keyword select sec (ps.map change) = r.conjunction keyword select sec ps := by
  have hpredicate : r.predicate select sec ∘ change = r.predicate select sec := funext h
  rw [conjunction, conjunction, List.mapM_map, hpredicate]

theorem whereClause_retarget (c : Clauses Rendered) (target : ColumnRef → ColumnRef) :
    r.whereClause (c.retarget reference target) = r.whereClause c := by
  refine conjunction_map (fun p => ?_) c.wheres
  show (r.columnFragment (reference p.target) >>= fun lhs =>
      r.condition lhs p.op (p.operand.recolumn reference)) =
    r.columnFragment p.target >>= fun lhs => r.condition lhs p.op p.operand
  rw [columnFragment_reference hreference]
  exact bind_congr fun lhs => condition_recolumn hreference lhs p.op p.operand

omit hreference in
theorem havingClause_retarget {c : Clauses Rendered} {target : ColumnRef → ColumnRef}
    (htarget : ∀ t, r.target c.select .having (target t) = r.target c.select .having t) :
    r.havingClause (c.retarget reference target) = r.havingClause c := by
  refine conjunction_map (fun p => ?_) c.havings
  show (r.target c.select .having (target p.target) >>= fun lhs => r.condition lhs p.op p.operand) =
    r.predicate c.select .having p
  rw [htarget]
  rfl

/-- A level with other columns and targets of the same text is the same. -/
theorem level_retarget {c : Clauses Rendered} {target : ColumnRef → ColumnRef}
    (htarget : ∀ t, r.target c.select .having (target t) = r.target c.select .having t) :
    r.level (c.retarget reference target) = r.level c := by
  -- the page asks only whether rows are ordered, and no column is taken away or added
  have hpage : r.pageClause (c.retarget reference target) = r.pageClause c := by
    show (if c.limit.isSome || c.offset.isSome then
        r.dialect.page c.limit c.offset (!(c.orderBy.map _).isEmpty) else .empty) = _
    rw [List.isEmpty_map]
    rfl
  have hsource : r.source (c.retarget reference target) = r.source c := by
    rw [source, source, whereClause_retarget hreference, havingClause_retarget htarget]
    show (r.tableText c.table c.aliasName >>= fun table => r.joins c.joins >>= fun joined =>
      r.whereClause c >>= fun filter => r.groupClause (c.groupBy.map reference) >>= fun groups =>
      r.havingClause c >>= fun having => pure _) = _
    rw [groupClause_map hreference]
  have hlevel : r.selectLevel (c.retarget reference target) = r.selectLevel c := by
    rw [selectLevel, selectLevel, hsource, hpage]
    show (r.selectList c.select >>= fun items => r.source c >>= fun rows =>
      r.orderClause (c.orderBy.map _) >>= fun order => pure _) = _
    rw [orderClause_map hreference]
    rfl
  rw [level, level, hlevel]
  rfl

variable {target : List (SelectItem Query) → ColumnRef → ColumnRef}
  (htarget : ∀ select t, r.target (select.map (SelectItem.map r.query)) .having (target select t) =
    r.target (select.map (SelectItem.map r.query)) .having t)
include htarget

theorem query_retarget (q : Query) : r.query (q.retarget reference target) = r.query q := by
  induction q using Query.induct with
  | level c ih =>
    -- the select list is looked up by alias, so its sub-queries may be rewritten first
    have hsubs : (c.map fun q => q.retarget reference target).map r.query = c.map r.query := by
      rw [Clauses.map_map]
      exact c.map_congr ih
    rw [Query.retarget_of, query_of, query_of, Clauses.map_retarget,
      level_retarget hreference (htarget _), hsubs]

/-- **Substitution** of columns and targets with the same text. -/
theorem select_retarget (q : Query) : r.select (q.retarget reference target) = r.select q := by
  have hraw : (q.retarget reference target).clauses.raw = q.clauses.raw := by
    obtain ⟨c⟩ := q
    rw [Query.retarget_of]
    rfl
  rw [select, select, hraw, query_retarget hreference htarget]

end

/-! ### Aliases and texts -/

/-- A target in `HAVING`, with the alias of a selected column replaced by the SQL of the item. -/
def expandTarget (r : Renderer) (select : List (SelectItem S)) (t : ColumnRef) : ColumnRef :=
  match t with
  | .aliased name =>
    match select.find? (·.aliasName == some name) with
    | some ⟨.column c, aggregate, _⟩ =>
      match r.column c with
      | .ok sql => .expr (aggregated aggregate ⟨sql, []⟩).text
      | .error _ => t
    | _ => t
  | t => t

/-- A target in `HAVING`, with an alias that is not looked up, or not found, replaced by its own
text. -/
def spellTarget (r : Renderer) (select : List (SelectItem S)) (t : ColumnRef) : ColumnRef :=
  match t with
  | .aliased name =>
    if r.dialect.havingAllowsAlias || (select.find? (·.aliasName == some name)).isNone then
      .expr name
    else t
  | t => t

theorem column_spelled (t : ColumnRef) : r.column t.spelled = r.column t := by
  cases t <;> rfl

/-- The text of a selected column is what its alias is rendered as. -/
theorem target_expandTarget (h : r.dialect.havingAllowsAlias = false) (rendered : S → Rendered)
    (select : List (SelectItem S)) (t : ColumnRef) :
    r.target (select.map (SelectItem.map rendered)) .having (r.expandTarget select t) =
      r.target (select.map (SelectItem.map rendered)) .having t := by
  cases t with
  | field qualifier f => rfl
  | expr sql => rfl
  | aliased name =>
    -- only the alias of a selected column that has a text is replaced
    rw [expandTarget]
    split
    · rename_i c aggregate aliasName hfind
      split
      · rename_i sql hsql
        have hreplaced : r.target (select.map (SelectItem.map rendered)) .having (.aliased name) =
            r.item ⟨.column c, aggregate, aliasName⟩ :=
          target_of_replaces ((replaces_map rendered).2 ⟨_, ⟨h, name, rfl, hfind⟩, rfl⟩)
        rw [hreplaced, item_column hsql]
        rfl
      · rfl
    · rfl

/-- The text of an alias is what it is rendered as where it names no item. -/
theorem target_spellTarget (rendered : S → Rendered) (select : List (SelectItem S))
    (t : ColumnRef) :
    r.target (select.map (SelectItem.map rendered)) .having (r.spellTarget select t) =
      r.target (select.map (SelectItem.map rendered)) .having t := by
  cases t with
  | field qualifier f => rfl
  | expr sql => rfl
  | aliased name =>
    rw [spellTarget]
    split
    · rename_i hname
      rw [Bool.or_eq_true, Option.isNone_iff_eq_none] at hname
      show r.columnFragment (.expr name) = _
      rw [target, find?_map_aliasName]
      -- either the alias is allowed, or it is looked up and not found
      rcases hname with hallowed | hnone
      · rw [if_pos hallowed]
        rfl
      · rw [hnone]
        split <;> rfl
    · rfl

/-! ### Values in front -/

section

variable (vs : List Value) (lhs : Fragment)

theorem infixed_behind (op : Operator) (rhs : Fragment) :
    infixed (lhs.behind vs) op rhs = (infixed lhs op rhs).behind vs := by
  rw [infixed, infixed, Fragment.behind_append, Fragment.behind_append]

theorem nullCheck_behind (op : Operator) :
    nullCheck (lhs.behind vs) op = (nullCheck lhs op).behind vs :=
  Fragment.behind_append vs lhs _

theorem valueComparison_behind (op : Operator) (v : Value) :
    r.valueComparison (lhs.behind vs) op v = (r.valueComparison lhs op v).behind vs := by
  have hfloat : (lhs.behind vs).mapText r.dialect.floatAsText =
      (lhs.mapText r.dialect.floatAsText).behind vs := rfl
  simp only [valueComparison, hfloat, nullCheck_behind, infixed_behind]
  split_ifs <;> rfl

/-- A right side that is rendered behind the operator. -/
theorem map_infixed_behind (op : Operator) (rhs : Rendered) (f : Fragment → Fragment) :
    (rhs.map fun g => infixed (lhs.behind vs) op (f g)) =
      (rhs.map fun g => infixed lhs op (f g)).map (Fragment.behind vs) := by
  cases rhs with
  | ok g => exact congrArg Except.ok (infixed_behind vs lhs op (f g))
  | error e => rfl

theorem membership_behind (op : Operator) (list : List Value) :
    membership (lhs.behind vs) op (.list list) =
      (membership lhs op (.list list)).map (Fragment.behind vs) := by
  cases list with
  | nil => rfl
  | cons v rest => exact congrArg Except.ok (infixed_behind vs lhs op _)

theorem patternCondition_behind (op : Operator) (parts : List Value) :
    r.patternCondition (lhs.behind vs) op (.list parts) =
      (r.patternCondition lhs op (.list parts)).map (Fragment.behind vs) := by
  cases parts with
  | nil => rfl
  | cons v rest => exact congrArg Except.ok (infixed_behind vs lhs op _)

theorem range_behind (op : Operator) (ends : List Value) :
    range (lhs.behind vs) op (.list ends) =
      (range lhs op (.list ends)).map (Fragment.behind vs) := by
  match ends with
  | [low, high] => exact congrArg Except.ok (infixed_behind vs lhs op _)
  | [] | [_] | _ :: _ :: _ :: _ => rfl

/-- Values of a target come before those of the operand, whatever the condition is. -/
theorem condition_behind (op : Operator) (operand : Operand Rendered) :
    r.condition (lhs.behind vs) op operand =
      (r.condition lhs op operand).map (Fragment.behind vs) := by
  -- by the operand, then by the operators that take it; the other ones refuse it anyway
  cases operand with
  | absent =>
    cases op with
    | isNull | isNotNull => exact congrArg Except.ok (nullCheck_behind vs lhs _)
    | _ => rfl
  | value v =>
    cases op with
    | raw =>
      cases v with
      | text sql => exact congrArg Except.ok (Fragment.behind_append vs lhs _)
      | _ => rfl
    | like | notLike => exact congrArg Except.ok (infixed_behind vs lhs _ (r.patternOf [v]))
    | eq | ne | gt | ge | lt | le =>
      exact congrArg Except.ok (valueComparison_behind vs lhs _ v)
    | _ => rfl
  | list list =>
    cases op with
    | «in» | notIn => exact membership_behind vs lhs _ list
    | like | notLike => exact patternCondition_behind vs lhs _ list
    | between | notBetween => exact range_behind vs lhs _ list
    | _ => rfl
  | sub q =>
    cases op with
    | raw | isNull | isNotNull => rfl
    | _ => exact map_infixed_behind vs lhs _ q Fragment.parenthesized
  | column c =>
    cases op with
    | rawEq | eq | ne | gt | ge | lt | le =>
      exact map_infixed_behind vs lhs _ (r.columnFragment c) fun g => g
    | _ => rfl
  | raw sql =>
    cases op with
    | raw => exact congrArg Except.ok (Fragment.behind_append vs lhs _)
    | _ => rfl

end

/-! ### Replaced targets -/

/-- A predicate whose target is replaced by an item is the predicate on the text of the item, with
the values of the item in front. -/
theorem predicate_of_replaces {select : List (SelectItem Rendered)} {p : Predicate Rendered}
    {i : SelectItem Rendered} (hi : r.Replaces select p.target i) {item : Fragment}
    (hitem : r.item i = .ok item) :
    r.predicate select .having p =
      (r.predicate select .having ⟨.expr item.text, p.op, p.operand⟩).map
        (Fragment.behind item.params) := by
  -- the item is its text alone, with its values put in front
  have hbehind : item = (⟨item.text, []⟩ : Fragment).behind item.params :=
    congrArg (Fragment.mk item.text) (List.append_nil item.params).symm
  have htarget : r.target select .having p.target = .ok item :=
    (target_of_replaces hi).trans hitem
  calc r.predicate select .having p
      = r.condition item p.op p.operand := by
        rw [predicate, htarget]
        rfl
    _ = r.condition ((⟨item.text, []⟩ : Fragment).behind item.params) p.op p.operand := by
        rw [← hbehind]
    _ = (r.condition ⟨item.text, []⟩ p.op p.operand).map (Fragment.behind item.params) :=
        condition_behind _ _ _ _

/-- A selected sub-query has the values of the sub-query. -/
theorem item_sub {rendered : S → Rendered} {s : S} {inner : Fragment}
    (h : rendered s = .ok inner) {i : SelectItem S} (hi : i.expr = .sub s) :
    r.item (i.map rendered) =
      .ok ⟨(aggregated i.aggregate inner.parenthesized).text, inner.params⟩ := by
  have hitem : r.item (i.map rendered) =
      ((rendered s).map Fragment.parenthesized).map (aggregated i.aggregate) := by
    have hexpr : (i.map rendered).expr = .sub (rendered s) := congrArg (SelectExpr.map rendered) hi
    rw [item, hexpr]
    rfl
  have hparams : (aggregated i.aggregate inner.parenthesized).params = inner.params := by
    rw [params_aggregated]
    exact List.append_nil _
  rw [hitem, h, ← hparams]
  rfl

/-- **Expansion** in `HAVING` is a substitution.

In a dialect without aliases in `HAVING`, the targets that name selected columns may be replaced by
the SQL of these columns, at every level.  In every dialect, aliases in `WHERE`, `GROUP BY` and
`ORDER BY` may be replaced by their own text, and so may the targets in `HAVING` that the dialect
does not look up or that are not found in the select list of their own level.  The statement stays
the same, or the error.

A target that names a selected sub-query is the text of that item, with the values of the
sub-query bound once more, in front of those of the operand. -/
theorem having_expansion (r : Renderer) (q : Query) :
    (r.dialect.havingAllowsAlias = false →
      r.select (q.retarget id r.expandTarget) = r.select q) ∧
    r.select (q.retarget ColumnRef.spelled r.spellTarget) = r.select q ∧
    ∀ c, q.Level c → c.raw = none → ∀ p ∈ c.havings, ∀ i s, r.Replaces c.select p.target i →
      i.expr = .sub s → ∀ inner, r.query s = .ok inner → ∃ text,
        r.item (i.map r.query) = .ok ⟨text, inner.params⟩ ∧
        r.predicate (c.select.map (SelectItem.map r.query)) .having (p.map r.query) =
          (r.predicate (c.select.map (SelectItem.map r.query)) .having
            (Predicate.map r.query ⟨.expr text, p.op, p.operand⟩)).map
              (Fragment.behind inner.params) ∧
        ∀ draft, r.query q = .ok draft → ∃ conjunct,
          r.predicate (c.select.map (SelectItem.map r.query)) .having
            (Predicate.map r.query ⟨.expr text, p.op, p.operand⟩) = .ok conjunct ∧
          (conjunct.behind inner.params).StandsIn draft := by
  refine ⟨fun hunknown => ?_, ?_, ?_⟩
  · exact select_retarget (fun _ => rfl) (target_expandTarget hunknown r.query) q
  · exact select_retarget column_spelled (target_spellTarget r.query) q
  · -- the sub-query is no column, so its values are followed through the predicate
    intro c hc hraw p hp i s hi hsub inner hinner
    have hitem := item_sub (r := r) hinner hsub
    have hreplaced : r.Replaces (c.select.map (SelectItem.map r.query)) (p.map r.query).target
        (i.map r.query) := (replaces_map r.query).2 ⟨i, hi, rfl⟩
    have hpredicate := predicate_of_replaces hreplaced hitem
    refine ⟨_, hitem, hpredicate, fun draft hdraft => ?_⟩
    obtain ⟨g, hg, hstands⟩ := predicate_of_level hc hdraft hraw hp
    rw [hpredicate] at hg
    obtain ⟨conjunct, hconjunct, rfl⟩ := Outcome.map_eq_ok.1 hg
    exact ⟨conjunct, hconjunct, hstands⟩

/-- The sum of the amounts and the larger ones among them, each with a test in `HAVING`. -/
def sumAndLarger (total : ColumnRef) : Query :=
  .of { table := "Order",
        select := [⟨.column amount, some .sum, some "total"⟩,
          ⟨.sub (amountsAbove (.int 5)), none, some "larger"⟩],
        havings := [⟨total, .gt, .value (.int 9)⟩, ⟨.aliased "larger", .lt, .value (.int 7)⟩] }

set_option maxRecDepth 4000 in
/-- The sum is written into `HAVING`, and the sub-query binds its value once more there. -/
theorem having_expansion_sumAndLarger :
    (Renderer.mk orders .postgres).select (sumAndLarger (.expr "SUM(amount)")) =
        (Renderer.mk orders .postgres).select (sumAndLarger (.aliased "total")) ∧
      ∃ draft, (Renderer.mk orders .postgres).query (sumAndLarger (.aliased "total")) = .ok draft ∧
        (⟨"(SELECT amount FROM orders WHERE amount > ?) < ?", [.int 5, .int 7]⟩ :
          Fragment).StandsIn draft := by
  have hexpanded : (sumAndLarger (.aliased "total")).retarget id
      (Renderer.mk orders .postgres).expandTarget = sumAndLarger (.expr "SUM(amount)") := rfl
  have hinner : (Renderer.mk orders .postgres).query (amountsAbove (.int 5)) =
      .ok ⟨"SELECT amount FROM orders WHERE amount > ?", [.int 5]⟩ := rfl
  have hdraft : (Renderer.mk orders .postgres).query (sumAndLarger (.aliased "total")) = .ok
      ⟨"SELECT SUM(amount) AS total, (SELECT amount FROM orders WHERE amount > ?) AS larger " ++
        "FROM orders HAVING SUM(amount) > ? AND (SELECT amount FROM orders WHERE amount > ?) < ?",
        [.int 5, .int 9, .int 5, .int 7]⟩ := rfl
  obtain ⟨hcolumns, -, hsubs⟩ :=
    having_expansion ⟨orders, .postgres⟩ (sumAndLarger (.aliased "total"))
  obtain ⟨text, hitem, -, hstatement⟩ := hsubs _ (.outermost _) rfl
    ⟨.aliased "larger", .lt, .value (.int 7)⟩ (List.mem_cons_of_mem _ (List.mem_singleton.2 rfl))
    ⟨.sub (amountsAbove (.int 5)), none, some "larger"⟩ _ ⟨rfl, "larger", rfl, rfl⟩ rfl _ hinner
  -- what the theorem says exists is identified by computing it
  obtain rfl : "(SELECT amount FROM orders WHERE amount > ?)" = text :=
    congrArg Fragment.text (Except.ok.inj hitem)
  obtain ⟨conjunct, hconjunct, hstands⟩ := hstatement _ hdraft
  obtain rfl : ⟨"(SELECT amount FROM orders WHERE amount > ?) < ?", [.int 7]⟩ = conjunct :=
    Except.ok.inj hconjunct
  rw [hexpanded] at hcolumns
  exact ⟨hcolumns rfl, _, hdraft, hstands⟩

end Renderer

end EntitySql
