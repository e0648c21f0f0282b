import EntitySql.Proofs.Query.WellFormed
import EntitySql.Proofs.Statement.Command
import EntitySql.Proofs.Statement.Condition
import EntitySql.Proofs.Statement.Name

/-!
# Which queries have a statement

A query without raw SQL on the outermost level whose names are registered has a statement iff it is
well-formed.  Otherwise it is refused for the first of its offences in the order of rendering, in
every dialect for the same one (`Renderer.select_ok_iff_wellFormed`).

An outcome is *judged* by a list of offences if it is refused for the first one, and succeeds if
there is none.  Steps one after another are judged by their offences one after another
(`Outcome.Judged.bind`), so each part of a level is judged by its own offences.

A dialect without aliases in `HAVING` renders selected items a second time there.  This adds no
offence: when `HAVING` is rendered, the select list has been (`Renderer.target_judged`).
-/

namespace EntitySql

/-! ### Outcomes and offences -/

/-- An outcome that is refused for the first of some offences, and succeeds if there is none. -/
def Outcome.Judged {α : Type} (x : Outcome α) : List Refusal → Prop
  | [] => ∃ a, x = .ok a
  | o :: _ => x = .error (.refused o)

namespace Outcome.Judged

variable {α β γ : Type} {x : Outcome α} {os os' : List Refusal}

theorem bind {f : α → Outcome β} (h : Judged x os) (hf : ∀ a, x = .ok a → Judged (f a) os') :
    Judged (x >>= f) (os ++ os') := by
  cases os with
  | nil =>
    obtain ⟨a, rfl⟩ := h
    exact hf a rfl
  | cons o os =>
    rw [show x = .error (.refused o) from h]
    rfl

/-- A step that succeeds leaves the judgement to the next one. -/
theorem bind_of_nil {f : α → Outcome β} (h : Judged x [])
    (hf : ∀ a, x = .ok a → Judged (f a) os) : Judged (x >>= f) os := by
  obtain ⟨a, rfl⟩ := h
  exact hf a rfl

theorem map {f : α → β} (h : Judged x os) : Judged (x.map f) os := by
  cases os with
  | nil =>
    obtain ⟨a, rfl⟩ := h
    exact ⟨f a, rfl⟩
  | cons o os =>
    rw [show x = .error (.refused o) from h]
    rfl

/-- What is done without fail at the end changes nothing. -/
theorem bind_of_forall {f : α → Outcome β} (h : Judged x os)
    (hf : ∀ a, x = .ok a → Judged (f a) []) : Judged (x >>= f) os := by
  have hbind := h.bind hf
  rwa [List.append_nil] at hbind

theorem mapM {f : α → Outcome β} {g : γ → List Refusal} {xs : List α} {ys : List γ}
    (h : List.Forall₂ (fun x y => Judged (f x) (g y)) xs ys) :
    Judged (xs.mapM f) (ys.flatMap g) := by
  induction h with
  | nil => exact ⟨[], rfl⟩
  | cons hxy _ ih =>
    rw [List.mapM_cons, List.flatMap_cons]
    exact hxy.bind fun y _ => ih.bind_of_forall fun ys _ => ⟨y :: ys, rfl⟩

/-- A list of which each element succeeds. -/
theorem mapM_nil {f : α → Outcome β} {xs : List α} (h : ∀ x ∈ xs, Judged (f x) []) :
    Judged (xs.mapM f) [] :=
  Outcome.exists_mapM h

/-- Elements that are replaced on both sides. -/
theorem mapM_map {δ ε : Type} {m : δ → α} {m' : δ → ε} {f : α → Outcome β}
    {g : ε → List Refusal} {xs : List δ} (h : ∀ x ∈ xs, Judged (f (m x)) (g (m' x))) :
    Judged ((xs.map m).mapM f) ((xs.map m').flatMap g) := by
  refine mapM ?_
  rw [List.forall₂_map_left_iff, List.forall₂_map_right_iff]
  exact List.forall₂_same.2 h

end Outcome.Judged

open Outcome (Judged)

namespace Renderer

variable {r : Renderer}

/-! ### Names -/

theorem table_judged {key : EntityKey} (h : r.catalog.isRegistered key = true) :
    Judged (r.table key) [] := by
  obtain ⟨s, hs⟩ := Option.isSome_iff_exists.1 h
  exact ⟨s.tableName, table_eq_ok.2 ⟨s, hs, rfl⟩⟩

theorem column_judged {c : ColumnRef} (h : c.Registered r.catalog) : Judged (r.column c) [] := by
  cases c with
  | field qualifier f =>
    obtain ⟨resolved, hresolved⟩ := Option.isSome_iff_exists.1 h
    exact ⟨_, column_field_eq_ok.2 ⟨resolved, hresolved, rfl⟩⟩
  | aliased name => exact ⟨name, rfl⟩
  | expr sql => exact ⟨sql, rfl⟩

theorem columnFragment_judged {c : ColumnRef} (h : c.Registered r.catalog) :
    Judged (r.columnFragment c) [] :=
  (column_judged h).map

theorem columnPair_judged {pair : ColumnRef × ColumnRef}
    (h : pair.1.Registered r.catalog ∧ pair.2.Registered r.catalog) :
    Judged (r.columnPair pair) [] :=
  (column_judged h.1).bind_of_nil fun left _ => (column_judged h.2).bind_of_nil fun right _ =>
    ⟨left ++ " = " ++ right, rfl⟩

theorem join_judged {j : Join} (h : j.Registered r.catalog) : Judged (r.join j) j.offences := by
  rw [Join.offences]
  by_cases hon : j.on = []
  · rw [if_pos hon, join, hon]
    rfl
  · rw [if_neg hon]
    obtain ⟨table, htable⟩ := (table_judged h.table).map (f := (· ++ aliasSuffix j.aliasName))
    obtain ⟨pairs, hpairs⟩ := Judged.mapM_nil fun pair hpair => columnPair_judged (h.on pair hpair)
    exact ⟨_, join_eq_ok.2 ⟨hon, table, htable, pairs, hpairs, rfl⟩⟩

theorem joins_judged {js : List Join} (h : ∀ j ∈ js, j.Registered r.catalog) :
    Judged (r.joins js) (js.flatMap (·.offences)) :=
  (Judged.mapM (List.forall₂_same.2 fun j hj => join_judged (h j hj))).map

/-! ### Conditions -/

section

variable (r) (lhs : Fragment) {op : Operator} {operand : Operand Rendered}

theorem rawCondition_eq_error (h : ¬ Operator.raw.Takes operand) :
    rawCondition lhs operand = .error (.refused .rawNeedsText) := by
  cases operand with
  | raw sql => exact absurd rfl h
  | value v =>
    cases v with
    | text sql => exact absurd (Or.inl rfl) h
    | _ => rfl
  | _ => rfl

theorem nullCondition_eq_error (hop : op ∈ Operator.nullTests) (h : ¬ op.Takes operand) :
    nullCondition lhs op operand = .error (.refused .nullCheckWithOperand) := by
  cases operand with
  | absent => exact absurd hop h
  | _ => rfl

theorem columnCondition_eq_error (h : ¬ Operator.rawEq.Takes operand) :
    r.columnCondition lhs operand = .error (.refused .columnNeeded) := by
  cases operand with
  | column c => exact absurd (Or.inl rfl) h
  | _ => rfl

theorem membership_eq_error (hop : op ∈ Operator.memberships) (h : ¬ op.Takes operand) :
    membership lhs op operand = .error (.refused (.listNeeded op)) := by
  cases operand with
  | list vs => exact absurd (Or.inl hop) h
  | _ => rfl

theorem patternCondition_eq_error (hop : op ∈ Operator.patterns) (h : ¬ op.Takes operand) :
    r.patternCondition lhs op operand = .error (.refused (op.refusal operand)) := by
  cases operand with
  | list vs =>
    cases vs with
    | nil => rcases List.mem_pair.1 hop with rfl | rfl <;> rfl
    | cons v vs => exact absurd (Or.inr (Or.inl ⟨hop, List.cons_ne_nil v vs⟩)) h
  | value v => exact absurd (Operator.takes_value.2 (Or.inr (Or.inl hop))) h
  | _ => rcases List.mem_pair.1 hop with rfl | rfl <;> rfl

theorem range_eq_error (hop : op ∈ Operator.ranges) (h : ¬ op.Takes operand) :
    range lhs op operand = .error (.refused (.twoValuesNeeded op)) := by
  cases operand with
  | list vs =>
    match vs with
    | [low, high] => exact absurd (Or.inr (Or.inr ⟨hop, rfl⟩)) h
    | [] | [_] | _ :: _ :: _ :: _ => rfl
  | _ => rfl

theorem comparison_eq_error (hop : op ∈ Operator.comparisons) (h : ¬ op.Takes operand) :
    r.comparison lhs op operand =
      .error (.refused (.operandRefused op (Operator.shown operand))) := by
  cases operand with
  | value v => exact absurd (Operator.takes_value.2 (Or.inr (Or.inr hop))) h
  | column c => exact absurd (Or.inr hop) h
  | _ => rfl

/-- An operator refuses every operand that it does not take. -/
theorem condition_eq_error (h : ¬ op.Takes operand) :
    r.condition lhs op operand = .error (.refused (op.refusal operand)) := by
  cases operand with
  -- a sub-query is looked at before the class of the operator, except by the first two classes
  | sub q =>
    cases op with
    | raw | isNull | isNotNull => rfl
    | _ => exact absurd ⟨by decide, by decide⟩ h
  | absent | value v | list vs | column c | raw sql =>
    cases op with
    | raw => exact rawCondition_eq_error lhs h
    | isNull | isNotNull => exact nullCondition_eq_error lhs (by decide) h
    | rawEq => exact columnCondition_eq_error r lhs h
    | «in» | notIn => exact membership_eq_error lhs (by decide) h
    | like | notLike => exact patternCondition_eq_error r lhs (by decide) h
    | between | notBetween => exact range_eq_error lhs (by decide) h
    | eq | ne | gt | ge | lt | le => exact comparison_eq_error r lhs (by decide) h

end

section

variable {S : Type} {rendered : S → Rendered} {offences : S → List Refusal}

/-- With an operand that its operator takes, only the sub-query can be wrong. -/
theorem condition_judged_of_takes (lhs : Fragment) {op : Operator} {operand : Operand S}
    (h : op.Takes operand) (hnames : operand.Registered r.catalog)
    (hsubs : ∀ s ∈ operand.subs, Judged (rendered s) (offences s)) :
    Judged (r.condition lhs op (operand.map rendered)) (operand.map offences).subs.flatten := by
  -- an operator that takes an operand never fails on it, so only the two operands that are
  -- themselves rendered, a column and a sub-query, bring in anything to judge
  cases operand with
  | absent => rcases List.mem_pair.1 h with rfl | rfl <;> exact ⟨_, rfl⟩
  | raw sql =>
    obtain rfl : op = .raw := h
    exact ⟨_, rfl⟩
  | value v =>
    rcases Operator.takes_value.1 h with ⟨rfl, sql, rfl⟩ | hop | hop
    · exact ⟨_, rfl⟩
    · rcases List.mem_pair.1 hop with rfl | rfl <;> exact ⟨_, rfl⟩
    · rcases Operator.mem_comparisons.1 hop with rfl | rfl | rfl | rfl | rfl | rfl <;>
        exact ⟨_, rfl⟩
  | column c =>
    have hcolumn : ∀ op', Judged ((r.columnFragment c).map (infixed lhs op')) [] :=
      fun _ => (columnFragment_judged hnames).map
    rcases h with rfl | hop
    · exact hcolumn .eq
    · rcases Operator.mem_comparisons.1 hop with rfl | rfl | rfl | rfl | rfl | rfl <;>
        exact hcolumn _
  | list vs =>
    rcases h with hop | ⟨hop, hne⟩ | ⟨hop, hlength⟩
    · rcases List.mem_pair.1 hop with rfl | rfl <;> cases vs <;> exact ⟨_, rfl⟩
    · obtain ⟨v, vs, rfl⟩ := List.exists_cons_of_ne_nil hne
      rcases List.mem_pair.1 hop with rfl | rfl <;> exact ⟨_, rfl⟩
    · obtain ⟨low, high, rfl⟩ := List.length_eq_two.1 hlength
      rcases List.mem_pair.1 hop with rfl | rfl <;> exact ⟨_, rfl⟩
  | sub s =>
    have hs : Judged (rendered s) (offences s) := hsubs s (List.mem_singleton.2 rfl)
    rw [show ((Operand.sub s).map offences).subs.flatten = offences s from List.append_nil _]
    obtain ⟨hraw, hnull⟩ := h
    cases op with
    | raw => exact absurd rfl hraw
    | isNull | isNotNull => exact absurd (by decide) hnull
    | _ => exact hs.map

theorem predicate_judged {select : List (SelectItem Rendered)} {sec : Section} {p : Predicate S}
    (htarget : Judged (r.target select sec p.target) []) (hnames : p.operand.Registered r.catalog)
    (hsubs : ∀ s ∈ p.operand.subs, Judged (rendered s) (offences s)) :
    Judged (r.predicate select sec (p.map rendered)) (p.map offences).offences := by
  refine htarget.bind_of_nil fun lhs _ => ?_
  -- the target comes first, and it is right: the operator and its operand decide
  by_cases h : p.op.Takes p.operand
  · rw [Predicate.offences_of_takes h]
    exact condition_judged_of_takes lhs h hnames hsubs
  · rw [Predicate.offences_of_not_takes h, ← Operator.refusal_map rendered]
    exact condition_eq_error r lhs fun h' => h ((Operator.takes_map rendered p.op p.operand).1 h')

/-! ### The select list and targets -/

theorem item_judged {i : SelectItem S} (hnames : i.expr.Registered r.catalog)
    (hsubs : ∀ s ∈ i.subs, Judged (rendered s) (offences s)) :
    Judged (r.item (i.map rendered)) (i.map offences).offences := by
  obtain ⟨expr, aggregate, aliasName⟩ := i
  cases expr with
  | column c => exact (columnFragment_judged hnames).map
  | sub s =>
    have hs : Judged (rendered s) (offences s) := hsubs s (List.mem_singleton.2 rfl)
    rw [show ((SelectItem.mk (.sub s) aggregate aliasName).map offences).offences = offences s
      from List.append_nil _]
    exact hs.map.map

/-- Selected items that are all rendered. -/
theorem exists_item_of_selectList {is : List (SelectItem Rendered)} {f : Fragment}
    (h : r.selectList is = .ok f) : ∀ i ∈ is, ∃ g, r.item i = .ok g := by
  intro i hi
  obtain ⟨fragments, hfragments, -⟩ := Outcome.bind_eq_ok.1 h
  obtain ⟨g, hg⟩ := Outcome.exists_of_mapM_eq_ok hfragments hi
  obtain ⟨item, hitem, -⟩ := Outcome.map_eq_ok.1 hg
  exact ⟨item, hitem⟩

/-- Once the select list is rendered, nothing is wrong with a target. -/
theorem target_judged {select : List (SelectItem Rendered)}
    (hselect : ∀ i ∈ select, ∃ g, r.item i = .ok g) (sec : Section) {t : ColumnRef}
    (hnames : t.Registered r.catalog) : Judged (r.target select sec t) [] := by
  match sec, t with
  | .having, .aliased name =>
    rw [target]
    by_cases halias : r.dialect.havingAllowsAlias = true
    · rw [if_pos halias]
      exact ⟨⟨name, []⟩, rfl⟩
    · rw [if_neg halias]
      cases hfind : select.find? (·.aliasName == some name) with
      | none => exact ⟨⟨name, []⟩, rfl⟩
      -- the item is rendered once more, and the select list has it already
      | some i => exact hselect i (List.mem_of_find?_eq_some hfind)
  | .where, t => exact columnFragment_judged hnames
  | .having, .field q f => exact columnFragment_judged hnames
  | .having, .expr sql => exact ⟨⟨sql, []⟩, rfl⟩

/-! ### Levels -/

theorem selectList_judged {is : List (SelectItem S)}
    (hnames : ∀ i ∈ is, i.expr.Registered r.catalog)
    (hsubs : ∀ i ∈ is, ∀ s ∈ i.subs, Judged (rendered s) (offences s)) :
    Judged (r.selectList (is.map (SelectItem.map rendered)))
      ((is.map (SelectItem.map offences)).flatMap (·.offences)) := by
  have hitems : Judged ((is.map (SelectItem.map rendered)).mapM r.selectItem)
      ((is.map (SelectItem.map offences)).flatMap (·.offences)) :=
    Judged.mapM_map fun i hi => (item_judged (hnames i hi) (hsubs i hi)).map
  refine hitems.bind_of_forall fun fragments _ => ?_
  by_cases hnone : fragments.isEmpty = true
  · rw [if_pos hnone]
    exact ⟨_, rfl⟩
  · rw [if_neg hnone]
    exact ⟨_, rfl⟩

theorem conjunction_judged {keyword : String} {select : List (SelectItem Rendered)} {sec : Section}
    {ps : List (Predicate S)} (hselect : ∀ i ∈ select, ∃ g, r.item i = .ok g)
    (hnames : ∀ p ∈ ps, p.Registered r.catalog)
    (hsubs : ∀ p ∈ ps, ∀ s ∈ p.operand.subs, Judged (rendered s) (offences s)) :
    Judged (r.conjunction keyword select sec (ps.map (Predicate.map rendered)))
      ((ps.map (Predicate.map offences)).flatMap (·.offences)) := by
  have hpredicates : Judged ((ps.map (Predicate.map rendered)).mapM (r.predicate select sec))
      ((ps.map (Predicate.map offences)).flatMap (·.offences)) :=
    Judged.mapM_map fun p hp => predicate_judged
      (target_judged hselect sec (hnames p hp).target) (hnames p hp).operand (hsubs p hp)
  refine hpredicates.bind_of_forall fun conditions _ => ?_
  by_cases hnone : conditions.isEmpty = true
  · rw [if_pos hnone]
    exact ⟨_, rfl⟩
  · rw [if_neg hnone]
    exact ⟨_, rfl⟩

theorem tableText_judged {key : EntityKey} (h : r.catalog.isRegistered key = true)
    (aliasName : Option String) : Judged (r.tableText key aliasName) [] :=
  (table_judged h).map

theorem groupClause_judged {columns : List ColumnRef}
    (h : ∀ c ∈ columns, c.Registered r.catalog) : Judged (r.groupClause columns) [] :=
  (Judged.mapM_nil fun c hc => column_judged (h c hc)).map

theorem orderClause_judged {items : List OrderItem}
    (h : ∀ o ∈ items, o.target.Registered r.catalog) : Judged (r.orderClause items) [] :=
  (Judged.mapM_nil fun o ho => (column_judged (h o ho)).map).map

section

variable {c : Clauses S} (hnames : c.Registered r.catalog)
  (hsubs : ∀ s ∈ c.subs, Judged (rendered s) (offences s))
include hnames hsubs

/-- The part of a level behind the select list: the joins, `WHERE` and `HAVING`. -/
theorem source_judged (hselect : ∀ i ∈ (c.map rendered).select, ∃ g, r.item i = .ok g) :
    Judged (r.source (c.map rendered))
      (c.joins.flatMap (·.offences) ++
        (((c.map offences).wheres.flatMap (·.offences)) ++
          ((c.map offences).havings.flatMap (·.offences)))) := by
  have hwhere : Judged (r.whereClause (c.map rendered))
      ((c.map offences).wheres.flatMap (·.offences)) :=
    conjunction_judged hselect hnames.wheres fun p hp s hs =>
      hsubs s (Clauses.mem_subs_of_wheres hp hs)
  have hhaving : Judged (r.havingClause (c.map rendered))
      ((c.map offences).havings.flatMap (·.offences)) :=
    conjunction_judged hselect hnames.havings fun p hp s hs =>
      hsubs s (Clauses.mem_subs_of_havings hp hs)
  -- the names are registered, so the table and the groups add no offence between the others
  refine (tableText_judged hnames.table _).bind_of_nil fun table _ => ?_
  refine (joins_judged hnames.joins).bind fun joined _ => ?_
  refine hwhere.bind fun filter _ => ?_
  refine (groupClause_judged hnames.groupBy).bind_of_nil fun groups _ => ?_
  exact hhaving.bind_of_forall fun having _ => ⟨_, rfl⟩

/-- A level is refused for the first of its offences: those of the select list, the joins, `WHERE`
and `HAVING`, one after another. -/
theorem level_judged (hraw : c.raw = none) :
    Judged (r.level (c.map rendered)) (c.map offences).offences := by
  rw [level, Clauses.offences, show (c.map rendered).raw = none from hraw,
    show (c.map offences).raw = none from hraw]
  -- nested to the right, the offences are appended as the clauses are bound
  simp only [List.append_assoc]
  refine (selectList_judged hnames.select fun i hi s hs =>
    hsubs s (Clauses.mem_subs_of_select hi hs)).bind fun items hitems => ?_
  refine (source_judged hnames hsubs (exists_item_of_selectList hitems)).bind_of_forall
    fun rows _ => ?_
  exact (orderClause_judged hnames.orderBy).bind_of_nil fun order _ => ⟨_, rfl⟩

end

end

/-! ### Queries -/

/-- A query is refused for the first of its offences, in the order in which it is rendered. -/
theorem query_judged {q : Query} (hnames : q.Registered r.catalog) :
    Judged (r.query q) q.offences := by
  induction q using Query.induct with
  | level c ih =>
    rw [query_of, Query.offences, Query.fold_of]
    cases hraw : c.raw with
    -- hand-written SQL hides the sub-queries, and with them their offences
    | some raw =>
      rw [level, Clauses.offences, show (c.map r.query).raw = some raw from hraw,
        show (c.map (Query.fold Clauses.offences)).raw = some raw from hraw]
      exact ⟨_, rfl⟩
    | none =>
      exact level_judged (hnames c (.outermost c) hraw)
        (fun q hq => ih q hq fun d hd => hnames d (.inner hraw hq hd)) hraw

theorem select_judged {q : Query} (hraw : q.clauses.raw = none)
    (hnames : q.Registered r.catalog) : Judged (r.select q) q.offences := by
  rw [select, hraw]
  exact (query_judged hnames).map

/-- **Acceptance**: among the queries without raw SQL on the outermost level whose names are
registered, exactly the well-formed ones have a statement.  Every other one is refused for the first
of its offences in the order of rendering, and never fails in another way.  The dialect makes no
difference to this. -/
theorem select_ok_iff_wellFormed {q : Query} (hraw : q.clauses.raw = none)
    (hnames : q.Registered r.catalog) :
    ((∃ st, r.select q = .ok st) ↔ q.WellFormed) ∧
      (¬ q.WellFormed → ∃ o, q.offences.head? = some o ∧ r.select q = .error (.refused o)) ∧
      ∀ d : Dialect,
        (r.select q).map (fun _ => ()) = ((Renderer.mk r.catalog d).select q).map fun _ => () := by
  -- the offences name no dialect, so one judgement serves every dialect
  have hjudged := fun d : Dialect => select_judged (r := ⟨r.catalog, d⟩) hraw hnames
  rw [← Query.offences_eq_nil]
  cases hoffences : q.offences with
  | nil =>
    rw [hoffences] at hjudged
    refine ⟨⟨fun _ => rfl, fun _ => hjudged r.dialect⟩, fun h => absurd rfl h, fun d => ?_⟩
    obtain ⟨st, hst⟩ := hjudged d
    obtain ⟨st', hst'⟩ := hjudged r.dialect
    rw [hst, hst']
    rfl
  | cons o os =>
    have herror : ∀ d, (Renderer.mk r.catalog d).select q = .error (.refused o) := by
      intro d
      have h := hjudged d
      rwa [hoffences] at h
    refine ⟨⟨fun ⟨st, hst⟩ => ?_, fun h => absurd h (List.cons_ne_nil o os)⟩,
      fun _ => ⟨o, rfl, herror r.dialect⟩, fun d => ?_⟩
    · rw [herror r.dialect] at hst
      cases hst
    · rw [herror d, herror r.dialect]

/-- A range with one end. -/
def openRange : Query :=
  .of { table := "Order", wheres := [⟨amount, .between, .list [.int 1]⟩] }

/-- The open range selected under an alias, and the alias looked up in a scalar by `HAVING`. -/
def misfit : Query :=
  .of { table := "Order", select := [⟨.sub openRange, none, some "total"⟩],
        havings := [⟨.aliased "total", .in, .value (.int 1)⟩] }

theorem registered_misfit : misfit.Registered orders := by
  have houter : misfit.clauses.Registered orders :=
    { table := rfl
      select := List.forall_mem_singleton.2 trivial
      joins := List.forall_mem_nil _
      wheres := List.forall_mem_nil _
      groupBy := List.forall_mem_nil _
      havings := List.forall_mem_singleton.2 ⟨trivial, trivial⟩
      orderBy := List.forall_mem_nil _ }
  have hinner : openRange.clauses.Registered orders :=
    { table := rfl
      select := List.forall_mem_nil _
      joins := List.forall_mem_nil _
      wheres := List.forall_mem_singleton.2 ⟨rfl, trivial⟩
      groupBy := List.forall_mem_nil _
      havings := List.forall_mem_nil _
      orderBy := List.forall_mem_nil _ }
  intro d hd _
  -- there are two levels, the query itself and the one that it selects
  rcases Query.level_of_iff.1 hd with rfl | ⟨-, q, hq, hd⟩
  · exact houter
  · obtain rfl := List.mem_singleton.1 hq
    rcases Query.level_of_iff.1 hd with rfl | ⟨-, q, hq, -⟩
    · exact hinner
    · cases hq

/-- The sub-query comes first, also where `HAVING` would render it again. -/
theorem select_refused_misfit :
    misfit.offences = [.twoValuesNeeded .between, .listNeeded .in] ∧
      (Renderer.mk orders .postgres).select misfit =
        .error (.refused (.twoValuesNeeded .between)) := by
  have hoffences : misfit.offences = [.twoValuesNeeded .between, .listNeeded .in] := rfl
  have hill : ¬ misfit.WellFormed := by
    rw [← Query.offences_eq_nil, hoffences]
    exact List.cons_ne_nil _ _
  obtain ⟨-, hrefused, -⟩ :=
    select_ok_iff_wellFormed (r := ⟨orders, .postgres⟩) (q := misfit) rfl registered_misfit
  obtain ⟨o, ho, hselect⟩ := hrefused hill
  rw [hoffences] at ho
  obtain rfl := Option.some.inj ho
  exact ⟨hoffences, hselect⟩

end Renderer

end EntitySql
