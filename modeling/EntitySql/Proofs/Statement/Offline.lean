import EntitySql.Proofs.Query.Level
import EntitySql.Proofs.Statement.Command
import EntitySql.Statement.Write

/-!
# Rendering without a database

Rendering takes no answer from a database, so it never fails with what a database reports
(`Failure.source?`).  Such an outcome is *offline*.  Steps one after another are offline if each of
them is, so each part of a statement is offline by its own parts; a query is by induction on its
levels (`query_offline`).
-/

namespace EntitySql

/-- An outcome that is no failure of a database. -/
def Outcome.Offline {α : Type} (x : Outcome α) : Prop := ∀ f, x = .error f → f.source? = none

namespace Outcome.Offline

variable {α β : Type} {x : Outcome α}

theorem ok (a : α) : Offline (.ok a) := fun _ h => by cases h

theorem error {f : Failure} (h : f.source? = none) : Offline (.error f : Outcome α) := by
  intro g hg
  cases hg
  exact h

theorem bind {f : α → Outcome β} (h : Offline x) (hf : ∀ a, Offline (f a)) :
    Offline (x >>= f) := by
  cases x with
  | ok a => exact hf a
  | error e => exact error (h e rfl)

theorem map {f : α → β} (h : Offline x) : Offline (x.map f) := by
  cases x with
  | ok a => exact ok (f a)
  | error e => exact error (h e rfl)

theorem mapM {f : α → Outcome β} {xs : List α} (h : ∀ x ∈ xs, Offline (f x)) :
    Offline (xs.mapM f) := by
  induction xs with
  | nil => exact ok []
  | cons x xs ih =>
    rw [List.mapM_cons]
    exact (h x List.mem_cons_self).bind fun y =>
      (ih fun x' hx' => h x' (List.mem_cons_of_mem x hx')).bind fun ys => ok (y :: ys)

end Outcome.Offline

namespace Renderer

open Outcome (Offline)

variable {r : Renderer}

/-! ### Names -/

theorem schema_offline (key : EntityKey) : Offline (r.schema key) := by
  unfold schema
  split
  · exact .ok _
  · exact .error rfl

theorem table_offline (key : EntityKey) : Offline (r.table key) := (schema_offline key).map

theorem resolve_offline (f : Field) : Offline (r.resolve f) := by
  unfold resolve
  split
  · exact .ok _
  · exact .error rfl

theorem column_offline (c : ColumnRef) : Offline (r.column c) := by
  cases c with
  | field qualifier f =>
    refine (resolve_offline f).bind fun resolved => ?_
    cases qualifier <;> exact .ok _
  | aliased name => exact .ok name
  | expr sql => exact .ok sql

theorem columnFragment_offline (c : ColumnRef) : Offline (r.columnFragment c) :=
  (column_offline c).map

theorem columnPair_offline (p : ColumnRef × ColumnRef) : Offline (r.columnPair p) :=
  (column_offline p.1).bind fun _ => (column_offline p.2).bind fun _ => .ok _

theorem tableText_offline (key : EntityKey) (aliasName : Option String) :
    Offline (r.tableText key aliasName) := (table_offline key).map

theorem join_offline (j : Join) : Offline (r.join j) := by
  unfold join
  cases j.on with
  | nil => exact .error rfl
  | cons pair pairs =>
    exact (tableText_offline j.table j.aliasName).bind fun _ =>
      (Offline.mapM fun p _ => columnPair_offline p).bind fun _ => .ok _

theorem joins_offline (js : List Join) : Offline (r.joins js) :=
  (Offline.mapM fun j _ => join_offline j).map

theorem groupClause_offline (columns : List ColumnRef) : Offline (r.groupClause columns) :=
  (Offline.mapM fun c _ => column_offline c).map

theorem orderClause_offline (items : List OrderItem) : Offline (r.orderClause items) :=
  (Offline.mapM fun o _ => (column_offline o.target).map).map

/-! ### Conditions -/

variable {lhs : Fragment} {op : Operator} {operand : Operand Rendered}

/-- A condition is refused, or takes its names and its sub-query as they are rendered. -/
theorem condition_offline (h : ∀ q ∈ operand.subs, Offline q) :
    Offline (r.condition lhs op operand) := by
  -- each operand fits the operators of its own classes, and is refused by all others
  cases operand with
  | absent => cases op <;> first | exact .ok _ | exact .error rfl
  | value v =>
    cases op with
    | raw => cases v <;> first | exact .ok _ | exact .error rfl
    | _ => first | exact .ok _ | exact .error rfl
  | list vs =>
    cases op with
    | «in» | notIn | like | notLike => cases vs <;> first | exact .ok _ | exact .error rfl
    | between | notBetween =>
      match vs with
      | [_, _] => exact .ok _
      | [] | [_] | _ :: _ :: _ :: _ => exact .error rfl
    | _ => exact .error rfl
  | sub q =>
    have hq : Offline q := h q (List.mem_singleton.2 rfl)
    cases op with
    | raw | isNull | isNotNull => exact .error rfl
    | _ => exact hq.map
  | column c =>
    cases op with
    | eq | ne | gt | ge | lt | le | rawEq => exact (columnFragment_offline c).map
    | _ => exact .error rfl
  | raw sql =>
    cases op with
    | raw => exact .ok _
    | _ => exact .error rfl

variable {select : List (SelectItem Rendered)}

theorem item_offline {i : SelectItem Rendered} (h : ∀ q ∈ i.subs, Offline q) :
    Offline (r.item i) := by
  obtain ⟨expr, aggregate, aliasName⟩ := i
  cases expr with
  | column c => exact (columnFragment_offline c).map
  | sub q => exact (h q (List.mem_singleton.2 rfl)).map.map

theorem target_offline (hselect : ∀ i ∈ select, ∀ q ∈ i.subs, Offline q) (sec : Section)
    (t : ColumnRef) : Offline (r.target select sec t) := by
  unfold target
  split
  · -- an alias in `HAVING`, which may stand for an item that has a sub-query
    split
    · exact .ok _
    · split
      next i hi => exact item_offline (hselect i (List.mem_of_find?_eq_some hi))
      next => exact .ok _
  · exact columnFragment_offline _

theorem conjunction_offline (hselect : ∀ i ∈ select, ∀ q ∈ i.subs, Offline q) (keyword : String)
    (sec : Section) {ps : List (Predicate Rendered)}
    (hps : ∀ p ∈ ps, ∀ q ∈ p.operand.subs, Offline q) :
    Offline (r.conjunction keyword select sec ps) := by
  have hpredicate : ∀ p ∈ ps, Offline (r.predicate select sec p) := fun p hp =>
    (target_offline hselect sec p.target).bind fun _ => condition_offline (hps p hp)
  refine (Offline.mapM hpredicate).bind fun conditions => ?_
  split <;> exact .ok _

/-! ### Queries -/

theorem selectList_offline (hselect : ∀ i ∈ select, ∀ q ∈ i.subs, Offline q) :
    Offline (r.selectList select) := by
  refine (Offline.mapM fun i hi => (item_offline (hselect i hi)).map).bind fun fragments => ?_
  split <;> exact .ok _

theorem level_offline {c : Clauses Rendered} (h : ∀ q ∈ c.subs, Offline q) :
    Offline (r.level c) := by
  have hselect : ∀ i ∈ c.select, ∀ q ∈ i.subs, Offline q := fun i hi q hq =>
    h q (Clauses.mem_subs_of_select hi hq)
  have hwheres : ∀ p ∈ c.wheres, ∀ q ∈ p.operand.subs, Offline q := fun p hp q hq =>
    h q (Clauses.mem_subs_of_wheres hp hq)
  have hhavings : ∀ p ∈ c.havings, ∀ q ∈ p.operand.subs, Offline q := fun p hp q hq =>
    h q (Clauses.mem_subs_of_havings hp hq)
  have hsource : Offline (r.source c) :=
    (tableText_offline c.table c.aliasName).bind fun _ => (joins_offline c.joins).bind fun _ =>
      (conjunction_offline hselect " WHERE " .where hwheres).bind fun _ =>
      (groupClause_offline c.groupBy).bind fun _ =>
      (conjunction_offline hselect " HAVING " .having hhavings).bind fun _ => .ok _
  -- raw SQL is sent as it is, and anything else clause by clause
  unfold level
  split
  · exact .ok _
  · exact (selectList_offline hselect).bind fun _ => hsource.bind fun _ =>
      (orderClause_offline c.orderBy).bind fun _ => .ok _

theorem query_offline (q : Query) : Offline (r.query q) := by
  induction q using Query.induct with
  | level c ih =>
    rw [query_of]
    refine level_offline fun s hs => ?_
    rw [Clauses.subs_map] at hs
    obtain ⟨q, hq, rfl⟩ := List.mem_map.1 hs
    exact ih q hq

theorem select_offline (q : Query) : Offline (r.select q) := by
  unfold Renderer.select
  split
  · exact .ok _
  · exact (query_offline q).map

/-! ### Writes -/

theorem whereClause_offline (q : Query) : Offline (r.whereClause (r.opened q)) := by
  have hsubs : ∀ s ∈ (r.opened q).subs, Offline s := by
    intro s hs
    rw [opened, Clauses.subs_map] at hs
    obtain ⟨p, -, rfl⟩ := List.mem_map.1 hs
    exact query_offline p
  exact conjunction_offline (fun i hi s hs => hsubs s (Clauses.mem_subs_of_select hi hs))
    " WHERE " .where fun p hp s hs => hsubs s (Clauses.mem_subs_of_wheres hp hs)

theorem assignment_offline (a : Assignment) : Offline (r.assignment a) := by
  cases a <;> exact (resolve_offline _).map

theorem update_offline (q : Query) (changes : List Assignment) : Offline (r.update q changes) := by
  refine Offline.map ?_
  cases changes with
  | nil => exact .error rfl
  | cons change changes =>
    exact (table_offline q.clauses.table).bind fun _ =>
      (Offline.mapM fun a _ => assignment_offline a).bind fun _ =>
      (whereClause_offline q).bind fun _ => .ok _

theorem delete_offline (q : Query) : Offline (r.delete q) := by
  refine Offline.map ?_
  exact (table_offline q.clauses.table).bind fun _ => (whereClause_offline q).bind fun _ => .ok _

theorem identifierClause_offline (s : Schema) : Offline (r.identifierClause s) := by
  unfold identifierClause
  split
  · exact .ok _
  · split
    · exact (resolve_offline _).map
    · exact .ok _
  · exact .ok _

theorem insert_offline (key : EntityKey) (rows : List InsertRow) (returningId : Bool) :
    Offline (r.insert key rows returningId) := by
  refine Offline.map ?_
  cases rows with
  | nil => exact .error rfl
  | cons row rows =>
    rw [insertFragment_of_ne_nil r key (List.cons_ne_nil row rows)]
    refine (schema_offline key).bind fun s => ?_
    split
    · exact .error rfl
    · refine (Offline.mapM fun f _ => (resolve_offline ⟨key, f⟩).map).bind fun _ =>
        (table_offline key).bind fun _ => Offline.bind ?_ fun _ => .ok _
      split
      · exact identifierClause_offline s
      · exact .ok _

end Renderer

end EntitySql
