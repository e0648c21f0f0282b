import EntitySql.Proofs.Statement.Command
import EntitySql.Query.Step

/-!
# Chains of steps

A level has twelve clauses that steps write, and a step writes one of them, or two if it is a page
(`Step.clauses`).  What stands in a clause afterwards is what stood there with the step's own part
added (`Clauses.get_apply`): lists grow at their end, flags stay set, and anything else is replaced.

So each clause of a query that is built is a fold over the steps that write it, in their order, and
the steps that write other clauses do not matter (`Query.get_build_filter`).  Two chains that agree
clause by clause build the same query (`Query.build_clausewise`).  The steps with a name of their own
write one clause each (`Query.build_named`).
-/

namespace EntitySql

/-! ### Clauses -/

/-- The clauses of a level that steps write. -/
inductive Clause where
  | aliasName | distinct | select | joins | wheres | groupBy | havings | orderBy
  | limit | offset | lock | raw
deriving DecidableEq, Repr

namespace Clause

/-- What stands in a clause. -/
@[reducible] def Content : Clause → Type
  | .aliasName => Option String
  | .distinct | .lock => Bool
  | .select => List (SelectItem Query)
  | .joins => List Join
  | .wheres | .havings => List (Predicate Query)
  | .groupBy => List ColumnRef
  | .orderBy => List OrderItem
  | .limit | .offset => Option UInt64
  | .raw => Option RawSql

/-- The content of a clause that nothing was written to. -/
def unwritten : (k : Clause) → k.Content
  | .aliasName | .limit | .offset | .raw => none
  | .distinct | .lock => false
  | .select | .joins | .wheres | .groupBy | .havings | .orderBy => []

/-- The content of a clause with more written to it: the last one counts, flags stay set, and lists
grow. -/
def add : (k : Clause) → (old new : k.Content) → k.Content
  | .aliasName, old, new | .limit, old, new | .offset, old, new | .raw, old, new => new.or old
  | .distinct, old, new | .lock, old, new => old || new
  | .select, old, new | .joins, old, new | .wheres, old, new | .groupBy, old, new
  | .havings, old, new | .orderBy, old, new => old ++ new

theorem add_unwritten (k : Clause) (old : k.Content) : k.add old k.unwritten = old := by
  cases k with
  | aliasName | limit | offset | raw => exact Option.none_or
  | distinct | lock => exact Bool.or_false old
  | select | joins | wheres | groupBy | havings | orderBy => exact List.append_nil old

end Clause

namespace Clauses

/-- What stands in a clause of a level. -/
def get (c : Clauses Query) : (k : Clause) → k.Content
  | .aliasName => c.aliasName
  | .distinct => c.distinct
  | .select => c.select
  | .joins => c.joins
  | .wheres => c.wheres
  | .groupBy => c.groupBy
  | .havings => c.havings
  | .orderBy => c.orderBy
  | .limit => c.limit
  | .offset => c.offset
  | .lock => c.lock
  | .raw => c.raw

/-- A level is its table and its clauses. -/
theorem ext_get {c d : Clauses Query} (htable : c.table = d.table) (h : ∀ k, c.get k = d.get k) :
    c = d := by
  obtain ⟨table, aliasName, distinct, select, joins, wheres, groupBy, havings, orderBy, limit,
    offset, lock, raw⟩ := c
  obtain rfl : table = d.table := htable
  obtain rfl : aliasName = d.aliasName := h .aliasName
  obtain rfl : distinct = d.distinct := h .distinct
  obtain rfl : select = d.select := h .select
  obtain rfl : joins = d.joins := h .joins
  obtain rfl : wheres = d.wheres := h .wheres
  obtain rfl : groupBy = d.groupBy := h .groupBy
  obtain rfl : havings = d.havings := h .havings
  obtain rfl : orderBy = d.orderBy := h .orderBy
  obtain rfl : limit = d.limit := h .limit
  obtain rfl : offset = d.offset := h .offset
  obtain rfl : lock = d.lock := h .lock
  obtain rfl : raw = d.raw := h .raw
  rfl

end Clauses

/-! ### Steps -/

namespace Step

/-- The clauses that a step writes. -/
def clauses : Step → List Clause
  | .aliasTable _ => [.aliasName]
  | .distinct => [.distinct]
  | .select _ => [.select]
  | .join _ => [.joins]
  | .where _ => [.wheres]
  | .groupBy _ => [.groupBy]
  | .having _ => [.havings]
  | .orderBy _ => [.orderBy]
  | .limit _ => [.limit]
  | .offset _ => [.offset]
  | .page _ _ => [.limit, .offset]
  | .lock => [.lock]
  | .raw _ => [.raw]

/-- Whether a step writes a clause. -/
def writes (s : Step) (k : Clause) : Bool := s.clauses.contains k

/-- What a step writes to a clause. -/
def written : Step → (k : Clause) → k.Content
  | .aliasTable name, .aliasName => some name
  | .distinct, .distinct => true
  | .select items, .select => items
  | .join j, .joins => [j]
  | .where p, .wheres => [p]
  | .groupBy columns, .groupBy => columns
  | .having p, .havings => [p]
  | .orderBy item, .orderBy => [item]
  | .limit n, .limit => some n
  | .offset n, .offset => some n
  | .page _ size, .limit => some size
  | .page number size, .offset => some (pageOffset number size)
  | .lock, .lock => true
  | .raw r, .raw => some r
  | _, k => k.unwritten

theorem written_of_not_writes {s : Step} {k : Clause} (h : s.writes k = false) :
    s.written k = k.unwritten := by
  cases s <;> cases k <;> first | rfl | cases h

end Step

/-- A step adds what it writes to each clause. -/
theorem Clauses.get_apply (c : Clauses Query) (s : Step) (k : Clause) :
    (c.apply s).get k = k.add (c.get k) (s.written k) := by
  cases hs : s.writes k with
  | true => cases s <;> cases k <;> first | rfl | exact (Bool.or_true _).symm | cases hs
  | false =>
    rw [Step.written_of_not_writes hs, Clause.add_unwritten]
    cases s <;> cases k <;> first | rfl | cases hs

/-! ### Chains -/

/-- Of the entries that have something, the last one counts. -/
theorem foldl_or_eq_getLast? {α β : Type} (f : α → Option β) (xs : List α) (old : Option β) :
    xs.foldl (fun old x => (f x).or old) old = (xs.filterMap f).getLast?.or old := by
  induction xs generalizing old with
  | nil => rfl
  | cons x xs ih =>
    rw [List.foldl_cons, ih]
    -- an entry that has something stands in for the old one, unless a later one does
    cases hx : f x with
    | none => rw [Option.none_or, List.filterMap_cons_none hx]
    | some y =>
      rw [List.filterMap_cons_some hx, List.getLast?_cons, Option.some_or, Option.some_or]
      cases (xs.filterMap f).getLast? <;> rfl

theorem foldl_or_eq_any {α : Type} (f : α → Bool) (xs : List α) (old : Bool) :
    xs.foldl (fun old x => old || f x) old = (old || xs.any f) := by
  induction xs generalizing old with
  | nil => exact (Bool.or_false old).symm
  | cons x xs ih => rw [List.foldl_cons, ih, List.any_cons, Bool.or_assoc]

namespace Query

/-- A query is its outermost level. -/
theorem ext_clauses {p q : Query} (h : p.clauses = q.clauses) : p = q := by
  obtain ⟨c⟩ := p
  obtain ⟨d⟩ := q
  exact congrArg Query.of h

/-- What stands in a clause of a query that is built: every step has added what it writes. -/
theorem get_build (q : Query) (chain : List Step) (k : Clause) :
    (q.build chain).clauses.get k =
      chain.foldl (fun content s => k.add content (s.written k)) (q.clauses.get k) := by
  induction chain generalizing q with
  | nil => rfl
  | cons s chain ih => rw [build_cons, ih, List.foldl_cons, apply, clauses, Clauses.get_apply]

/-- The steps that write other clauses do not matter for a clause. -/
theorem get_build_filter (q : Query) (chain : List Step) (k : Clause) :
    (q.build (chain.filter (·.writes k))).clauses.get k = (q.build chain).clauses.get k := by
  rw [get_build, get_build, List.foldl_filter]
  congr 1
  funext content s
  cases hs : s.writes k with
  | true => rfl
  | false => rw [Step.written_of_not_writes hs, Clause.add_unwritten]; rfl

/-- A clause that no step writes stays as it is. -/
theorem get_build_of_not_writes (q : Query) {chain : List Step} {k : Clause}
    (h : ∀ s ∈ chain, s.writes k = false) : (q.build chain).clauses.get k = q.clauses.get k := by
  have hnone : chain.filter (·.writes k) = [] :=
    List.filter_eq_nil_iff.2 fun s hs => Bool.eq_false_iff.1 (h s hs)
  rw [← get_build_filter, hnone, build_nil]

theorem table_apply (q : Query) (s : Step) : (q.apply s).clauses.table = q.clauses.table := by
  cases s <;> rfl

theorem table_build (q : Query) (chain : List Step) :
    (q.build chain).clauses.table = q.clauses.table := by
  induction chain generalizing q with
  | nil => rfl
  | cons s chain ih => rw [build_cons, ih, table_apply]

end Query

/-! ### Steps with a name of their own -/

/-- A step that is written by a name of its own, with the one clause that it writes and what it adds
there. -/
inductive Step.Named : Step → (k : Clause) → k.Content → Prop where
  | selectColumns (columns : List ColumnRef) :
      Named (selectColumns columns) .select (columns.map fun c => { expr := .column c })
  | selectAs (column : ColumnRef) (aliasName : String) :
      Named (selectAs column aliasName) .select [{ expr := .column column, aliasName }]
  | selectAggregate (aggregate : Aggregate) (column : ColumnRef) (aliasName : String) :
      Named (selectAggregate aggregate column aliasName) .select
        [{ expr := .column column, aggregate, aliasName }]
  | selectSub (q : Query) (aliasName : String) :
      Named (selectSub q aliasName) .select [{ expr := .sub q, aliasName }]
  | whereOp (target : ColumnRef) (op : Operator) (operand : Operand Query) :
      Named (whereOp target op operand) .wheres [⟨target, op, operand⟩]
  | whereValue (target : ColumnRef) (op : Operator) (v : Value) :
      Named (whereValue target op v) .wheres [⟨target, op, .value v⟩]
  | whereList (target : ColumnRef) (op : Operator) (vs : List Value) :
      Named (whereList target op vs) .wheres [⟨target, op, .list vs⟩]
  | whereRaw (target : ColumnRef) (sql : String) :
      Named (whereRaw target sql) .wheres [⟨target, .raw, .raw sql⟩]
  | whereColumn (left right : ColumnRef) :
      Named (whereColumn left right) .wheres [⟨left, .rawEq, .column right⟩]
  | whereNull (target : ColumnRef) (isNull : Bool) :
      Named (whereNull target isNull) .wheres
        [⟨target, if isNull then .isNull else .isNotNull, .absent⟩]
  | whereSub (target : ColumnRef) (op : Operator) (q : Query) :
      Named (whereSub target op q) .wheres [⟨target, op, .sub q⟩]
  | joinOn (kind : JoinKind) (table : EntityKey) (aliasName : Option String)
      (left right : ColumnRef) :
      Named (joinOn kind table aliasName left right) .joins
        [{ kind, table, aliasName, on := [(left, right)] }]

namespace Step.Named

variable {s : Step} {k : Clause} {content : k.Content} (h : s.Named k content)
include h

theorem clauses_eq : s.clauses = [k] := by
  cases h <;> rfl

theorem written_eq : s.written k = content := by
  cases h <;> rfl

theorem writes_of_ne {j : Clause} (hj : j ≠ k) : s.writes j = false := by
  rw [Step.writes, h.clauses_eq, List.contains_eq_mem, decide_eq_false_iff_not]
  exact fun hmem => hj (List.mem_singleton.1 hmem)

end Step.Named

namespace Query

/-- A named step adds its part to one clause and leaves the others alone, and it does not matter
which steps of other clauses come before it. -/
theorem build_named {s : Step} {k : Clause} {content : k.Content} (h : s.Named k content)
    (q : Query) {before : List Step} (hbefore : ∀ t ∈ before, t.writes k = false)
    (after : List Step) :
    q.build (before ++ s :: after) = (q.apply s).build (before ++ after) ∧
      (q.apply s).clauses.get k = k.add (q.clauses.get k) content ∧
      ∀ j, j ≠ k → (q.apply s).clauses.get j = q.clauses.get j := by
  have hsteps : ∀ j, (before ++ s :: after).filter (·.writes j) =
      (s :: (before ++ after)).filter (·.writes j) := by
    intro j
    rw [List.filter_append, List.filter_cons, List.filter_cons, List.filter_append]
    by_cases hj : j = k
    · -- of the steps of this clause it is the first one
      subst hj
      have hnone : before.filter (·.writes j) = [] :=
        List.filter_eq_nil_iff.2 fun t ht => Bool.eq_false_iff.1 (hbefore t ht)
      rw [hnone, List.nil_append, List.nil_append]
    · have hother : ¬ s.writes j = true := Bool.eq_false_iff.1 (h.writes_of_ne hj)
      rw [if_neg hother, if_neg hother]
  refine ⟨ext_clauses (Clauses.ext_get ?_ fun j => ?_), ?_, fun j hj => ?_⟩
  · rw [table_build, table_build, table_apply]
  · -- both chains have the same steps of each clause, in the same order
    rw [← build_cons, ← get_build_filter, hsteps j, get_build_filter]
  · rw [apply, clauses, Clauses.get_apply, h.written_eq]
  · rw [apply, clauses, Clauses.get_apply, Step.written_of_not_writes (h.writes_of_ne hj),
      Clause.add_unwritten]

/-! ### The clauses of a query that is built -/

/-- The clauses that a chain makes of a query: lists have what the steps add to them behind what was
there, in the order of the steps; flags are set if a step sets them; and of anything else the last
one that a step gives is there. -/
structure Accumulated (q : Query) (chain : List Step) (c : Clauses Query) : Prop where
  table : c.table = q.clauses.table
  select : c.select = q.clauses.select ++ chain.flatMap (·.written .select)
  joins : c.joins = q.clauses.joins ++ chain.flatMap (·.written .joins)
  wheres : c.wheres = q.clauses.wheres ++ chain.flatMap (·.written .wheres)
  groupBy : c.groupBy = q.clauses.groupBy ++ chain.flatMap (·.written .groupBy)
  havings : c.havings = q.clauses.havings ++ chain.flatMap (·.written .havings)
  orderBy : c.orderBy = q.clauses.orderBy ++ chain.flatMap (·.written .orderBy)
  distinct : c.distinct = (q.clauses.distinct || chain.any (·.written .distinct))
  lock : c.lock = (q.clauses.lock || chain.any (·.written .lock))
  aliasName : c.aliasName =
    (chain.filterMap (·.written .aliasName)).getLast?.or q.clauses.aliasName
  limit : c.limit = (chain.filterMap (·.written .limit)).getLast?.or q.clauses.limit
  offset : c.offset = (chain.filterMap (·.written .offset)).getLast?.or q.clauses.offset
  raw : c.raw = (chain.filterMap (·.written .raw)).getLast?.or q.clauses.raw

theorem accumulated_build (q : Query) (chain : List Step) :
    q.Accumulated chain (q.build chain).clauses := by
  have hget := q.get_build chain
  exact {
    table := q.table_build chain
    select := (hget .select).trans List.foldl_append_eq_append
    joins := (hget .joins).trans List.foldl_append_eq_append
    wheres := (hget .wheres).trans List.foldl_append_eq_append
    groupBy := (hget .groupBy).trans List.foldl_append_eq_append
    havings := (hget .havings).trans List.foldl_append_eq_append
    orderBy := (hget .orderBy).trans List.foldl_append_eq_append
    distinct := (hget .distinct).trans (foldl_or_eq_any _ chain _)
    lock := (hget .lock).trans (foldl_or_eq_any _ chain _)
    aliasName := (hget .aliasName).trans (foldl_or_eq_getLast? _ chain _)
    limit := (hget .limit).trans (foldl_or_eq_getLast? _ chain _)
    offset := (hget .offset).trans (foldl_or_eq_getLast? _ chain _)
    raw := (hget .raw).trans (foldl_or_eq_getLast? _ chain _) }

/-- Each clause of a query that is built has what the steps of the chain write to it, in their
order.  So it does not matter how the steps of different clauses are mixed: two chains with the same
steps for each clause, of which a page is one for the limit and for the offset, build the same
query, and the same statements come of it. -/
theorem build_clausewise (q : Query) (chain : List Step) :
    q.Accumulated chain (q.build chain).clauses ∧
      ∀ other : List Step, (∀ k, chain.filter (·.writes k) = other.filter (·.writes k)) →
        q.build chain = q.build other ∧ ∀ r : Renderer,
          r.select (q.build chain) = r.select (q.build other) ∧
          (∀ changes, r.update (q.build chain) changes = r.update (q.build other) changes) ∧
          r.delete (q.build chain) = r.delete (q.build other) := by
  refine ⟨accumulated_build q chain, fun other h => ?_⟩
  have hclauses : (q.build chain).clauses = (q.build other).clauses := by
    refine Clauses.ext_get ?_ fun k => ?_
    · rw [table_build, table_build]
    · rw [← get_build_filter, h k, get_build_filter]
  have hbuild : q.build chain = q.build other := ext_clauses hclauses
  rw [hbuild]
  exact ⟨rfl, fun r => ⟨rfl, fun changes => rfl, rfl⟩⟩

/-! #### A page of amounts -/

/-- The steps of a query over amounts, with those of each clause among those of the others. -/
def mixedSteps : List Step :=
  [.whereValue amount .gt (.int 1), .limit 4, .orderBy ⟨amount, .asc⟩, .page 3 10,
    .whereValue amount .lt (.int 9), .offset 5]

/-- The same steps, clause by clause. -/
def sortedSteps : List Step :=
  [.orderBy ⟨amount, .asc⟩, .limit 4, .page 3 10, .offset 5, .whereValue amount .gt (.int 1),
    .whereValue amount .lt (.int 9)]

/-- The page has the last word on the limit and not on the offset, and the conditions are in
order. -/
theorem build_clausewise_amounts :
    (∀ k, mixedSteps.filter (·.writes k) = sortedSteps.filter (·.writes k)) ∧
      (ofTable "Order").build mixedSteps = (ofTable "Order").build sortedSteps ∧
      ((ofTable "Order").build mixedSteps).clauses.limit = some 10 ∧
      ((ofTable "Order").build mixedSteps).clauses.offset = some 5 ∧
      ((ofTable "Order").build mixedSteps).clauses.wheres =
        [⟨amount, .gt, .value (.int 1)⟩, ⟨amount, .lt, .value (.int 9)⟩] := by
  have hsteps : ∀ k, mixedSteps.filter (·.writes k) = sortedSteps.filter (·.writes k) := by
    intro k
    cases k <;> rfl
  obtain ⟨haccumulated, hmixed⟩ := build_clausewise (ofTable "Order") mixedSteps
  obtain ⟨hsame, -⟩ := hmixed sortedSteps hsteps
  exact ⟨hsteps, hsame, haccumulated.limit, haccumulated.offset, haccumulated.wheres⟩

end Query

end EntitySql
