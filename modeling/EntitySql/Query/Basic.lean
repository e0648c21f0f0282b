import EntitySql.Schema.Basic
import EntitySql.Value.Basic

/-!
# Queries

A query is described clause by clause.  `Clauses S` holds the clauses of one `SELECT` whose
sub-queries are of type `S`; a `Query` is a `Clauses Query`, nested to any depth (`Query.of`).

Everything that is computed from a query level by level is a `Query.fold`: a function from one
level, whose sub-queries are already computed, to the result.  `Query.fold_of` is its equation, and
`Query.induct` the induction that goes with it: what holds of a level when it holds of the
sub-queries on it holds of every query.
-/

namespace EntitySql

/-! ### Parts of a clause -/

/-- What stands on the left of a predicate, or is selected, grouped or ordered by. -/
inductive ColumnRef where
  /-- A field, with the alias of its table before it if there is one. -/
  | field (qualifier : Option String) (field : Field)
  /-- The alias of a selected item. -/
  | aliased (name : String)
  /-- SQL as it stands. -/
  | expr (sql : String)
deriving DecidableEq, Repr, Inhabited

/-- The comparison of a predicate. -/
inductive Operator where
  | eq | ne | gt | ge | lt | le
  | in | notIn | like | notLike | between | notBetween
  /-- The target followed by SQL as it stands. -/
  | raw
  /-- Equality of two columns. -/
  | rawEq
  | isNull | isNotNull
deriving DecidableEq, Repr, Inhabited

/-- The operator in SQL; nothing for `raw`. -/
def Operator.sql : Operator → String
  | .eq | .rawEq => "="
  | .ne => "!="
  | .gt => ">"
  | .ge => ">="
  | .lt => "<"
  | .le => "<="
  | .in => "IN"
  | .notIn => "NOT IN"
  | .like => "LIKE"
  | .notLike => "NOT LIKE"
  | .between => "BETWEEN"
  | .notBetween => "NOT BETWEEN"
  | .raw => ""
  | .isNull => "IS NULL"
  | .isNotNull => "IS NOT NULL"

/-- What a predicate compares its target with. -/
inductive Operand (S : Type) where
  | absent
  | value (v : Value)
  | list (vs : List Value)
  | sub (q : S)
  | column (c : ColumnRef)
  | raw (sql : String)
deriving DecidableEq, Repr, Inhabited

/-- One condition of `WHERE` or `HAVING`. -/
structure Predicate (S : Type) where
  target : ColumnRef
  op : Operator
  operand : Operand S
deriving DecidableEq, Repr, Inhabited

/-- A function over the selected rows. -/
inductive Aggregate where
  | count | sum | avg | min | max
deriving DecidableEq, Repr, Inhabited

/-- The function's name in SQL. -/
def Aggregate.sql : Aggregate → String
  | .count => "COUNT"
  | .sum => "SUM"
  | .avg => "AVG"
  | .min => "MIN"
  | .max => "MAX"

/-- What is selected. -/
inductive SelectExpr (S : Type) where
  | column (c : ColumnRef)
  | sub (q : S)
deriving DecidableEq, Repr, Inhabited

/-- An item of the select list. -/
structure SelectItem (S : Type) where
  expr : SelectExpr S
  aggregate : Option Aggregate := none
  aliasName : Option String := none
deriving DecidableEq, Repr, Inhabited

/-- Which unmatched rows a join keeps. -/
inductive JoinKind where
  | inner | left | right
deriving DecidableEq, Repr, Inhabited

/-- The join in SQL. -/
def JoinKind.sql : JoinKind → String
  | .inner => "INNER JOIN"
  | .left => "LEFT JOIN"
  | .right => "RIGHT JOIN"

/-- A joined table with the pairs of columns that have to be equal. -/
structure Join where
  kind : JoinKind
  table : EntityKey
  aliasName : Option String := none
  on : List (ColumnRef × ColumnRef) := []
deriving DecidableEq, Repr, Inhabited

/-- The direction of an order. -/
inductive Direction where
  | asc | desc
deriving DecidableEq, Repr, Inhabited

/-- The direction in SQL. -/
def Direction.sql : Direction → String
  | .asc => "ASC"
  | .desc => "DESC"

/-- A column to order by. -/
structure OrderItem where
  target : ColumnRef
  direction : Direction
deriving DecidableEq, Repr, Inhabited

/-- Hand-written SQL with its parameters, which takes the place of all clauses. -/
structure RawSql where
  sql : String
  params : List Value := []
deriving DecidableEq, Repr, Inhabited

/-! ### One level -/

/-- The clauses of one `SELECT` with sub-queries of type `S`. -/
structure Clauses (S : Type) where
  table : EntityKey
  aliasName : Option String := none
  distinct : Bool := false
  select : List (SelectItem S) := []
  joins : List Join := []
  wheres : List (Predicate S) := []
  groupBy : List ColumnRef := []
  havings : List (Predicate S) := []
  orderBy : List OrderItem := []
  limit : Option UInt64 := none
  offset : Option UInt64 := none
  lock : Bool := false
  raw : Option RawSql := none
deriving DecidableEq, Repr, Inhabited

variable {S T U : Type}

/-- The operand with another sub-query in the place of the one it has. -/
def Operand.map (f : S → T) : Operand S → Operand T
  | .absent => .absent
  | .value v => .value v
  | .list vs => .list vs
  | .sub q => .sub (f q)
  | .column c => .column c
  | .raw sql => .raw sql

/-- The predicate with its sub-query replaced. -/
def Predicate.map (f : S → T) (p : Predicate S) : Predicate T :=
  ⟨p.target, p.op, p.operand.map f⟩

/-- The expression with its sub-query replaced. -/
def SelectExpr.map (f : S → T) : SelectExpr S → SelectExpr T
  | .column c => .column c
  | .sub q => .sub (f q)

/-- The item with its sub-query replaced. -/
def SelectItem.map (f : S → T) (i : SelectItem S) : SelectItem T :=
  ⟨i.expr.map f, i.aggregate, i.aliasName⟩

/-- The level with every sub-query replaced. -/
def Clauses.map (f : S → T) (c : Clauses S) : Clauses T where
  table := c.table
  aliasName := c.aliasName
  distinct := c.distinct
  select := c.select.map (SelectItem.map f)
  joins := c.joins
  wheres := c.wheres.map (Predicate.map f)
  groupBy := c.groupBy
  havings := c.havings.map (Predicate.map f)
  orderBy := c.orderBy
  limit := c.limit
  offset := c.offset
  lock := c.lock
  raw := c.raw

/-! ### Nested levels -/

/-- A query: one level of clauses whose sub-queries are queries. -/
inductive Query where
  | of (clauses : Clauses Query)

namespace Query

/-- The outermost level. -/
def clauses : Query → Clauses Query
  | .of c => c

/-- The query over all rows of a table. -/
def ofTable (table : EntityKey) : Query := .of { table }

instance : Inhabited Query := ⟨ofTable ""⟩

mutual

/-- The result of a query, computed level by level from the innermost ones. -/
def fold (level : Clauses S → S) : Query → S
  | .of c => level (foldClauses level c)

/-- The level with the results of its sub-queries. -/
def foldClauses (level : Clauses S → S) : Clauses Query → Clauses S
  | ⟨table, aliasName, distinct, select, joins, wheres, groupBy, havings, orderBy, limit, offset,
      lock, raw⟩ =>
    ⟨table, aliasName, distinct, foldItems level select, joins, foldPredicates level wheres,
      groupBy, foldPredicates level havings, orderBy, limit, offset, lock, raw⟩

/-- The select list with the results of its sub-queries. -/
def foldItems (level : Clauses S → S) : List (SelectItem Query) → List (SelectItem S)
  | [] => []
  | i :: rest => foldItem level i :: foldItems level rest

/-- A selected item with the result of its sub-query. -/
def foldItem (level : Clauses S → S) : SelectItem Query → SelectItem S
  | ⟨expr, aggregate, aliasName⟩ => ⟨foldExpr level expr, aggregate, aliasName⟩

/-- A selected expression with the result of its sub-query. -/
def foldExpr (level : Clauses S → S) : SelectExpr Query → SelectExpr S
  | .column c => .column c
  | .sub q => .sub (fold level q)

/-- Predicates with the results of their sub-queries. -/
def foldPredicates (level : Clauses S → S) : List (Predicate Query) → List (Predicate S)
  | [] => []
  | p :: rest => foldPredicate level p :: foldPredicates level rest

/-- A predicate with the result of its sub-query. -/
def foldPredicate (level : Clauses S → S) : Predicate Query → Predicate S
  | ⟨target, op, operand⟩ => ⟨target, op, foldOperand level operand⟩

/-- An operand with the result of its sub-query. -/
def foldOperand (level : Clauses S → S) : Operand Query → Operand S
  | .absent => .absent
  | .value v => .value v
  | .list vs => .list vs
  | .sub q => .sub (fold level q)
  | .column c => .column c
  | .raw sql => .raw sql

end

theorem foldItems_eq_map (level : Clauses S → S) (is : List (SelectItem Query)) :
    foldItems level is = is.map (SelectItem.map (fold level)) := by
  induction is with
  | nil => rfl
  | cons i rest ih =>
    obtain ⟨expr, aggregate, aliasName⟩ := i
    cases expr <;> simp [foldItems, foldItem, foldExpr, SelectItem.map, SelectExpr.map, ih]

theorem foldPredicates_eq_map (level : Clauses S → S) (ps : List (Predicate Query)) :
    foldPredicates level ps = ps.map (Predicate.map (fold level)) := by
  induction ps with
  | nil => rfl
  | cons p rest ih =>
    obtain ⟨target, op, operand⟩ := p
    cases operand <;>
      simp [foldPredicates, foldPredicate, foldOperand, Predicate.map, Operand.map, ih]

theorem foldClauses_eq_map (level : Clauses S → S) (c : Clauses Query) :
    foldClauses level c = c.map (fold level) := by
  cases c
  simp [foldClauses, Clauses.map, foldItems_eq_map, foldPredicates_eq_map]

/-- A level is computed from the results of its sub-queries. -/
theorem fold_of (level : Clauses S → S) (c : Clauses Query) :
    fold level (.of c) = level (c.map (fold level)) := by
  rw [fold, foldClauses_eq_map]

end Query

/-! ### Induction on the levels -/

/-- The sub-query of an operand. -/
def Operand.subs : Operand S → List S
  | .sub q => [q]
  | _ => []

/-- The sub-query of a selected item. -/
def SelectItem.subs (i : SelectItem S) : List S :=
  match i.expr with
  | .sub q => [q]
  | .column _ => []

/-- The sub-queries of a level, one nesting deep. -/
def Clauses.subs (c : Clauses S) : List S :=
  c.select.flatMap (·.subs) ++ c.wheres.flatMap (·.operand.subs) ++
    c.havings.flatMap (·.operand.subs)

/-- What holds of a level when it holds of its sub-queries holds of every query. -/
theorem Query.induct {P : Query → Prop}
    (level : ∀ c : Clauses Query, (∀ q ∈ c.subs, P q) → P (.of c)) (q : Query) : P q := by
  refine @Query.rec P (fun c => ∀ q ∈ c.subs, P q)
    (fun is => ∀ i ∈ is, ∀ q ∈ i.subs, P q)
    (fun ps => ∀ p ∈ ps, ∀ q ∈ p.operand.subs, P q)
    (fun i => ∀ q ∈ i.subs, P q)
    (fun p => ∀ q ∈ p.operand.subs, P q)
    (fun e => ∀ q ∈ (SelectItem.mk e none none).subs, P q)
    (fun o => ∀ q ∈ o.subs, P q) ?_ ?_ ?_ ?_ ?_ ?_ ?_ ?_ ?_ ?_ ?_ ?_ ?_ ?_ ?_ ?_ q
  · exact level
  · intro table aliasName distinct select joins wheres groupBy havings orderBy limit offset lock raw
      hs hw hh q hq
    simp only [Clauses.subs, List.mem_append, List.mem_flatMap] at hq
    rcases hq with (⟨i, hi, hq⟩ | ⟨p, hp, hq⟩) | ⟨p, hp, hq⟩
    · exact hs i hi q hq
    · exact hw p hp q hq
    · exact hh p hp q hq
  all_goals simp_all [Operand.subs, SelectItem.subs]

end EntitySql
