import EntitySql.Query.Basic

/-!
# Building a query step by step

A `Step` adds to or sets one section of the outermost level of a query; a chain of steps is applied
from left to right (`Query.build`).  Steps on a list append to it, the others replace what was set
before.  Only `page` writes two sections, limit and offset.

The many ways of writing a condition are one step, `Step.where`, with the operands that they stand
for in `Step.whereEq` and the others.
-/

namespace EntitySql

/-- One step in the construction of a query. -/
inductive Step where
  | aliasTable (name : String)
  | distinct
  | select (items : List (SelectItem Query))
  | join (j : Join)
  | where (p : Predicate Query)
  | groupBy (columns : List ColumnRef)
  | having (p : Predicate Query)
  | orderBy (item : OrderItem)
  | limit (n : UInt64)
  | offset (n : UInt64)
  | page (number size : UInt64)
  | lock
  | raw (r : RawSql)

/-- The rows before the given page, numbered from 1; page 0 is page 1, and no page begins after
row `2^64 - 1`. -/
def pageOffset (number size : UInt64) : UInt64 :=
  UInt64.ofNat (min ((number.toNat - 1) * size.toNat) (UInt64.size - 1))

/-- The level after a step. -/
def Clauses.apply (c : Clauses Query) : Step → Clauses Query
  | .aliasTable name => { c with aliasName := some name }
  | .distinct => { c with distinct := true }
  | .select items => { c with select := c.select ++ items }
  | .join j => { c with joins := c.joins ++ [j] }
  | .where p => { c with wheres := c.wheres ++ [p] }
  | .groupBy columns => { c with groupBy := c.groupBy ++ columns }
  | .having p => { c with havings := c.havings ++ [p] }
  | .orderBy item => { c with orderBy := c.orderBy ++ [item] }
  | .limit n => { c with limit := some n }
  | .offset n => { c with offset := some n }
  | .page number size => { c with offset := some (pageOffset number size), limit := some size }
  | .lock => { c with lock := true }
  | .raw r => { c with raw := some r }

namespace Query

/-- The query after a step. -/
def apply (q : Query) (s : Step) : Query := .of (q.clauses.apply s)

/-- The query after a chain of steps. -/
def build (q : Query) (chain : List Step) : Query := chain.foldl apply q

@[simp] theorem build_nil (q : Query) : q.build [] = q := rfl

@[simp] theorem build_cons (q : Query) (s : Step) (chain : List Step) :
    q.build (s :: chain) = (q.apply s).build chain := rfl

end Query

namespace Step

/-! ### Items to select -/

/-- The columns as they are. -/
def selectColumns (columns : List ColumnRef) : Step :=
  .select (columns.map fun c => { expr := .column c })

/-- A column under an alias. -/
def selectAs (column : ColumnRef) (aliasName : String) : Step :=
  .select [{ expr := .column column, aliasName := some aliasName }]

/-- An aggregate of a column under an alias. -/
def selectAggregate (aggregate : Aggregate) (column : ColumnRef) (aliasName : String) : Step :=
  .select [{ expr := .column column, aggregate := some aggregate, aliasName := some aliasName }]

/-- A sub-query under an alias. -/
def selectSub (q : Query) (aliasName : String) : Step :=
  .select [{ expr := .sub q, aliasName := some aliasName }]

/-! ### Conditions -/

/-- A comparison with an operand. -/
def whereOp (target : ColumnRef) (op : Operator) (operand : Operand Query) : Step :=
  .where ⟨target, op, operand⟩

/-- A comparison with one value. -/
def whereValue (target : ColumnRef) (op : Operator) (v : Value) : Step :=
  whereOp target op (.value v)

/-- A comparison with several values. -/
def whereList (target : ColumnRef) (op : Operator) (vs : List Value) : Step :=
  whereOp target op (.list vs)

/-- The target followed by SQL as it stands. -/
def whereRaw (target : ColumnRef) (sql : String) : Step := whereOp target .raw (.raw sql)

/-- The equality of two columns. -/
def whereColumn (left right : ColumnRef) : Step := whereOp left .rawEq (.column right)

/-- The test for null, or for anything else. -/
def whereNull (target : ColumnRef) (isNull : Bool) : Step :=
  whereOp target (if isNull then .isNull else .isNotNull) .absent

/-- A comparison with a sub-query. -/
def whereSub (target : ColumnRef) (op : Operator) (q : Query) : Step := whereOp target op (.sub q)

/-- A join on one pair of columns. -/
def joinOn (kind : JoinKind) (table : EntityKey) (aliasName : Option String)
    (left right : ColumnRef) : Step :=
  .join { kind, table, aliasName, on := [(left, right)] }

end Step

end EntitySql
