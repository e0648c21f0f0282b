import EntitySql.Query.Basic

/-!
# Described queries

The one-line text of a query for messages and logs.  A record is its name and its fields in braces,
a list is in brackets, an optional part is `Some(…)` or `None`, and texts are quoted.
-/

namespace EntitySql.Description

/-- The texts with a comma between them. -/
def commaSeparated (items : List String) : String := ", ".intercalate items

/-- A record with its fields. -/
def record (name : String) (fields : List (String × String)) : String :=
  name ++ " \x7b " ++ commaSeparated (fields.map fun f => f.1 ++ ": " ++ f.2) ++ " \x7d"

/-- A list. -/
def list (items : List String) : String := "[" ++ commaSeparated items ++ "]"

/-- An optional part. -/
def optional : Option String → String
  | some s => "Some(" ++ s ++ ")"
  | none => "None"

/-- A truth value. -/
def bool (b : Bool) : String := if b then "true" else "false"

/-- An optional text, quoted. -/
def optionalText (s : Option String) : String := optional (s.map Quoted.describe)

/-- A handle. -/
def field (f : Field) : String :=
  record "Field" [("entity", Quoted.describe f.entity), ("name", Quoted.describe f.name)]

/-- A column reference. -/
def column : ColumnRef → String
  | .field qualifier f => record "Field" [("prefix", optionalText qualifier), ("field", field f)]
  | .aliased name => "Alias(" ++ Quoted.describe name ++ ")"
  | .expr sql => "Expr(" ++ Quoted.describe sql ++ ")"

/-- The name of an operator. -/
def operator : Operator → String
  | .eq => "Eq" | .ne => "Ne" | .gt => "Gt" | .ge => "Ge" | .lt => "Lt" | .le => "Le"
  | .in => "In" | .notIn => "NotIn" | .like => "Like" | .notLike => "NotLike"
  | .between => "Between" | .notBetween => "NotBetween" | .raw => "Raw" | .rawEq => "RawEq"
  | .isNull => "IsNull" | .isNotNull => "IsNotNull"

/-- A list of values. -/
def values (vs : List Value) : String := list (vs.map Value.describe)

/-- An operand whose sub-query is already described. -/
def operand : Operand String → String
  | .absent => "None"
  | .value v => "Value(" ++ v.describe ++ ")"
  | .list vs => "List(" ++ values vs ++ ")"
  | .sub q => "SubQuery(" ++ q ++ ")"
  | .column c => "Column(" ++ column c ++ ")"
  | .raw sql => "Raw(" ++ Quoted.describe sql ++ ")"

/-- A predicate. -/
def predicate (p : Predicate String) : String :=
  record "Predicate"
    [("target", column p.target), ("op", operator p.op), ("operand", operand p.operand)]

/-- The name of an aggregate. -/
def aggregate : Aggregate → String
  | .count => "Count" | .sum => "Sum" | .avg => "Avg" | .min => "Min" | .max => "Max"

/-- A selected expression. -/
def selectExpr : SelectExpr String → String
  | .column c => "Column(" ++ column c ++ ")"
  | .sub q => "SubQuery(" ++ q ++ ")"

/-- A selected item. -/
def selectItem (i : SelectItem String) : String :=
  record "SelectItem"
    [("expr", selectExpr i.expr), ("aggregate", optional (i.aggregate.map aggregate)),
      ("alias", optionalText i.aliasName)]

/-- The name of a kind of joins. -/
def joinKind : JoinKind → String
  | .inner => "Inner" | .left => "Left" | .right => "Right"

/-- A joined table. -/
def join (j : Join) : String :=
  record "Join"
    [("kind", joinKind j.kind), ("table", Quoted.describe j.table),
      ("alias", optionalText j.aliasName),
      ("on", list (j.on.map fun p => "(" ++ column p.1 ++ ", " ++ column p.2 ++ ")"))]

/-- A column to order by. -/
def orderItem (o : OrderItem) : String :=
  record "OrderItem"
    [("target", column o.target),
      ("direction", match o.direction with | .asc => "Asc" | .desc => "Desc")]

/-- A raw override. -/
def rawSql (r : RawSql) : String :=
  record "RawSql" [("sql", Quoted.describe r.sql), ("params", values r.params)]

/-- A row count. -/
def number (n : UInt64) : String := toString n.toNat

/-- One level whose sub-queries are already described. -/
def level (c : Clauses String) : String :=
  record "QuerySpec"
    [("table", Quoted.describe c.table), ("alias", optionalText c.aliasName),
      ("distinct", bool c.distinct), ("select", list (c.select.map selectItem)),
      ("joins", list (c.joins.map join)), ("wheres", list (c.wheres.map predicate)),
      ("group_by", list (c.groupBy.map column)), ("havings", list (c.havings.map predicate)),
      ("order_by", list (c.orderBy.map orderItem)), ("limit", optional (c.limit.map number)),
      ("offset", optional (c.offset.map number)), ("lock", bool c.lock),
      ("raw", optional (c.raw.map rawSql))]

end EntitySql.Description

namespace EntitySql

/-- The text of a query. -/
def Query.describe (q : Query) : String := q.fold Description.level

end EntitySql
