import EntitySql.Statement.Basic

/-!
# Conditions

How a predicate of `WHERE` or `HAVING` is rendered.  The operators fall into classes, each with the
operands that it takes: raw text, tests for null, equality of columns, membership in a list,
patterns, ranges, and comparisons.  Every class but the first two takes a sub-query as well.

In `HAVING`, a target that is the alias of a selected item is replaced by that item in a dialect
that knows no aliases there; the parameters of the item then come before those of the operand.
-/

namespace EntitySql

/-- A fragment, or why there is none. -/
abbrev Rendered := Outcome Fragment

/-- The two clauses that conditions stand in. -/
inductive Section where
  | where
  | having
deriving DecidableEq, Repr

namespace Renderer

variable (r : Renderer)

/-! ### Selected items -/

/-- A column as a fragment. -/
def columnFragment (c : ColumnRef) : Rendered := (r.column c).map fun sql : String => ⟨sql, []⟩

/-- A selected expression: a column, or a sub-query in parentheses. -/
def expression : SelectExpr Rendered → Rendered
  | .column c => r.columnFragment c
  | .sub q => q.map Fragment.parenthesized

/-- A fragment as the argument of a function, if there is one. -/
def aggregated (aggregate : Option Aggregate) (f : Fragment) : Fragment :=
  match aggregate with
  | some a => (a.sql : Fragment) ++ f.parenthesized
  | none => f

/-- A selected item without its alias. -/
def item (i : SelectItem Rendered) : Rendered := (r.expression i.expr).map (aggregated i.aggregate)

/-- The left side of a predicate: its column, or in `HAVING` the selected item that it names. -/
def target (select : List (SelectItem Rendered)) (sec : Section) (t : ColumnRef) : Rendered :=
  match sec, t with
  | .having, .aliased name =>
    if r.dialect.havingAllowsAlias then .ok name
    else match select.find? (·.aliasName == some name) with
      | some i => r.item i
      | none => .ok name
  | _, t => r.columnFragment t

/-! ### The classes of operators -/

/-- The target, the operator and a right side. -/
def infixed (lhs : Fragment) (op : Operator) (rhs : Fragment) : Fragment :=
  lhs ++ ((" " ++ op.sql ++ " " : String) : Fragment) ++ rhs

/-- The target followed by SQL text. -/
def rawCondition (lhs : Fragment) : Operand Rendered → Rendered
  | .raw sql => .ok (lhs ++ (sql : Fragment))
  | .value (.text sql) => .ok (lhs ++ (sql : Fragment))
  | _ => .error (.refused .rawNeedsText)

/-- The test for null. -/
def nullCheck (lhs : Fragment) (op : Operator) : Fragment :=
  lhs ++ ((" " ++ op.sql : String) : Fragment)

/-- A test for null takes no operand. -/
def nullCondition (lhs : Fragment) (op : Operator) : Operand Rendered → Rendered
  | .absent => .ok (nullCheck lhs op)
  | _ => .error (.refused .nullCheckWithOperand)

/-- The equality of two columns. -/
def columnCondition (lhs : Fragment) : Operand Rendered → Rendered
  | .column c => (r.columnFragment c).map (infixed lhs .eq)
  | _ => .error (.refused .columnNeeded)

/-- Membership in a list.  Nothing is in the empty list: the constant condition takes the place of
the text, and parameters of the target stay. -/
def membership (lhs : Fragment) (op : Operator) : Operand Rendered → Rendered
  | .list [] => .ok (lhs.mapText fun _ => if op = .in then "1=0" else "1=1")
  | .list vs => .ok (infixed lhs op (Fragment.join "," (vs.map .placeholder)).parenthesized)
  | _ => .error (.refused (.listNeeded op))

/-- A part of a pattern: the wildcard in the text, anything else bound. -/
def patternPart (v : Value) : Fragment :=
  if v.isWildcard then ("'%'" : Fragment) else .placeholder v

/-- The parts of a pattern as one text: a single part as it is, several concatenated. -/
def patternOf (parts : List Value) : Fragment :=
  let fragments := parts.map patternPart
  let texts := fragments.map (·.text)
  let text := match texts with
    | [single] => single
    | _ => r.dialect.concat texts
  ⟨text, fragments.flatMap (·.params)⟩

/-- A comparison with a pattern. -/
def patternCondition (lhs : Fragment) (op : Operator) : Operand Rendered → Rendered
  | .list [] => .error (.refused .emptyPattern)
  | .list parts => .ok (infixed lhs op (r.patternOf parts))
  | .value part => .ok (infixed lhs op (r.patternOf [part]))
  | _ => .error (.refused .patternNeeded)

/-- A comparison with the two ends of a range. -/
def range (lhs : Fragment) (op : Operator) : Operand Rendered → Rendered
  | .list [low, high] => .ok (infixed lhs op ⟨"(?) AND (?)", [low, high]⟩)
  | _ => .error (.refused (.twoValuesNeeded op))

/-- A comparison with a value.  Equality with null is a test for null, and floats are compared by
their text on both sides. -/
def valueComparison (lhs : Fragment) (op : Operator) (v : Value) : Fragment :=
  if v.isNull ∧ op = .eq then nullCheck lhs .isNull
  else if v.isNull ∧ op = .ne then nullCheck lhs .isNotNull
  else if v.isFloat then
    infixed (lhs.mapText r.dialect.floatAsText) op ⟨r.dialect.floatAsText "?", [v]⟩
  else infixed lhs op (.placeholder v)

/-- A comparison with a value or a column. -/
def comparison (lhs : Fragment) (op : Operator) : Operand Rendered → Rendered
  | .value v => .ok (r.valueComparison lhs op v)
  | .column c => (r.columnFragment c).map (infixed lhs op)
  | .list vs => .error (.refused (.operandRefused op (.list vs)))
  | .raw sql => .error (.refused (.operandRefused op (.raw sql)))
  | .absent | .sub _ => .error (.refused (.operandRefused op .absent))

/-- A comparison with the rows of a sub-query. -/
def subCondition (lhs : Fragment) (op : Operator) (q : Rendered) : Rendered :=
  q.map fun f => infixed lhs op f.parenthesized

/-- The condition of an operator on a rendered target. -/
def condition (lhs : Fragment) (op : Operator) (operand : Operand Rendered) : Rendered :=
  match op with
  | .raw => rawCondition lhs operand
  | .isNull | .isNotNull => nullCondition lhs op operand
  | _ =>
    match operand with
    | .sub q => subCondition lhs op q
    | _ =>
      match op with
      | .rawEq => r.columnCondition lhs operand
      | .in | .notIn => membership lhs op operand
      | .like | .notLike => r.patternCondition lhs op operand
      | .between | .notBetween => range lhs op operand
      | _ => r.comparison lhs op operand

/-! ### Predicates -/

/-- A predicate. -/
def predicate (select : List (SelectItem Rendered)) (sec : Section)
    (p : Predicate Rendered) : Rendered := do
  let lhs ← r.target select sec p.target
  r.condition lhs p.op p.operand

/-- The keyword of a clause and its predicates, all of which have to hold; nothing for none. -/
def conjunction (keyword : String) (select : List (SelectItem Rendered)) (sec : Section)
    (ps : List (Predicate Rendered)) : Rendered := do
  let conditions ← ps.mapM (r.predicate select sec)
  if conditions.isEmpty then return .empty
  else return ((keyword : Fragment) ++ Fragment.join " AND " conditions)

/-- The `WHERE` clause. -/
def whereClause (c : Clauses Rendered) : Rendered :=
  r.conjunction " WHERE " c.select .where c.wheres

/-- The `HAVING` clause. -/
def havingClause (c : Clauses Rendered) : Rendered :=
  r.conjunction " HAVING " c.select .having c.havings

end Renderer

end EntitySql
