import EntitySql.Proofs.Layout.Basic
import EntitySql.Proofs.Statement.Command

/-!
# The layout of a statement

Where the values of a query belong: those of the select list come first, then those of `WHERE`, of
`HAVING` and of the page, and the layout of a sub-query stands in its own parentheses
(`Renderer.layout`).  An update has the values of its changes before those of `WHERE`.

`HAVING` puts a selected item in the place of its alias where the dialect does not know aliases.  A
test for membership in the empty list is a constant without a target, so the values of an item that
was put there are strays.

A dialect may concatenate and convert texts in its own way, as long as it only puts plain texts
around them: a `Dialect.Weaving` says which.
-/

namespace EntitySql

/-! ### Texts around texts -/

/-- Texts with others before, between and after them. -/
def weaveTexts : List String → List String → String
  | [], parts => String.join parts
  | t :: _, [] => t
  | t :: texts, part :: parts => t ++ part ++ weaveTexts texts parts

/-- A text that may follow a placeholder: it is plain and begins with no digit. -/
def Filler (s : String) : Prop :=
  Placeholder.Plain s ∧ Placeholder.startsWithDigit s.toList = false

instance (s : String) : Decidable (Filler s) := inferInstanceAs (Decidable (_ ∧ _))

/-- The texts that a dialect puts around others. -/
structure Dialect.Weaving (d : Dialect) where
  /-- What stands before a float that is compared by its text. -/
  beforeFloat : String
  /-- What stands after it. -/
  afterFloat : String
  /-- What stands before, between and after a number of concatenated texts. -/
  around : Nat → List String
  floatAsText_eq : ∀ s, d.floatAsText s = beforeFloat ++ s ++ afterFloat
  concat_eq : ∀ parts, d.concat parts = weaveTexts (around parts.length) parts
  filler_beforeFloat : Filler beforeFloat
  filler_afterFloat : Filler afterFloat
  filler_around : ∀ n, ∀ t ∈ around n, Filler t
  filler_lock : Filler (d.lock.getD "")

/-- The count and the number of skipped rows at their places in the page clause. -/
def Dialect.pageLayout (d : Dialect) (limit offset : Option UInt64) (ordered : Bool) : Layout :=
  let count := countValue ((limit.map UInt64.toNat).getD greatestCount)
  let skip := countValue ((offset.map UInt64.toNat).getD 0)
  match d.pagination with
  | .offsetCount => [.text " LIMIT ", .slot skip, .text ",", .slot count]
  | .countOffset => [.text " LIMIT ", .slot count, .text " OFFSET ", .slot skip]
  | .offsetFetch =>
    let order : Layout := if ordered then [] else [.text " ORDER BY (SELECT NULL)"]
    let fetch : Layout :=
      if limit.isSome then [.text " FETCH NEXT ", .slot count, .text " ROWS ONLY"] else []
    order ++ [.text " OFFSET ", .slot skip, .text " ROWS"] ++ fetch

namespace Renderer

variable (r : Renderer) (w : r.dialect.Weaving)

/-! ### Targets -/

/-- The text of a rendering that succeeds. -/
def textOf : Outcome String → String
  | .ok s => s
  | .error _ => ""

/-- A column. -/
def columnLayout (c : ColumnRef) : Layout := [.text (textOf (r.column c))]

/-- A selected expression. -/
def expressionLayout : SelectExpr Layout → Layout
  | .column c => r.columnLayout c
  | .sub l => l.parenthesized

/-- A layout as the argument of a function, if there is one. -/
def aggregatedLayout (aggregate : Option Aggregate) (l : Layout) : Layout :=
  match aggregate with
  | some a => .text a.sql :: l.parenthesized
  | none => l

/-- A selected item without its alias. -/
def itemLayout (i : SelectItem Layout) : Layout :=
  aggregatedLayout i.aggregate (r.expressionLayout i.expr)

/-- The left side of a predicate. -/
def targetLayout (select : List (SelectItem Layout)) (sec : Section) (t : ColumnRef) : Layout :=
  match sec, t with
  | .having, .aliased name =>
    if r.dialect.havingAllowsAlias then [.text name]
    else match select.find? (·.aliasName == some name) with
      | some i => r.itemLayout i
      | none => [.text name]
  | _, t => r.columnLayout t

/-! ### Conditions -/

/-- The target, the operator and a right side. -/
def infixedLayout (lhs : Layout) (op : Operator) (rhs : Layout) : Layout :=
  lhs ++ .text (" " ++ op.sql ++ " ") :: rhs

/-- A part of a pattern. -/
def partPiece (v : Value) : Piece := if v.isWildcard then .text "'%'" else .slot v

/-- A pattern. -/
def patternLayout : List Value → Layout
  | [v] => [partPiece v]
  | vs => Layout.weave (w.around vs.length) (vs.map fun v => [partPiece v])

/-- A comparison with a value. -/
def valueLayout (lhs : Layout) (op : Operator) (v : Value) : Layout :=
  if v.isNull ∧ op = .eq then lhs ++ [.text (" " ++ Operator.isNull.sql)]
  else if v.isNull ∧ op = .ne then lhs ++ [.text (" " ++ Operator.isNotNull.sql)]
  else if v.isFloat then
    infixedLayout (.text w.beforeFloat :: lhs ++ [.text w.afterFloat]) op
      [.text w.beforeFloat, .slot v, .text w.afterFloat]
  else infixedLayout lhs op [.slot v]

/-- A test for membership in a list. -/
def membershipLayout (lhs : Layout) (op : Operator) : List Value → Layout
  | [] => lhs.dropped ++ [.text (if op = .in then "1=0" else "1=1")]
  | vs => infixedLayout lhs op (Layout.join "," (vs.map fun v => [.slot v])).parenthesized

/-- A test for a range. -/
def rangeLayout (lhs : Layout) (op : Operator) : List Value → Layout
  | [low, high] =>
    infixedLayout lhs op [.text "(", .slot low, .text ") AND (", .slot high, .text ")"]
  | _ => lhs

/-- A condition on a target, by its operand. -/
def conditionLayout (lhs : Layout) (op : Operator) : Operand Layout → Layout
  | .absent => lhs ++ [.text (" " ++ op.sql)]
  | .raw sql => lhs ++ [.text sql]
  | .sub l => infixedLayout lhs op l.parenthesized
  | .column c => infixedLayout lhs op (r.columnLayout c)
  | .list vs =>
    match op with
    | .in | .notIn => membershipLayout lhs op vs
    | .like | .notLike => infixedLayout lhs op (patternLayout r w vs)
    | _ => rangeLayout lhs op vs
  | .value v =>
    match op, v with
    | .raw, .text sql => lhs ++ [.text sql]
    | .like, v | .notLike, v => infixedLayout lhs op (patternLayout r w [v])
    | _, v => valueLayout r w lhs op v

/-- A predicate. -/
def predicateLayout (select : List (SelectItem Layout)) (sec : Section) (p : Predicate Layout) :
    Layout :=
  r.conditionLayout w (r.targetLayout select sec p.target) p.op p.operand

/-- The keyword of a clause and its predicates; nothing for none. -/
def conjunctionLayout (keyword : String) (select : List (SelectItem Layout)) (sec : Section)
    (ps : List (Predicate Layout)) : Layout :=
  if ps.isEmpty then []
  else .text keyword :: Layout.join " AND " (ps.map (r.predicateLayout w select sec))

/-- The `WHERE` clause. -/
def whereLayout (c : Clauses Layout) : Layout :=
  r.conjunctionLayout w " WHERE " c.select .where c.wheres

/-- The `HAVING` clause. -/
def havingLayout (c : Clauses Layout) : Layout :=
  r.conjunctionLayout w " HAVING " c.select .having c.havings

/-! ### Levels -/

/-- A selected item with its alias. -/
def selectItemLayout (i : SelectItem Layout) : Layout :=
  r.itemLayout i ++ [.text (aliasSuffix i.aliasName)]

/-- The select list. -/
def selectListLayout (is : List (SelectItem Layout)) : Layout :=
  if is.isEmpty then [.text "*"] else Layout.join ", " (is.map r.selectItemLayout)

/-- The page clause, where there is a limit or an offset. -/
def pageLayout (c : Clauses Layout) : Layout :=
  if c.limit.isSome || c.offset.isSome then
    r.dialect.pageLayout c.limit c.offset (!c.orderBy.isEmpty)
  else []

/-- What stands before the select list. -/
def startText (c : Clauses Layout) : String := if c.distinct then "SELECT DISTINCT " else "SELECT "

/-- The tables of a level. -/
def fromText (c : Clauses Layout) : String :=
  " FROM " ++ textOf (r.tableText c.table c.aliasName) ++ textOf (r.joins c.joins)

/-- The part of a level that decides which rows and groups there are. -/
def sourceLayout (c : Clauses Layout) : Layout :=
  .text (r.fromText c) :: r.whereLayout w c ++ .text (textOf (r.groupClause c.groupBy)) ::
    r.havingLayout w c

/-- What follows the rows and groups: their order, the page and the lock. -/
def tailLayout (c : Clauses Layout) : Layout :=
  .text (textOf (r.orderClause c.orderBy)) :: r.pageLayout c ++
    [.text (if c.lock then r.dialect.lock.getD "" else "")]

/-- One level, or the SQL that overrides it. -/
def levelLayout (c : Clauses Layout) : Layout :=
  match c.raw with
  | some raw => [.raw raw]
  | none =>
    .text (startText c) :: r.selectListLayout c.select ++ r.sourceLayout w c ++ r.tailLayout c

/-- The layout of a query. -/
def layout (q : Query) : Layout := q.fold (r.levelLayout w)

theorem layout_of (c : Clauses Query) :
    r.layout w (.of c) = r.levelLayout w (c.map (r.layout w)) :=
  Query.fold_of _ c

/-! ### Commands -/

/-- One change. -/
def assignmentLayout : Assignment → Layout
  | .set f v =>
    let column := textOf ((r.resolve f).map (·.column))
    if v.isNull then [.text (column ++ " = NULL")] else [.text (column ++ " = "), .slot v]
  | .increase f v =>
    let column := textOf ((r.resolve f).map (·.column))
    [.text (column ++ " = " ++ column ++ " + "), .slot v]
  | .decrease f v =>
    let column := textOf ((r.resolve f).map (·.column))
    [.text (column ++ " = " ++ column ++ " - "), .slot v]

/-- The layout of a command. -/
def commandLayout : Command → Layout
  | .select q => r.layout w q
  | .update q changes =>
    .text ("UPDATE " ++ textOf (r.table q.clauses.table) ++ " SET ") ::
      Layout.join ", " (changes.map r.assignmentLayout) ++
      r.whereLayout w (q.clauses.map (r.layout w))
  | .delete q =>
    .text ("DELETE FROM " ++ textOf (r.table q.clauses.table)) ::
      r.whereLayout w (q.clauses.map (r.layout w))

end Renderer

end EntitySql
