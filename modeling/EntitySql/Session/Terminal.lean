import EntitySql.Session.Builder
import EntitySql.Session.Request

/-!
# Terminal operations

A `Terminal e α` is an operation that ends a builder over `e` and has a result of type `α`.
`Terminal.request` renders its one statement, or refuses the operation; `Builder.run` performs it.

* `getMany`, `getOne` and `stream` bind rows to records, `value` and `pluck` read one column.
* `insert`, `insertBatch`, `update`, `delete`, `increase` and `decrease` write.
* `count`, `aggregate`, `exists` and `doesntExist` ask about the matching rows.
-/

namespace EntitySql

/-- An operation on the rows of a builder. -/
inductive Terminal (e : EntityType) : Type → Type 1 where
  /-- The records of all rows. -/
  | getMany : Terminal e (List (Record e))
  /-- The record of the first row. -/
  | getOne : Terminal e (Option (Record e))
  /-- The records one by one, up to the first failure. -/
  | stream : Terminal e (List (Outcome (Record e)))
  /-- One column of the first row. -/
  | value {α : Type} [Cell α] (column : ColumnRef) : Terminal e (Option α)
  /-- One column of all rows. -/
  | pluck {α : Type} [Cell α] (column : ColumnRef) : Terminal e (List α)
  /-- Writes a new row and gives its identifier, or 0. -/
  | insert (record : Record e) : Terminal e Int64
  /-- Writes new rows by one statement and gives their number. -/
  | insertBatch (records : List (Record e)) : Terminal e UInt64
  /-- Writes the fields that are set to every matching row. -/
  | update (record : Record e) : Terminal e UInt64
  /-- Removes every matching row. -/
  | delete : Terminal e UInt64
  /-- Adds an amount to a column of every matching row. -/
  | increase (f : Field) (amount : Value) : Terminal e UInt64
  /-- Subtracts an amount from a column of every matching row. -/
  | decrease (f : Field) (amount : Value) : Terminal e UInt64
  /-- The number of matching rows. -/
  | count : Terminal e Int64
  /-- An aggregate over the matching rows, absent if there is none. -/
  | aggregate {α : Type} [Scalar α] (f : Aggregate) (column : ColumnRef) : Terminal e (Presence α)
  /-- Whether there is a matching row. -/
  | exists : Terminal e Bool
  /-- Whether there is no matching row. -/
  | doesntExist : Terminal e Bool

/-- A result of the database as an outcome. -/
def Outcome.ofDatabase {α : Type} (result : Except DatabaseError α) : Outcome α :=
  result.mapError .database

namespace Reply

variable {α : Type}

/-- The first cell of every row. -/
def column (read? : Value → Option α) (rows : List ResultRow) : Except DatabaseError (List α) :=
  rows.mapM fun row => row.decode read? 0

/-- The first cell of the first row. -/
def firstCell (read? : Value → Option α) : Option ResultRow → Except DatabaseError (Option α)
  | none => .ok none
  | some row => (row.decode read? 0).map some

/-- The records of the rows, up to the first failure: a row that cannot be bound, or the one that
breaks off the rows. -/
def streamed (e : EntityType) (reader : CellReader) (failure : Option DatabaseError) :
    List ResultRow → List (Outcome (Record e))
  | [] =>
    match failure with
    | some f => [.error (.database f)]
    | none => []
  | row :: rest =>
    match Record.bindRow e row reader with
    | .ok record => .ok record :: streamed e reader failure rest
    | .error f => [.error (.database f)]

end Reply

namespace Request

variable {α : Type}

/-- A request for all rows. -/
def forRows (operation : String) (read : List ResultRow → Except DatabaseError α)
    (statement : Statement) : Request α where
  operation := operation
  statement := statement
  receive reply := reply.toRows.map fun rows => .ofDatabase (read rows)

/-- A request for the first row. -/
def forFirst (operation : String) (read : Option ResultRow → Except DatabaseError α)
    (statement : Statement) : Request α where
  operation := operation
  statement := statement
  receive reply := reply.toFirst.map fun row => .ofDatabase (read row)

/-- A request for the receipt of a write. -/
def forReceipt (operation : String) (read : Receipt → α) (statement : Statement) : Request α where
  operation := operation
  statement := statement
  receive reply := reply.toReceipt.map fun receipt => .ok (read receipt)

/-- A request for the rows one by one. -/
def forStream (e : EntityType) (reader : CellReader) (statement : Statement) :
    Request (List (Outcome (Record e))) where
  operation := "stream"
  statement := statement
  counted := false
  receive reply := .ok (.ok (Reply.streamed e reader reply.failure reply.rows))

/-- A request for the identifier of an inserted row. -/
def forIdentifier (source : InsertId) (read? : Value → Option Int64) (statement : Statement) :
    Request Int64 :=
  match source with
  | .reported => forReceipt "insert" (fun receipt => receipt.lastId.getD 0) statement
  | .returning | .scopeIdentity =>
    forFirst "insert" (fun row => (Reply.firstCell read? row).map (·.getD 0)) statement

/-- With a table to be counted for, the result is what is received. -/
theorem result_perform (q : Request α) (table : String) (reply : Reply) :
    (q.perform (.ok table) reply).result = Outcome.ofDatabase (q.receive reply) >>= id := by
  rw [perform]
  cases q.receive reply with
  | error d => rfl
  | ok x =>
    show (q.count (.ok table) x).result = x
    rw [count]
    split <;> rfl

end Request

/-- The changes that set the fields of a record that are set. -/
def Record.assignments {e : EntityType} (record : Record e) : List Assignment :=
  record.values.filterMap fun (name, v) => v.map fun v => .set ⟨e.key, name⟩ v

namespace Builder

variable {e : EntityType} (b : Builder e)

/-- The statement of an aggregate. -/
def aggregateStatement (f : Aggregate) (column : ColumnRef) : Outcome Statement :=
  b.renderer.select (b.query.toAggregate f column)

/-- The request for an aggregate. -/
def aggregateRequest {α : Type} [Scalar α] (operation : String) (f : Aggregate)
    (column : ColumnRef) : Outcome (Request (Presence α)) :=
  (b.aggregateStatement f column).map
    (.forFirst operation fun row => (Reply.firstCell Cell.read? row).map (·.getD .absent))

/-- The request of an existence test, whose result is read by a function. -/
def existsRequest (read : Bool → Bool) : Outcome (Request Bool) :=
  (b.renderer.select b.query.toExists).map (.forFirst "exists" fun row => .ok (read row.isSome))

/-- The request of a change, which needs a condition. -/
def changeRequest (operation : String) (changes : List Assignment) : Outcome (Request UInt64) := do
  b.ensureFiltered operation
  let statement ← b.renderer.update b.query changes
  return .forReceipt operation (·.affected) statement

end Builder

namespace Terminal

variable {e : EntityType}

/-- The lower-case name of an aggregate, under which it is traced and counted. -/
def aggregateOperation : Aggregate → String
  | .count => "count"
  | .sum => "sum"
  | .avg => "avg"
  | .min => "min"
  | .max => "max"

/-- The request of an operation, or why it is refused. -/
def request (b : Builder e) : {α : Type} → Terminal e α → Outcome (Request α)
  | _, .getMany => b.statement.map (.forRows "select" fun rows => Record.bindMany e rows b.reader)
  | _, .getOne =>
    (b.renderer.select b.query.firstRow).map
      (.forFirst "select" fun row => Record.bindOne e row.toList b.reader)
  | _, .stream => b.statement.map (.forStream e b.reader)
  | _, @value _ α _ column =>
    (b.renderer.select (b.query.toSingleColumn column).firstRow).map
      (.forFirst "value" (Reply.firstCell (Cell.read? (α := α))))
  | _, @pluck _ α _ column =>
    (b.renderer.select (b.query.toSingleColumn column)).map
      (.forRows "pluck" (Reply.column (Cell.read? (α := α))))
  | _, .insert record =>
    (b.renderer.insert e.key [record.values] true).map
      (.forIdentifier b.renderer.dialect.insertId b.reader.identifier?)
  | _, .insertBatch records =>
    (b.renderer.insert e.key (records.map (·.values)) false).map
      (.forReceipt "insert_batch" (·.affected))
  | _, .update record => b.changeRequest "update" record.assignments
  | _, .delete => do
    b.ensureFiltered "delete"
    let statement ← b.renderer.delete b.query
    return .forReceipt "delete" (·.affected) statement
  | _, .increase f amount => b.changeRequest "increment" [.increase f amount]
  | _, .decrease f amount => b.changeRequest "decrement" [.decrease f amount]
  | _, .count =>
    (b.aggregateStatement .count (.expr "*")).map
      (.forFirst "count" fun row =>
        (Reply.firstCell (Presence.ofCell? (b.reader.read? .int64)) row).map fun n =>
          (n.getD .absent).value)
  | _, @aggregate _ _ _ f column => b.aggregateRequest (aggregateOperation f) f column
  | _, .exists => b.existsRequest id
  | _, .doesntExist => b.existsRequest not

end Terminal

namespace Builder

variable {e : EntityType} {α : Type}

/-- Performs an operation on a builder. -/
def run (b : Builder e) (t : Terminal e α) (reply : Reply) : Report α :=
  match t.request b with
  | .error f => ⟨.error f, {}⟩
  | .ok q => q.perform b.table reply

variable {b : Builder e} {t : Terminal e α}

theorem run_of_request_eq_error {f : Failure} (h : t.request b = .error f) (reply : Reply) :
    b.run t reply = ⟨.error f, {}⟩ := by
  rw [run, h]

theorem run_of_request_eq_ok {q : Request α} (h : t.request b = .ok q) (reply : Reply) :
    b.run t reply = q.perform b.table reply := by
  rw [run, h]

end Builder

end EntitySql
