import EntitySql.Session.Reply
import EntitySql.Statement.Basic

/-!
# Requests

A `Request` is a statement that is ready to be sent, with the name of its operation and how its
result comes out of the reply.  `Request.perform` sends it: the statement is traced and sent first,
then the reply is received, then the operation is counted for its table, and only then are cells
decoded.

`Report` is the result together with the `Log` of what happened on the way.  An operation that was
refused before there was a request leaves an empty log (`perform` of an error).
-/

namespace EntitySql

/-- A line of the trace: the operation, its SQL and the number of its parameters. -/
structure TraceLine where
  operation : String
  sql : String
  params : Nat
deriving DecidableEq, Repr, Inhabited

/-- A step of the counter: the labels it is counted under. -/
structure CounterStep where
  operation : String
  table : String
deriving DecidableEq, Repr, Inhabited

namespace CounterStep

/-- The name of the counter. -/
def name : String := "weft.query.count"

/-- The labels of the step. -/
def labels (c : CounterStep) : List String := ["operation=" ++ c.operation, "table=" ++ c.table]

end CounterStep

/-- What an operation did, in order within each list. -/
structure Log where
  sent : List Statement := []
  traced : List TraceLine := []
  counted : List CounterStep := []
deriving DecidableEq, Repr, Inhabited

/-- What came of an operation. -/
structure Report (α : Type) where
  result : Outcome α
  log : Log := {}

/-- A statement that is ready to be sent. -/
structure Request (α : Type) where
  operation : String
  statement : Statement
  /-- Whether the operation is counted. -/
  counted : Bool := true
  /-- What the database reports ends the operation at once; what comes of the cells is decided
  after the operation is counted. -/
  receive : Reply → Except DatabaseError (Outcome α)

namespace Request

variable {α : Type}

/-- The line of the trace. -/
def traceLine (q : Request α) : TraceLine :=
  ⟨q.operation, q.statement.sql, q.statement.params.length⟩

/-- What is logged when the statement is sent. -/
def sendLog (q : Request α) : Log := { sent := [q.statement], traced := [q.traceLine] }

/-- Counts the operation for its table, which has to be registered. -/
def count (q : Request α) (table : Outcome String) (result : Outcome α) : Report α :=
  if q.counted then
    match table with
    | .error f => ⟨.error f, q.sendLog⟩
    | .ok t => ⟨result, { q.sendLog with counted := [⟨q.operation, t⟩] }⟩
  else ⟨result, q.sendLog⟩

/-- Sends the statement. -/
def perform (q : Request α) (table : Outcome String) (reply : Reply) : Report α :=
  match q.receive reply with
  | .error e => ⟨.error (.database e), q.sendLog⟩
  | .ok result => q.count table result

/-- The statement is sent once, whatever comes of it. -/
theorem sent_perform (q : Request α) (table : Outcome String) (reply : Reply) :
    (q.perform table reply).log.sent = [q.statement] := by
  unfold perform
  split
  · rfl
  · unfold count
    split
    · split <;> rfl
    · rfl

end Request

end EntitySql
