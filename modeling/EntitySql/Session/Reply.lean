import EntitySql.Entity.Binding

/-!
# Replies of a database

A `Reply` is all that a database answers to one statement: the rows, the failure that breaks them
off if there is one, and what it says about the rows that were written.

A statement is sent for its receipt, for all rows, for the first row, or for the rows one by one.  A
failure behind the first row does not show when only that row is asked for.
-/

namespace EntitySql

/-- What the database says about the rows that were written. -/
structure Receipt where
  /-- The number of rows. -/
  affected : UInt64 := 0
  /-- The identifier of the last inserted row. -/
  lastId : Option Int64 := none
deriving DecidableEq, Repr, Inhabited

/-- The answer to one statement. -/
structure Reply where
  rows : List ResultRow := []
  /-- What comes after the rows instead of their end. -/
  failure : Option DatabaseError := none
  receipt : Receipt := {}
deriving Repr, Inhabited

namespace Reply

/-- The reply that breaks off before the row at an index, unless it ends earlier. -/
def brokenAt (reply : Reply) (index : Nat) (e : DatabaseError) : Reply :=
  if index ≤ reply.rows.length then
    { reply with rows := reply.rows.take index, failure := some e }
  else reply

/-- The receipt. -/
def toReceipt (reply : Reply) : Except DatabaseError Receipt :=
  match reply.failure with
  | some e => .error e
  | none => .ok reply.receipt

/-- All rows. -/
def toRows (reply : Reply) : Except DatabaseError (List ResultRow) :=
  match reply.failure with
  | some e => .error e
  | none => .ok reply.rows

/-- The first row, if there is one. -/
def toFirst (reply : Reply) : Except DatabaseError (Option ResultRow) :=
  match reply.rows with
  | row :: _ => .ok (some row)
  | [] =>
    match reply.failure with
    | some e => .error e
    | none => .ok none

end Reply

end EntitySql
