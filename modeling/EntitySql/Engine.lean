import EntitySql.Dialect
import EntitySql.Session.Reply

/-!
# Database engines

An `Engine` is a database system that statements are sent to.  It fixes the dialect, and what the
receipt of a statement says that wrote nothing.

SQLite gives back what was bound to a statement in one of five storage classes: truth values become
integers, timestamps texts, UUIDs blobs, and a float that is no number becomes null.
-/

namespace EntitySql

/-- The database systems. -/
inductive Engine where
  | mysql
  | postgres
  | sqlite
deriving DecidableEq, Repr, Inhabited

namespace Engine

/-- The dialect of the engine. -/
def dialect : Engine → Dialect
  | .mysql => .mysql
  | .postgres => .postgres
  | .sqlite => .sqlite

/-- The receipt of a statement that wrote nothing; PostgreSQL never reports an identifier. -/
def emptyReceipt : Engine → Receipt
  | .mysql | .sqlite => { affected := 0, lastId := some 0 }
  | .postgres => { affected := 0, lastId := none }

end Engine

/-- A value in one of the storage classes of SQLite. -/
inductive Stored where
  | null
  | integer (n : Int64)
  | real (x : Double)
  | text (s : String)
  | blob (bytes : List Nat)
deriving DecidableEq, Repr, Inhabited

namespace Stored

/-- The name of the storage class. -/
def className : Stored → String
  | .null => "NULL"
  | .integer _ => "INTEGER"
  | .real _ => "REAL"
  | .text _ => "TEXT"
  | .blob _ => "BLOB"

/-- How a bound value is stored. -/
def ofValue : Value → Stored
  | .null => .null
  | .bool b => .integer (if b then 1 else 0)
  | .int n => .integer n
  | .float x => if x.isNaN then .null else .real x
  | .text s => .text s
  | .uuid u => .blob u.bytes
  | .timestamp t => .text t.textWithOffset

/-- A stored value as the identifier of a row; null counts as 0. -/
def identifier? : Stored → Option Int64
  | .integer n => some n
  | .null => some 0
  | .real _ | .text _ | .blob _ => none

/-- The identifier in the first cell of a row. -/
def returnedId (row : List Stored) : Except DatabaseError Int64 :=
  match row with
  | [] => .error (.columnIndexOutOfBounds 0 0)
  | cell :: _ =>
    match cell.identifier? with
    | some n => .ok n
    | none => .error (.columnDecode 0)

end Stored

end EntitySql
