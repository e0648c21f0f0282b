import EntitySql.Query.Description
import EntitySql.Query.Basic

/-!
# What can fail

A `Failure` is a cause.  `Refusal` says why a query has no SQL text, `DatabaseError` what the
database reported, and the others are refusals of an operation before it reaches the database; a
handle or key that was never registered is a mistake of the caller.

The wording is in the `message` functions and nowhere else.
-/

namespace EntitySql

/-- Why a query cannot be rendered. -/
inductive Refusal where
  | joinWithoutConditions (table : EntityKey)
  | rawNeedsText
  | nullCheckWithOperand
  | columnNeeded
  | listNeeded (op : Operator)
  | emptyPattern
  | patternNeeded
  | twoValuesNeeded (op : Operator)
  /-- A comparison with nothing, with a list, or with raw text. -/
  | operandRefused (op : Operator) (operand : Operand Empty)
deriving Repr

/-- The wording of a refusal. -/
def Refusal.message : Refusal → String
  | .joinWithoutConditions table => "join on \x60" ++ table ++ "\x60 has no conditions"
  | .rawNeedsText => "raw predicate needs a SQL string operand"
  | .nullCheckWithOperand => "null checks take no operand"
  | .columnNeeded => "column equality needs a column operand"
  | .listNeeded op => op.sql ++ " expects a list operand"
  | .emptyPattern => "LIKE expects at least one pattern part"
  | .patternNeeded => "LIKE expects a pattern"
  | .twoValuesNeeded op => op.sql ++ " expects exactly two values"
  | .operandRefused op operand =>
    "\x60" ++ op.sql ++ "\x60 cannot take operand " ++
      Description.operand (operand.map (fun q => nomatch q))

/-- What the database reports. -/
inductive DatabaseError where
  | rowNotFound
  | protocol (text : String)
  /-- The cell at the index is not of the wanted type. -/
  | columnDecode (index : Nat)
  | columnIndexOutOfBounds (index length : Nat)
deriving DecidableEq, Repr, Inhabited

/-- The wording of a database error. -/
def DatabaseError.message : DatabaseError → String
  | .rowNotFound => "no rows returned by a query that expected to return at least one row"
  | .protocol text => "encountered unexpected or invalid data: " ++ text
  | .columnDecode index => "error occurred while decoding column " ++ toString index
  | .columnIndexOutOfBounds index length =>
    "column index out of bounds: the len is " ++ toString length ++ ", but the index is " ++
      toString index

/-- Why an operation has no result. -/
inductive Failure where
  | refused (r : Refusal)
  | emptyBatch
  | nothingToWrite
  /-- A write to every row that was not asked for. -/
  | unfiltered (operation : String)
  | database (e : DatabaseError)
  | unregisteredEntity (key : EntityKey)
  | unregisteredField (f : Field)
deriving Repr

namespace Failure

/-- The wording of a refusal with the given reason. -/
def refusalMessage (reason : String) : String := "cannot compile query: " ++ reason

/-- The wording of a failure. -/
def message : Failure → String
  | .refused r => refusalMessage r.message
  | .emptyBatch => "batch insert requires at least one row"
  | .nothingToWrite => "no present field to write"
  | .unfiltered operation => "refusing " ++ operation ++ " without filters"
  | .database e => "sqlx error: " ++ e.message
  | .unregisteredEntity key => "entity \x60" ++ key ++ "\x60 is not registered in this catalog"
  | .unregisteredField f =>
    "field \x60" ++ f.name ++ "\x60 of \x60" ++ f.entity ++ "\x60 is not registered in this catalog"

/-- The database error behind a failure. -/
def source? : Failure → Option DatabaseError
  | .database e => some e
  | _ => none

end Failure

end EntitySql
