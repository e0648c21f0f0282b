import EntitySql.Fragment
import EntitySql.Placeholder

/-!
# Dialects

A `Dialect` is what one database system decides about the text of statements.  `Dialect.basic` has
the common decisions, and `mysql`, `postgres`, `sqlite` and `mssql` say where they differ.

Statements are rendered with `?` for every placeholder; `Dialect.number` then numbers the
placeholders of a finished text where the dialect wants them numbered.

How a text is searched for placeholders (`Dialect.number`) and how a page is rendered
(`Dialect.page`) follows from these decisions in one way for all systems.  A dialect that overrides
either of them with a rule of its own cannot be given here.
-/

namespace EntitySql

/-- The form of the clause that limits the rows. -/
inductive Pagination where
  /-- `LIMIT ?,?` with offset and count. -/
  | offsetCount
  /-- `LIMIT ? OFFSET ?` with count and offset. -/
  | countOffset
  /-- `OFFSET ? ROWS FETCH NEXT ? ROWS ONLY`, after an order. -/
  | offsetFetch
deriving DecidableEq, Repr, Inhabited

/-- Where the identifier of a new row comes from. -/
inductive InsertId where
  /-- The database reports it with the result. -/
  | reported
  /-- `INSERT … RETURNING` with the primary key. -/
  | returning
  /-- A second statement selects the identity. -/
  | scopeIdentity
deriving DecidableEq, Repr, Inhabited

/-- The decisions of a database system about statements. -/
structure Dialect where
  name : String
  /-- Whether placeholders are numbered. -/
  numbered : Bool
  /-- The placeholder of the parameter with a number, counted from 1. -/
  placeholder : Nat → String
  pagination : Pagination
  /-- The suffix that locks the selected rows, where there is one. -/
  lock : Option String
  /-- The concatenation of SQL texts. -/
  concat : List String → String
  /-- The text of a float, so that floats are compared as they are written. -/
  floatAsText : String → String
  insertId : InsertId
  /-- Whether `HAVING` may name the aliases of the select list. -/
  havingAllowsAlias : Bool

namespace Dialect

/-- The placeholder `?`, or `$` and the number. -/
def basicPlaceholder (numbered : Bool) (n : Nat) : String :=
  if numbered then "$" ++ toString n else "?"

/-- The common decisions. -/
def basic (name : String) (pagination : Pagination) (numbered : Bool) : Dialect where
  name := name
  numbered := numbered
  placeholder := basicPlaceholder numbered
  pagination := pagination
  lock := none
  concat := " || ".intercalate
  floatAsText column := "(" ++ column ++ " || '')"
  insertId := .reported
  havingAllowsAlias := true

/-- MySQL. -/
def mysql : Dialect :=
  { basic "mysql" .offsetCount false with
    lock := some " FOR UPDATE"
    concat := fun parts => "CONCAT(" ++ ",".intercalate parts ++ ")"
    floatAsText := fun column => "CONCAT(" ++ column ++ ",'')" }

/-- PostgreSQL. -/
def postgres : Dialect :=
  { basic "postgres" .countOffset true with
    lock := some " FOR UPDATE"
    insertId := .returning
    havingAllowsAlias := false }

/-- SQLite. -/
def sqlite : Dialect := basic "sqlite" .countOffset false

/-- SQL Server. -/
def mssql : Dialect :=
  { basic "mssql" .offsetFetch false with
    concat := " + ".intercalate
    floatAsText := fun column => column
    insertId := .scopeIdentity
    havingAllowsAlias := false }

/-- The finished text with its placeholders in the dialect's form. -/
def number (d : Dialect) (sql : String) : String :=
  if d.numbered then
    String.ofList (Placeholder.number (fun n => (d.placeholder n).toList) none 0 sql.toList)
  else sql

/-! ### The page -/

/-- The greatest number that a placeholder of a page can carry. -/
def greatestCount : Nat := Int64.maxValue.toInt.toNat

/-- A row count as the parameter of a placeholder, capped. -/
def countValue (n : Nat) : Value := .int (Int64.ofInt (min n greatestCount : Nat))

/-- The page clause.  Without a limit the count is the greatest one, without an offset nothing is
skipped; only `offsetFetch` leaves the count out, and it needs an order. -/
def page (d : Dialect) (limit offset : Option UInt64) (ordered : Bool) : Fragment :=
  let count := countValue ((limit.map UInt64.toNat).getD greatestCount)
  let skip := countValue ((offset.map UInt64.toNat).getD 0)
  match d.pagination with
  | .offsetCount => ⟨" LIMIT ?,?", [skip, count]⟩
  | .countOffset => ⟨" LIMIT ? OFFSET ?", [count, skip]⟩
  | .offsetFetch =>
    let order : Fragment := if ordered then .empty else " ORDER BY (SELECT NULL)"
    let fetch : Fragment := if limit.isSome then ⟨" FETCH NEXT ? ROWS ONLY", [count]⟩ else .empty
    order ++ ⟨" OFFSET ? ROWS", [skip]⟩ ++ fetch

end Dialect

end EntitySql
