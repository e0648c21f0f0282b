import EntitySql.Entity.Record
import EntitySql.Query.Description
import EntitySql.Query.Projection
import EntitySql.Statement.Write

/-!
# Builders

A `Builder` is a query over the rows of one mapped type, on its way to the database: it knows the
schemas and the dialect to render for, where the statement will run, and how the cells of the result
are read.  It grows by the steps of
queries.  A write to all rows has to be allowed explicitly.
-/

namespace EntitySql

/-- Where statements run. -/
inductive Channel where
  /-- Any connection of a shared pool. -/
  | pool
  /-- One connection, or the transaction that is open on it. -/
  | connection
deriving DecidableEq, Repr, Inhabited

/-- The channel in a described builder. -/
def Channel.describe : Channel → String
  | .pool => "Executor::Pool"
  | .connection => "Executor::Conn"

/-- A query over the rows of a mapped type. -/
structure Builder (e : EntityType) where
  renderer : Renderer
  channel : Channel := .pool
  reader : CellReader := .exact
  query : Query := .ofTable e.key
  /-- Whether a write without conditions is allowed. -/
  allowsUnfiltered : Bool := false

namespace Builder

variable {e : EntityType}

/-- The builder with more steps. -/
def build (b : Builder e) (chain : List Step) : Builder e := { b with query := b.query.build chain }

/-- The builder that may write to all rows. -/
def allowUnfiltered (b : Builder e) : Builder e := { b with allowsUnfiltered := true }

/-- The statement that selects the rows. -/
def statement (b : Builder e) : Outcome Statement := b.renderer.select b.query

/-- The SQL that selects the rows. -/
def sql (b : Builder e) : Outcome String := b.statement.map (·.sql)

/-- The table of the mapped type. -/
def table (b : Builder e) : Outcome String := b.renderer.table e.key

/-- Refuses a write that has no conditions and was not allowed to have none. -/
def ensureFiltered (b : Builder e) (operation : String) : Outcome Unit :=
  if b.query.clauses.wheres.isEmpty && !b.allowsUnfiltered then .error (.unfiltered operation)
  else .ok ()

/-- The builder as it is shown in a log. -/
def describe (b : Builder e) : String :=
  Description.record "QueryBuilder"
    [("executor", b.channel.describe), ("spec", b.query.describe),
      ("allow_unsafe", Description.bool b.allowsUnfiltered)]

end Builder

end EntitySql
