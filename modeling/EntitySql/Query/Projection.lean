import EntitySql.Query.Step

/-!
# Other questions over the same rows

A projection keeps the tables and conditions of a query and selects something else: one aggregate,
the constant `1` of an existence test, or one column.  The first two are over all matching rows, so
they drop order, page, lock and `DISTINCT`; a single column keeps them.

A raw override is kept by every projection, as are joins, groups and all conditions.
-/

namespace EntitySql.Query

/-- The query without what depends on the order or the number of its rows. -/
def unpaged (q : Query) : Clauses Query :=
  { q.clauses with
    distinct := false, orderBy := [], limit := none, offset := none, lock := false }

/-- One aggregate over the matching rows. -/
def toAggregate (q : Query) (aggregate : Aggregate) (target : ColumnRef) : Query :=
  .of { q.unpaged with select := [{ expr := .column target, aggregate := some aggregate }] }

/-- The constant `1` for the first matching row. -/
def toExists (q : Query) : Query :=
  .of { q.unpaged with select := [{ expr := .column (.expr "1") }], limit := some 1 }

/-- One column of the same rows. -/
def toSingleColumn (q : Query) (target : ColumnRef) : Query :=
  .of { q.clauses with select := [{ expr := .column target }] }

/-- The first row only, unless the query is raw. -/
def firstRow (q : Query) : Query :=
  if q.clauses.raw.isNone then q.apply (.limit 1) else q

end EntitySql.Query
