import EntitySql.Proofs.Projection
import EntitySql.Proofs.Session.Guard

/-!
# Aggregates of a builder

A `Summary` is an operation that asks for one aggregate of the rows of a builder: their number, or a
function of one column.  It is the request for the first row of a projection, and its result is the
first cell of that row (`Summary.request_terminal`).

`Builder.summary_aggregates` says what that means for a builder made by steps.  As long as no step
is raw SQL, what is sent is a `SELECT` of the aggregate alone over the rows of the builder, or the
operation is refused with nothing sent.  Raw SQL is sent as it was written, whatever it selects, and
its first cell is read all the same (`Builder.countOfRaw_reads_identifier`).
-/

namespace EntitySql

/-! ### Summaries -/

/-- An operation that asks for an aggregate. -/
inductive Summary (e : EntityType) : Type → Type 1 where
  /-- The number of rows. -/
  | count : Summary e Int64
  /-- A function of a column. -/
  | aggregate {α : Type} [Scalar α] (f : Aggregate) (column : ColumnRef) : Summary e (Presence α)

namespace Summary

variable {e : EntityType} {α : Type}

/-- The operation. -/
def terminal : {α : Type} → Summary e α → Terminal e α
  | _, .count => .count
  | _, @aggregate _ _ _ f column => .aggregate f column

/-- The function that is asked for. -/
def function : {α : Type} → Summary e α → Aggregate
  | _, .count => .count
  | _, @aggregate _ _ _ f _ => f

/-- What the function is of. -/
def target : {α : Type} → Summary e α → ColumnRef
  | _, .count => .expr "*"
  | _, @aggregate _ _ _ _ column => column

/-- The result in the first cell of the first row. -/
def read (reader : CellReader) :
    {α : Type} → Summary e α → Option ResultRow → Except DatabaseError α
  | _, .count => fun row =>
    (Reply.firstCell (Presence.ofCell? (reader.read? .int64)) row).map fun n =>
      (n.getD .absent).value
  | _, @aggregate _ _ _ _ _ => fun row => (Reply.firstCell Cell.read? row).map (·.getD .absent)

/-- The projection that is asked for. -/
def projection (s : Summary e α) : Projection := .aggregate s.function s.target

/-- The projection is rendered, and its first row requested. -/
theorem request_terminal (b : Builder e) (s : Summary e α) :
    s.terminal.request b = (b.renderer.select (b.query.project s.projection)).map
      (.forFirst (Terminal.aggregateOperation s.function) (s.read b.reader)) := by
  cases s <;> rfl

end Summary

namespace Builder

variable {e : EntityType} {α : Type}

/-! ### Runs -/

/-- The first row is received, and read if the table of the type has a name. -/
theorem result_forFirst {b : Builder e} {operation : String}
    {read : Option ResultRow → Except DatabaseError α} {st : Statement} {reply : Reply}
    {table : String} (h : b.table = .ok table) :
    ((Request.forFirst operation read st).perform b.table reply).result =
      Outcome.ofDatabase (reply.toFirst >>= read) := by
  rw [h, Request.result_perform]
  show Outcome.ofDatabase (reply.toFirst.map _) >>= id = _
  cases reply.toFirst <;> rfl

/-- A summary that is rendered is sent, and the first row is read. -/
theorem run_of_select_eq_ok {b : Builder e} {s : Summary e α} {st : Statement}
    (h : b.renderer.select (b.query.project s.projection) = .ok st) (reply : Reply) :
    b.run s.terminal reply =
      (Request.forFirst (Terminal.aggregateOperation s.function) (s.read b.reader) st).perform
        b.table reply := by
  refine run_of_request_eq_ok ?_ reply
  rw [s.request_terminal, h]
  rfl

/-- A summary that is not rendered fails with nothing sent. -/
theorem run_of_select_eq_error {b : Builder e} {s : Summary e α} {f : Failure}
    (h : b.renderer.select (b.query.project s.projection) = .error f) (reply : Reply) :
    b.run s.terminal reply = ⟨.error f, {}⟩ := by
  refine run_of_request_eq_error ?_ reply
  rw [s.request_terminal, h]
  rfl

/-- **Aggregates** of a builder that is made by steps.

Without raw SQL there are two cases.  Either the statement that is sent selects the aggregate and
nothing else over the rows of the builder, without `DISTINCT`, order, page and lock, and the result
is read from the first cell of the first row.  Or there is no such statement, and the operation
fails for the same reason before anything is sent.

Raw SQL is sent as it was written. -/
theorem summary_aggregates (r : Renderer) (channel : Channel) (reader : CellReader)
    (allowed : Bool) (chain : List Step) (s : Summary e α) (reply : Reply) :
    let b : Builder e :=
      ({ renderer := r, channel := channel, reader := reader, allowsUnfiltered := allowed } :
        Builder e).build chain
    let asked := b.query.project s.projection
    (b.query.clauses.raw = none →
      (∃ column rows, r.column s.target = .ok column ∧ r.source (r.opened asked) = .ok rows ∧
        (b.run s.terminal reply).log.sent =
          [r.finish (⟨"SELECT " ++ s.function.sql ++ "(" ++ column ++ ")", []⟩ ++ rows)] ∧
        (b.run s.terminal reply).result = Outcome.ofDatabase (reply.toFirst >>= s.read reader)) ∨
      ∃ f, r.select asked = .error f ∧ (f.isRefusal = true ∨ f.isUnregistered = true) ∧
        b.run s.terminal reply = ⟨.error f, {}⟩) ∧
    ∀ raw, b.query.clauses.raw = some raw →
      (b.run s.terminal reply).log.sent = [⟨raw.sql, raw.params⟩] := by
  intro b asked
  have hkey : b.query.clauses.table = e.key := Query.table_build (.ofTable e.key) chain
  refine ⟨fun hraw => ?_, fun raw hraw => ?_⟩
  · cases hselect : r.select asked with
    | error f =>
      have hoffline : f.source? = none := Renderer.select_offline asked f hselect
      exact .inr ⟨f, rfl, Failure.isRefusal_or_isUnregistered hoffline,
        run_of_select_eq_error hselect reply⟩
    | ok st =>
      have hraw' : asked.clauses.raw = none := Renderer.raw_project hraw s.projection
      obtain ⟨draft, hdraft, rfl⟩ := (Renderer.select_eq_ok hraw').1 hselect
      obtain ⟨column, rows, hcolumn, hrows, rfl⟩ := Renderer.query_aggregate hraw hdraft
      -- the rows begin with the table of the type, so it has a name
      obtain ⟨table, htable⟩ : ∃ table, b.table = .ok table := by
        obtain ⟨text, htext, -⟩ := r.source_eq_ok.1 hrows
        obtain ⟨table, htable, -⟩ := Renderer.tableText_eq_ok.1 htext
        exact ⟨table, (congrArg r.table hkey).symm.trans htable⟩
      refine .inl ⟨column, rows, hcolumn, hrows, ?_, ?_⟩
      · rw [run_of_select_eq_ok hselect, Request.sent_perform]
        rfl
      · rw [run_of_select_eq_ok hselect, result_forFirst htable]
        rfl
  · have hselect : r.select asked = .ok ⟨raw.sql, raw.params⟩ := by
      have hraw' : asked.clauses.raw = some raw := hraw
      rw [Renderer.select, hraw']
    rw [run_of_select_eq_ok hselect, Request.sent_perform]
    rfl

/-! #### Notes -/

/-- The number of the notes behind the second one. -/
theorem summary_aggregates_notes :
    ((notes.build [.whereValue noteId .gt (.int 2)]).run .count
      { rows := [[("COUNT(*)", .int 5)]] }).log.sent =
        [⟨"SELECT COUNT(*) FROM note WHERE id > ?", [.int 2]⟩] ∧
    ((notes.build [.whereValue noteId .gt (.int 2)]).run .count
      { rows := [[("COUNT(*)", .int 5)]] }).result = .ok 5 := by
  obtain ⟨hclauses, -⟩ := summary_aggregates (e := note) notes.renderer .pool .exact false
    [.whereValue noteId .gt (.int 2)] .count { rows := [[("COUNT(*)", .int 5)]] }
  rcases hclauses rfl with ⟨column, rows, hcolumn, hrows, hsent, hresult⟩ | ⟨f, hf, -⟩
  · obtain rfl : "*" = column := Except.ok.inj hcolumn
    obtain rfl : ⟨" FROM note WHERE id > ?", [.int 2]⟩ = rows := Except.ok.inj hrows
    exact ⟨hsent, hresult⟩
  · cases hf

/-- The identifier of the last note is taken for the number of the notes. -/
theorem countOfRaw_reads_identifier :
    ((notes.build [.raw ⟨"SELECT id FROM note ORDER BY id DESC", []⟩]).run .count
      { rows := [[("id", .int 7)]] }).log.sent = [⟨"SELECT id FROM note ORDER BY id DESC", []⟩] ∧
    ((notes.build [.raw ⟨"SELECT id FROM note ORDER BY id DESC", []⟩]).run .count
      { rows := [[("id", .int 7)]] }).result = .ok 7 ∧
    ¬ ∃ rest, "SELECT id FROM note ORDER BY id DESC" = "SELECT COUNT(*)" ++ rest := by
  refine ⟨rfl, rfl, ?_⟩
  rintro ⟨rest, h⟩
  have hchars := congrArg String.toList h
  rw [String.toList_append] at hchars
  have hprefix : "SELECT COUNT(*)".toList <+: "SELECT id FROM note ORDER BY id DESC".toList :=
    ⟨rest.toList, hchars.symm⟩
  exact absurd hprefix (by decide)

end Builder

end EntitySql
