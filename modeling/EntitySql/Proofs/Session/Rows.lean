import EntitySql.Proofs.Session.Refusal

/-!
# The rows of a query

The rows that a query selects are collected to a list of records or streamed one by one.  Both send
the same statement and bind the same rows to the same records (`Builder.rows_agree`).

Rows that are collected are matched to fields once, by the columns of the first one; rows that are
streamed are matched one by one.  With the same columns in all rows this is the same
(`Record.bindMany_eq_mapM`).  A failure ends both: a stream has the records before it in front
(`Reply.streamed_append`), while a list is not given at all.
-/

namespace EntitySql

variable {e : EntityType}

/-! ### Rows and records -/

namespace Record

/-- Rows are bound to records, one by one. -/
def BindAll (reader : CellReader) (rows : List ResultRow) (records : List (Record e)) : Prop :=
  List.Forall₂ (fun row record => bindRow e row reader = .ok record) rows records

section

variable {reader : CellReader} {rows : List ResultRow} {columns : List String}
  (hcolumns : ∀ row ∈ rows, row.columns = columns)
include hcolumns

/-- Rows with the same columns are bound each by itself. -/
theorem bindMany_eq_mapM : bindMany e rows reader = rows.mapM (bindRow e · reader) := by
  cases rows with
  | nil => rfl
  | cons first rest =>
    refine Outcome.mapM_congr fun row hrow => ?_
    rw [bindRow, hcolumns row hrow, hcolumns first List.mem_cons_self]

theorem bindMany_of_bindAll {records : List (Record e)} (h : BindAll reader rows records) :
    bindMany e rows reader = .ok records := by
  rw [bindMany_eq_mapM hcolumns]
  exact Outcome.mapM_eq_ok.2 h

theorem bindMany_of_error {before after : List ResultRow} {row : ResultRow}
    (hrows : rows = before ++ row :: after) {records : List (Record e)}
    (hbefore : BindAll reader before records) {f : DatabaseError}
    (hrow : bindRow e row reader = .error f) : bindMany e rows reader = .error f := by
  rw [bindMany_eq_mapM hcolumns, hrows]
  exact Outcome.mapM_eq_error hbefore hrow

end

end Record

open Record (bindRow bindMany bindOne BindAll)

/-- Records that are streamed in front of others. -/
theorem Reply.streamed_append {reader : CellReader} (failure : Option DatabaseError)
    {before : List ResultRow} {records : List (Record e)} (h : BindAll reader before records)
    (rest : List ResultRow) : streamed e reader failure (before ++ rest) =
      records.map .ok ++ streamed e reader failure rest := by
  induction h with
  | nil => rfl
  | cons hrow _ ih =>
    rw [List.cons_append, streamed, hrow, List.map_cons, List.cons_append, ih]

/-! ### Both operations -/

namespace Builder

variable {b : Builder e}

theorem run_of_statement_eq_error {f : Failure} (h : b.statement = .error f) (reply : Reply) :
    b.run .getMany reply = ⟨.error f, {}⟩ ∧ b.run .stream reply = ⟨.error f, {}⟩ := by
  constructor
  · refine run_of_request_eq_error ?_ reply
    rw [Terminal.request, h]
    rfl
  · refine run_of_request_eq_error ?_ reply
    rw [Terminal.request, h]
    rfl

section

variable {st : Statement} (hst : b.statement = .ok st)
include hst

theorem run_stream (reply : Reply) :
    b.run .stream reply =
      ⟨.ok (Reply.streamed e b.reader reply.failure reply.rows),
        (Request.forStream e b.reader st).sendLog⟩ := by
  refine run_of_request_eq_ok (q := .forStream e b.reader st) ?_ reply
  rw [Terminal.request, hst]
  rfl

/-- A stream of rows that can all be bound ends as they do. -/
theorem result_stream_of_bindAll {reply : Reply} {records : List (Record e)}
    (h : BindAll b.reader reply.rows records) : (b.run .stream reply).result =
      .ok (records.map .ok ++ Reply.streamed e b.reader reply.failure []) := by
  have hstream := Reply.streamed_append reply.failure h []
  rw [List.append_nil] at hstream
  rw [run_stream hst, hstream]

/-- A stream ends with the first row that cannot be bound. -/
theorem result_stream_of_error {reply : Reply} {before after : List ResultRow} {row : ResultRow}
    (hrows : reply.rows = before ++ row :: after) {records : List (Record e)}
    (hbefore : BindAll b.reader before records) {f : DatabaseError}
    (hrow : bindRow e row b.reader = .error f) :
    (b.run .stream reply).result = .ok (records.map .ok ++ [.error (.database f)]) := by
  rw [run_stream hst, hrows, Reply.streamed_append reply.failure hbefore, Reply.streamed, hrow]

theorem run_getMany (reply : Reply) :
    b.run .getMany reply =
      (Request.forRows "select" (bindMany e · b.reader) st).perform b.table reply := by
  refine run_of_request_eq_ok ?_ reply
  rw [Terminal.request, hst]
  rfl

/-- A list of records is not given if the rows break off. -/
theorem result_getMany_of_failure {reply : Reply} {f : DatabaseError}
    (hreply : reply.failure = some f) : (b.run .getMany reply).result = .error (.database f) := by
  have hreceive : (Request.forRows "select" (bindMany e · b.reader) st).receive reply = .error f := by
    show reply.toRows.map _ = _
    rw [Reply.toRows, hreply]
    rfl
  rw [run_getMany hst, Request.perform, hreceive]

/-- Otherwise it is what is bound. -/
theorem result_getMany (hregistered : b.renderer.catalog.isRegistered e.key = true) {reply : Reply}
    (hreply : reply.failure = none) :
    (b.run .getMany reply).result = .ofDatabase (bindMany e reply.rows b.reader) := by
  -- the operation is counted for a table before its rows are bound
  obtain ⟨s, hs⟩ := Option.isSome_iff_exists.1 hregistered
  have htable : b.table = .ok s.tableName := Renderer.table_eq_ok.2 ⟨s, hs, rfl⟩
  rw [run_getMany hst, htable, Request.result_perform]
  show Outcome.ofDatabase (reply.toRows.map _) >>= id = _
  rw [Reply.toRows, hreply]
  rfl

end

/-- The same statement is sent, if there is one. -/
theorem sent_getMany_eq (reply : Reply) :
    (b.run .getMany reply).log.sent = (b.run .stream reply).log.sent := by
  -- the two operations render the same statement, and part only behind it
  cases hst : b.statement with
  | error f =>
    obtain ⟨hmany, hstream⟩ := run_of_statement_eq_error hst reply
    rw [hmany, hstream]
  | ok st =>
    rw [run_getMany hst, Request.sent_perform, run_stream hst]
    rfl

/-- **One reading** of the rows of a query.

Collecting and streaming send the same statement.  If all rows can be bound, both give their
records; if not, a stream gives those in front of the first row that cannot, and its failure, which
is all that comes of collecting.  Where the rows break off, that failure is last in a stream.

To bind many rows is to bind each of them, up to the first that fails, and to bind one is to bind
the first. -/
theorem rows_agree (b : Builder e) (hregistered : b.renderer.catalog.isRegistered e.key = true)
    (reply : Reply) {columns : List String} (hcolumns : ∀ row ∈ reply.rows, row.columns = columns) :
    (b.run .getMany reply).log.sent = (b.run .stream reply).log.sent ∧
      (∀ f, b.statement = .error f →
        (b.run .getMany reply).result = .error f ∧ (b.run .stream reply).result = .error f) ∧
      (∀ st, b.statement = .ok st → (b.run .getMany reply).log.sent = [st] ∧
        (∀ records, BindAll b.reader reply.rows records →
          (reply.failure = none → (b.run .getMany reply).result = .ok records ∧
            (b.run .stream reply).result = .ok (records.map .ok)) ∧
          ∀ f, reply.failure = some f → (b.run .getMany reply).result = .error (.database f) ∧
            (b.run .stream reply).result = .ok (records.map .ok ++ [.error (.database f)])) ∧
        ∀ before records row after f, reply.rows = before ++ row :: after →
          BindAll b.reader before records → bindRow e row b.reader = .error f →
          (b.run .stream reply).result = .ok (records.map .ok ++ [.error (.database f)]) ∧
            (reply.failure = none → (b.run .getMany reply).result = .error (.database f))) ∧
      bindMany e reply.rows b.reader = reply.rows.mapM (bindRow e · b.reader) ∧
      (∀ records, BindAll b.reader reply.rows records →
        bindMany e reply.rows b.reader = .ok records) ∧
      (∀ before (records : List (Record e)) row after f, reply.rows = before ++ row :: after →
        BindAll b.reader before records → bindRow e row b.reader = .error f →
        bindMany e reply.rows b.reader = .error f) ∧
      (reply.rows = [] → bindOne e reply.rows b.reader = .ok none) ∧
      ∀ row rest, reply.rows = row :: rest →
        bindOne e reply.rows b.reader = (bindRow e row b.reader).map some := by
  refine ⟨sent_getMany_eq reply, ?_, ?_, Record.bindMany_eq_mapM hcolumns,
    fun _ => Record.bindMany_of_bindAll hcolumns, ?_, ?_, ?_⟩
  · intro f hf
    obtain ⟨hmany, hstream⟩ := run_of_statement_eq_error hf reply
    rw [hmany, hstream]
    exact ⟨rfl, rfl⟩
  · intro st hst
    refine ⟨by rw [run_getMany hst, Request.sent_perform]; rfl, ?_, ?_⟩
    · intro records hrecords
      rw [result_stream_of_bindAll hst hrecords]
      constructor
      · intro hreply
        rw [result_getMany hst hregistered hreply, Record.bindMany_of_bindAll hcolumns hrecords,
          hreply]
        exact ⟨rfl, congrArg Except.ok (List.append_nil _)⟩
      · intro f hreply
        rw [result_getMany_of_failure hst hreply, hreply]
        exact ⟨rfl, rfl⟩
    · intro before records row after f hrows hrecords hrow
      refine ⟨result_stream_of_error hst hrows hrecords hrow, ?_⟩
      intro hreply
      rw [result_getMany hst hregistered hreply,
        Record.bindMany_of_error hcolumns hrows hrecords hrow]
      rfl
  · intro before records row after f hrows hrecords hrow
    exact Record.bindMany_of_error hcolumns hrows hrecords hrow
  · intro hrows
    rw [hrows]
    rfl
  · intro row rest hrows
    rw [hrows]
    rfl

/-- The note with a number. -/
def numbered (n : Int64) : Record note :=
  (Record.initial note).set ⟨0, by decide⟩ ⟨.new n, Presence.zeroed_new n⟩

/-- The rows of three notes, the second of which has a text for its number. -/
def misnumbered : Reply where
  rows := [[("id", .int 4)], [("id", .text "five")], [("id", .int 6)]]

/-- The note in front of the misnumbered one is streamed, and no list of notes is given. -/
theorem rows_agree_notes :
    notes.renderer.catalog.isRegistered note.key = true ∧
      (∀ row ∈ misnumbered.rows, row.columns = ["id"]) ∧
      (notes.run .getMany misnumbered).log.sent = [⟨"SELECT * FROM note", []⟩] ∧
      (notes.run .getMany misnumbered).log.sent = (notes.run .stream misnumbered).log.sent ∧
      (notes.run .getMany misnumbered).result = .error (.database (.columnDecode 0)) ∧
      (notes.run .stream misnumbered).result =
        .ok [.ok (numbered 4), .error (.database (.columnDecode 0))] := by
  have hcolumns : ∀ row ∈ misnumbered.rows, row.columns = ["id"] := by decide
  have hfirst : bindRow note [("id", .int 4)] = .ok (numbered 4) := rfl
  have hregistered : notes.renderer.catalog.isRegistered note.key = true := rfl
  obtain ⟨hsame, -, hrows, -⟩ := rows_agree notes hregistered misnumbered hcolumns
  obtain ⟨hsent, -, hfailed⟩ := hrows ⟨"SELECT * FROM note", []⟩ rfl
  obtain ⟨hstream, hmany⟩ := hfailed [[("id", .int 4)]] [numbered 4] [("id", .text "five")]
    [[("id", .int 6)]] (.columnDecode 0) rfl (.cons hfirst .nil) rfl
  exact ⟨hregistered, hcolumns, hsent, hsame, hmany rfl, hstream⟩

end Builder

end EntitySql
