import EntitySql.Proofs.Query.Chain
import EntitySql.Proofs.Session.Refusal

/-!
# Names that are not registered

An operation that meets a name that is not registered has not sent anything, with one exception
(`Builder.unregistered_before_sending`).

Whatever is rendered names the table of the type, so that a name that is missing stops the operation
before there is a statement (`Terminal.isRegistered_of_statement`).  Raw SQL is not rendered.  Its
table is looked up only to count the operation, and then the raw SQL has been sent and answered
(`Builder.LateName`, `Builder.unregistered_behind_raw`).
-/

namespace EntitySql

variable {e : EntityType} {α : Type}

/-! ### Rendered tables -/

namespace Renderer

variable {r : Renderer}

theorem isRegistered_of_table {key : EntityKey} {table : String} (h : r.table key = .ok table) :
    r.catalog.isRegistered key = true := by
  obtain ⟨s, hs, -⟩ := table_eq_ok.1 h
  rw [Catalog.isRegistered, hs, Option.isSome_some]

/-- A query that is rendered from its clauses names its table. -/
theorem isRegistered_of_select {q : Query} (hraw : q.clauses.raw = none) {st : Statement}
    (h : r.select q = .ok st) : r.catalog.isRegistered q.clauses.table = true := by
  obtain ⟨c⟩ := q
  have hc : c.raw = none := hraw
  obtain ⟨f, hf, -⟩ := (select_eq_ok hraw).1 h
  rw [query_eq_selectLevel r hc] at hf
  obtain ⟨items, -, rows, hrows, -⟩ := r.selectLevel_eq_ok.1 hf
  obtain ⟨text, htext, -⟩ := r.source_eq_ok.1 hrows
  obtain ⟨table, htable, -⟩ := tableText_eq_ok.1 htext
  exact isRegistered_of_table htable

theorem isRegistered_of_update {q : Query} {changes : List Assignment} {st : Statement}
    (h : r.update q changes = .ok st) : r.catalog.isRegistered q.clauses.table = true := by
  obtain ⟨f, hf, -⟩ := Outcome.map_eq_ok.1 h
  obtain ⟨-, table, htable, -⟩ := r.updateFragment_eq_ok.1 hf
  exact isRegistered_of_table htable

theorem isRegistered_of_delete {q : Query} {st : Statement} (h : r.delete q = .ok st) :
    r.catalog.isRegistered q.clauses.table = true := by
  obtain ⟨f, hf, -⟩ := Outcome.map_eq_ok.1 h
  obtain ⟨table, htable, -⟩ := r.deleteFragment_eq_ok.1 hf
  exact isRegistered_of_table htable

theorem isRegistered_of_insert {key : EntityKey} {rows : List InsertRow} {returningId : Bool}
    {st : Statement} (h : r.insert key rows returningId = .ok st) :
    r.catalog.isRegistered key = true := by
  obtain ⟨f, hf, -⟩ := Outcome.map_eq_ok.1 h
  cases rows with
  | nil => cases hf
  | cons row rows =>
    rw [insertFragment_of_ne_nil r key (List.cons_ne_nil row rows)] at hf
    obtain ⟨s, hs, -⟩ := Outcome.bind_eq_ok.1 hf
    rw [Catalog.isRegistered, schema_eq_ok.1 hs, Option.isSome_some]

end Renderer

/-! ### What is asked -/

namespace Terminal

/-- The query that is asked by an operation, if it does not write. -/
def asked (q : Query) : {α : Type} → Terminal e α → Option Query
  | _, .getMany | _, .stream => some q
  | _, .getOne => some q.firstRow
  | _, @value _ _ _ column => some (q.toSingleColumn column).firstRow
  | _, @pluck _ _ _ column => some (q.toSingleColumn column)
  | _, .count => some (q.toAggregate .count (.expr "*"))
  | _, @aggregate _ _ _ f column => some (q.toAggregate f column)
  | _, .exists | _, .doesntExist => some q.toExists
  | _, .insert _ | _, .insertBatch _ | _, .update _ | _, .delete | _, .increase _ _
  | _, .decrease _ _ => none

/-- What is asked is about the same table, and raw SQL stays as it is. -/
theorem clauses_of_asked {q p : Query} {t : Terminal e α} (h : t.asked q = some p) :
    p.clauses.table = q.clauses.table ∧ p.clauses.raw = q.clauses.raw := by
  have hfirst : ∀ q : Query, q.firstRow.clauses.table = q.clauses.table ∧
      q.firstRow.clauses.raw = q.clauses.raw := by
    intro q
    unfold Query.firstRow
    split_ifs <;> exact ⟨rfl, rfl⟩
  cases t with
  | getOne | value _ =>
    obtain rfl := Option.some.inj h
    exact hfirst _
  | getMany | stream | pluck _ | count | aggregate _ _ | «exists» | doesntExist =>
    obtain rfl := Option.some.inj h
    exact ⟨rfl, rfl⟩
  | insert _ | insertBatch _ | update _ | delete | increase _ _ | decrease _ _ => cases h

theorem statement_of_asked {b : Builder e} {p : Query} {t : Terminal e α}
    (h : t.asked b.query = some p) : t.statement b = b.renderer.select p := by
  cases t with
  | insert _ | insertBatch _ | update _ | delete | increase _ _ | decrease _ _ => cases h
  | _ =>
    obtain rfl := Option.some.inj h
    rfl

variable {b : Builder e} {t : Terminal e α}

/-- A statement that is not raw SQL names the table of the type. -/
theorem isRegistered_of_statement (hkey : b.query.clauses.table = e.key)
    (hraw : t.asked b.query = none ∨ b.query.clauses.raw = none) {st : Statement}
    (h : t.statement b = .ok st) : b.renderer.catalog.isRegistered e.key = true := by
  -- a query names its table in its rows, and a write in its first words
  cases hasked : t.asked b.query with
  | some p =>
    obtain ⟨htable, hsame⟩ := clauses_of_asked hasked
    have hp : p.clauses.raw = none := by
      rcases hraw with hwrites | hraw
      · rw [hasked] at hwrites
        cases hwrites
      · rw [hsame, hraw]
    rw [statement_of_asked hasked] at h
    rw [← hkey, ← htable]
    exact Renderer.isRegistered_of_select hp h
  | none =>
    cases t with
    | insert _ | insertBatch _ => exact Renderer.isRegistered_of_insert h
    | update _ | increase _ _ | decrease _ _ => exact hkey ▸ Renderer.isRegistered_of_update h
    | delete => exact hkey ▸ Renderer.isRegistered_of_delete h
    | _ => cases hasked

/-- An operation that does not write has a request as soon as what is asked is rendered. -/
theorem exists_request_of_asked {p : Query} {st : Statement} (hasked : t.asked b.query = some p)
    (h : b.renderer.select p = .ok st) : ∃ q, t.request b = .ok q ∧ q.statement = st := by
  cases t with
  | insert _ | insertBatch _ | update _ | delete | increase _ _ | decrease _ _ => cases hasked
  | _ =>
    obtain rfl := Option.some.inj hasked
    exact ⟨_, congrArg (Except.map _) h, rfl⟩

end Terminal

/-! ### What is counted -/

namespace Request

variable {reply : Reply}

theorem exists_receive_forRows {operation : String}
    {read : List ResultRow → Except DatabaseError α} {st : Statement} :
    (∃ x, (forRows operation read st).receive reply = .ok x) ↔ reply.failure.isNone = true := by
  show (∃ x, reply.toRows.map _ = .ok x) ↔ _
  unfold Reply.toRows
  cases reply.failure with
  | none => exact ⟨fun _ => rfl, fun _ => ⟨_, rfl⟩⟩
  | some d =>
    refine ⟨fun h => ?_, fun h => absurd h Bool.false_ne_true⟩
    obtain ⟨x, hx⟩ := h
    cases hx

theorem exists_receive_forFirst {operation : String}
    {read : Option ResultRow → Except DatabaseError α} {st : Statement} :
    (∃ x, (forFirst operation read st).receive reply = .ok x) ↔
      (reply.failure.isNone || !reply.rows.isEmpty) = true := by
  show (∃ x, reply.toFirst.map _ = .ok x) ↔ _
  unfold Reply.toFirst
  cases reply.rows with
  | cons row rest => exact ⟨fun _ => Bool.or_true _, fun _ => ⟨_, rfl⟩⟩
  | nil =>
    cases reply.failure with
    | none => exact ⟨fun _ => rfl, fun _ => ⟨_, rfl⟩⟩
    | some d =>
      refine ⟨fun h => ?_, fun h => absurd h Bool.false_ne_true⟩
      obtain ⟨x, hx⟩ := h
      cases hx

end Request

namespace Terminal

/-- Whether an operation that does not write has received what it wants, all rows or the first one,
and is counted.  A stream is not. -/
def countsAnswer (reply : Reply) : {α : Type} → Terminal e α → Bool
  | _, .getMany | _, @pluck _ _ _ _ => reply.failure.isNone
  | _, .getOne | _, @value _ _ _ _ | _, .count | _, @aggregate _ _ _ _ _ | _, .exists
  | _, .doesntExist => reply.failure.isNone || !reply.rows.isEmpty
  | _, .stream | _, .insert _ | _, .insertBatch _ | _, .update _ | _, .delete | _, .increase _ _
  | _, .decrease _ _ => false

variable {b : Builder e} {t : Terminal e α} {reply : Reply}

theorem exists_asked_of_countsAnswer (h : t.countsAnswer reply = true) (q : Query) :
    ∃ p, t.asked q = some p := by
  cases t with
  | insert _ | insertBatch _ | update _ | delete | increase _ _ | decrease _ _ => cases h
  | _ => exact ⟨_, rfl⟩

theorem countsAnswer_iff {p : Query} (hasked : t.asked b.query = some p) {q : Request α}
    (h : t.request b = .ok q) :
    t.countsAnswer reply = true ↔ q.counted = true ∧ ∃ x, q.receive reply = .ok x := by
  cases t with
  | insert _ | insertBatch _ | update _ | delete | increase _ _ | decrease _ _ => cases hasked
  | getMany | pluck _ =>
    obtain ⟨st, -, rfl⟩ := Outcome.map_eq_ok.1 h
    exact Request.exists_receive_forRows.symm.trans (and_iff_right rfl).symm
  | getOne | value _ | count | aggregate _ _ | «exists» | doesntExist =>
    obtain ⟨st, -, rfl⟩ := Outcome.map_eq_ok.1 h
    exact Request.exists_receive_forFirst.symm.trans (and_iff_right rfl).symm
  | stream =>
    obtain ⟨st, -, rfl⟩ := Outcome.map_eq_ok.1 h
    exact iff_of_false Bool.false_ne_true fun h => absurd h.1 Bool.false_ne_true

end Terminal

/-! ### Runs -/

namespace Builder

/-- Whether it shows only behind its statement that the type of a builder is not registered: raw SQL
is sent, answered and counted. -/
structure LateName (b : Builder e) (t : Terminal e α) (reply : Reply) : Prop where
  raw : b.query.clauses.raw.isSome = true
  unregistered : b.renderer.catalog.isRegistered e.key = false
  counted : t.countsAnswer reply = true

variable {b : Builder e} {t : Terminal e α} {reply : Reply}

/-- A name is missed behind a request only when the answer is counted for the table of the type. -/
theorem of_isUnregistered {q : Request α} (hq : t.request b = .ok q) {f : Failure}
    (hf : f ∈ t.failures (b.run t reply).result) (hname : f.isUnregistered = true) :
    q.counted = true ∧ (∃ x, q.receive reply = .ok x) ∧
      b.renderer.catalog.isRegistered e.key = false := by
  obtain ⟨-, hreceived⟩ := Terminal.request_eq_ok hq
  have hnot : ¬ f.source?.isSome = true := fun hsource =>
    absurd hname (Bool.eq_false_iff.1 (Failure.not_isUnregistered hsource))
  rw [run_of_request_eq_ok hq, Request.perform] at hf
  cases hx : q.receive reply with
  | error d =>
    rw [hx, Terminal.failures_error] at hf
    obtain rfl := List.mem_singleton.1 hf
    exact absurd rfl hnot
  | ok x =>
    rw [hx] at hf
    replace hf : f ∈ t.failures (q.count b.table x).result := hf
    -- the cells do not fail for a name, so counting did
    have hlater : f ∉ t.failures x := fun hf => hnot (hreceived reply x hx f hf)
    refine ⟨?_, ⟨x, rfl⟩, ?_⟩
    · by_contra hcounted
      unfold Request.count at hf
      rw [if_neg hcounted] at hf
      exact hlater hf
    · rcases failures_count b t hf with hf | ⟨-, hkey⟩
      · exact absurd hf hlater
      · exact hkey

theorem run_of_table_eq_error {q : Request α} (hq : t.request b = .ok q)
    (hcounted : q.counted = true) {x : Outcome α} (hx : q.receive reply = .ok x) {f : Failure}
    (htable : b.table = .error f) : b.run t reply = ⟨.error f, q.sendLog⟩ := by
  rw [run_of_request_eq_ok hq, Request.perform, hx]
  show q.count b.table x = _
  unfold Request.count
  rw [if_pos hcounted, htable]

/-- An operation on a builder that is made by steps, for a registered type or not, has sent nothing
when it fails for a name that is not registered, unless the name is missed late.  In that case the
raw SQL has been sent, nothing is counted, and the answer is lost. -/
theorem unregistered_before_sending (r : Renderer) (channel : Channel) (reader : CellReader)
    (allowed : Bool) (chain : List Step) (t : Terminal e α) (reply : Reply) :
    let b : Builder e :=
      ({ renderer := r, channel := channel, reader := reader, allowsUnfiltered := allowed } :
        Builder e).build chain
    (∀ f ∈ t.failures (b.run t reply).result, f.isUnregistered = true →
      ¬ b.LateName t reply → (b.run t reply).log = {}) ∧
    ∀ raw, b.query.clauses.raw = some raw → b.LateName t reply →
      (b.run t reply).result = .error (.unregisteredEntity e.key) ∧
        (b.run t reply).log.sent = [⟨raw.sql, raw.params⟩] ∧ (b.run t reply).log.counted = [] := by
  intro b
  have hkey : b.query.clauses.table = e.key := Query.table_build (.ofTable e.key) chain
  refine ⟨fun f hf hname hlate => ?_, fun raw hraw hlate => ?_⟩
  · cases hq : t.request b with
    | error f =>
      rw [run_of_request_eq_error hq]
    | ok q =>
      obtain ⟨hcounted, hreceived, hmissing⟩ := of_isUnregistered hq hf hname
      obtain ⟨hstatement, -⟩ := Terminal.request_eq_ok hq
      -- a statement without a table is raw SQL
      have hnamed : ¬ (t.asked b.query = none ∨ b.query.clauses.raw = none) := fun hraw =>
        absurd (Terminal.isRegistered_of_statement hkey hraw hstatement)
          (Bool.eq_false_iff.1 hmissing)
      obtain ⟨hasked, hraw⟩ := not_or.1 hnamed
      obtain ⟨p, hp⟩ := Option.ne_none_iff_exists'.1 hasked
      exact absurd ⟨Option.isSome_iff_ne_none.2 hraw, hmissing,
        (Terminal.countsAnswer_iff hp hq).2 ⟨hcounted, hreceived⟩⟩ hlate
  · obtain ⟨p, hp⟩ := Terminal.exists_asked_of_countsAnswer hlate.counted b.query
    have hselect : r.select p = .ok ⟨raw.sql, raw.params⟩ := by
      rw [Renderer.select, (Terminal.clauses_of_asked hp).2, hraw]
    obtain ⟨q, hq, hst⟩ := Terminal.exists_request_of_asked hp hselect
    obtain ⟨hcounted, x, hx⟩ := (Terminal.countsAnswer_iff hp hq).1 hlate.counted
    have htable : b.table = .error (.unregisteredEntity e.key) :=
      Renderer.table_eq_error.2 ⟨Option.not_isSome_iff_eq_none.1
        (Bool.eq_false_iff.1 hlate.unregistered), rfl⟩
    rw [run_of_table_eq_error hq hcounted hx htable]
    exact ⟨rfl, congrArg (fun st => [st]) hst, rfl⟩

/-! #### Notes -/

/-- The query over all notes where no type is registered. -/
def unknownNotes : Builder note := { renderer := ⟨Catalog.empty, .sqlite⟩ }

/-- Raw SQL that removes all notes, and says which. -/
def removal : RawSql := ⟨"DELETE FROM note RETURNING id", []⟩

/-- The answer to the removal of one note. -/
def removedNote : Reply where
  rows := [[("id", .int 7)]]

/-- Without raw SQL nothing is sent for an unknown type. -/
theorem unregistered_before_sending_notes :
    (unknownNotes.run .getMany removedNote).log = {} ∧
      ((unknownNotes.build [.raw removal]).run .getMany removedNote).log.sent =
        [⟨"DELETE FROM note RETURNING id", []⟩] := by
  obtain ⟨hearly, -⟩ := unregistered_before_sending (e := note) unknownNotes.renderer .pool .exact
    false [] .getMany removedNote
  obtain ⟨-, hlate⟩ := unregistered_before_sending (e := note) unknownNotes.renderer .pool .exact
    false [.raw removal] .getMany removedNote
  constructor
  · refine hearly (.unregisteredEntity note.key) (List.mem_singleton.2 rfl) rfl fun h => ?_
    exact absurd h.raw Bool.false_ne_true
  · exact (hlate removal rfl ⟨rfl, rfl, rfl⟩).2.1

/-- The notes are removed, and then it shows that they are not known. -/
theorem unregistered_behind_raw :
    let b := unknownNotes.build [.raw removal]
    (∃ f ∈ Terminal.getMany.failures (b.run .getMany removedNote).result,
        f.isUnregistered = true) ∧
      (b.run .getMany removedNote).log.sent = [⟨"DELETE FROM note RETURNING id", []⟩] ∧
      ¬ ((∃ f ∈ Terminal.getMany.failures (b.run .getMany removedNote).result,
        f.isUnregistered = true) → (b.run .getMany removedNote).log.sent = []) := by
  have hname : ∃ f ∈ Terminal.getMany.failures
      ((unknownNotes.build [.raw removal]).run .getMany removedNote).result,
      f.isUnregistered = true := ⟨.unregisteredEntity note.key, List.mem_singleton.2 rfl, rfl⟩
  refine ⟨hname, rfl, fun h => ?_⟩
  exact absurd (h hname) (List.cons_ne_nil _ _)

end Builder

end EntitySql
