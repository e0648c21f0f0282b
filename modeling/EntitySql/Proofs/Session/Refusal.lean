import EntitySql.Proofs.Statement.Name
import EntitySql.Proofs.Statement.Offline
import EntitySql.Session.Terminal

/-!
# Refused operations

An operation is refused before anything is sent, or its one statement is sent and nothing is refused
any more (`Builder.run_cases`).  So a refusal tells that the database has not been touched, and
everything else but a name that is not registered tells that the statement was sent
(`Builder.refused_or_sent`).

A request fails only offline (`Terminal.request_offline`).  What is received behind it fails only
with what the database reports (`Terminal.request_eq_ok`), in a stream the last record.
-/

namespace EntitySql

/-! ### Kinds of failures -/

namespace Failure

/-- Whether an operation was refused. -/
def isRefusal : Failure → Bool
  | .refused _ | .emptyBatch | .nothingToWrite | .unfiltered _ => true
  | .database _ | .unregisteredEntity _ | .unregisteredField _ => false

/-- Whether a name is not registered. -/
def isUnregistered : Failure → Bool
  | .unregisteredEntity _ | .unregisteredField _ => true
  | .refused _ | .emptyBatch | .nothingToWrite | .unfiltered _ | .database _ => false

/-- A failure that is not reported by a database is a refusal, or a name that is not registered. -/
theorem isRefusal_or_isUnregistered {f : Failure} (h : f.source? = none) :
    f.isRefusal = true ∨ f.isUnregistered = true := by
  cases f with
  | database e => cases h
  | refused _ | emptyBatch | nothingToWrite | unfiltered _ => exact Or.inl rfl
  | unregisteredEntity _ | unregisteredField _ => exact Or.inr rfl

/-- What happens behind a request is no refusal. -/
theorem not_isRefusal {f : Failure} (h : f.source?.isSome = true ∨ f.isUnregistered = true) :
    f.isRefusal = false := by
  cases f with
  | database _ | unregisteredEntity _ | unregisteredField _ => rfl
  | refused _ | emptyBatch | nothingToWrite | unfiltered _ =>
    rcases h with h | h <;> cases h

theorem not_isUnregistered {f : Failure} (h : f.source?.isSome = true) :
    f.isUnregistered = false := by
  cases f <;> first | rfl | cases h

end Failure

/-! ### What is received -/

/-- The failure of an outcome. -/
def Outcome.failures {α : Type} : Outcome α → List Failure
  | .error f => [f]
  | .ok _ => []

namespace Request

variable {α : Type}

/-- What comes of the cells fails only with what the database reports. -/
def OnlyReports (q : Request α) : Prop :=
  ∀ reply x, q.receive reply = .ok x → ∀ f ∈ x.failures, f.source?.isSome = true

theorem isSome_source?_ofDatabase (y : Except DatabaseError α) :
    ∀ f ∈ (Outcome.ofDatabase y).failures, f.source?.isSome = true := by
  cases y with
  | ok a => exact fun f hf => by cases hf
  | error e => exact List.forall_mem_singleton.2 rfl

theorem onlyReports_forRows (operation : String) (read : List ResultRow → Except DatabaseError α)
    (st : Statement) : (forRows operation read st).OnlyReports := by
  intro reply x hx
  obtain ⟨rows, -, rfl⟩ := Outcome.map_eq_ok.1 hx
  exact isSome_source?_ofDatabase (read rows)

theorem onlyReports_forFirst (operation : String)
    (read : Option ResultRow → Except DatabaseError α) (st : Statement) :
    (forFirst operation read st).OnlyReports := by
  intro reply x hx
  obtain ⟨row, -, rfl⟩ := Outcome.map_eq_ok.1 hx
  exact isSome_source?_ofDatabase (read row)

theorem onlyReports_forReceipt (operation : String) (read : Receipt → α) (st : Statement) :
    (forReceipt operation read st).OnlyReports := by
  intro reply x hx
  obtain ⟨receipt, -, rfl⟩ := Outcome.map_eq_ok.1 hx
  exact fun f hf => by cases hf

theorem onlyReports_forIdentifier (source : InsertId) (read? : Value → Option Int64)
    (st : Statement) : (forIdentifier source read? st).OnlyReports := by
  cases source with
  | reported => exact onlyReports_forReceipt _ _ st
  | returning | scopeIdentity => exact onlyReports_forFirst _ _ st

theorem statement_forIdentifier (source : InsertId) (read? : Value → Option Int64)
    (st : Statement) : (forIdentifier source read? st).statement = st := by
  cases source <;> rfl

end Request

/-- The records of a stream fail only with what the database reports. -/
theorem Reply.isSome_source?_streamed (e : EntityType) (reader : CellReader)
    (failure : Option DatabaseError) (rows : List ResultRow) :
    ∀ f ∈ (streamed e reader failure rows).flatMap Outcome.failures, f.source?.isSome = true := by
  induction rows with
  | nil =>
    cases failure with
    | none => exact fun f hf => by cases hf
    | some d => exact List.forall_mem_singleton.2 rfl
  | cons row rest ih =>
    rw [streamed]
    -- a record that is bound is no failure, and one that is not is the last item
    split
    · exact ih
    · exact List.forall_mem_singleton.2 rfl

/-! ### Requests -/

namespace Terminal

variable {e : EntityType} {α : Type} {b : Builder e}

/-- The statement that an operation renders. -/
def statement (b : Builder e) : {α : Type} → Terminal e α → Outcome Statement
  | _, .getMany | _, .stream => b.renderer.select b.query
  | _, .getOne => b.renderer.select b.query.firstRow
  | _, @value _ _ _ column => b.renderer.select (b.query.toSingleColumn column).firstRow
  | _, @pluck _ _ _ column => b.renderer.select (b.query.toSingleColumn column)
  | _, .insert record => b.renderer.insert e.key [record.values] true
  | _, .insertBatch records => b.renderer.insert e.key (records.map (·.values)) false
  | _, .update record => b.renderer.update b.query record.assignments
  | _, .delete => b.renderer.delete b.query
  | _, .increase f amount => b.renderer.update b.query [.increase f amount]
  | _, .decrease f amount => b.renderer.update b.query [.decrease f amount]
  | _, .count => b.renderer.select (b.query.toAggregate .count (.expr "*"))
  | _, @aggregate _ _ _ f column => b.renderer.select (b.query.toAggregate f column)
  | _, .exists | _, .doesntExist => b.renderer.select b.query.toExists

/-- The failures in what an operation gives back: that of the operation, or those of the records of
a stream. -/
def failures : {α : Type} → Terminal e α → Outcome α → List Failure
  | _, .stream, .ok items => items.flatMap Outcome.failures
  | _, _, x => x.failures

theorem failures_error (t : Terminal e α) (f : Failure) : t.failures (.error f) = [f] := by
  cases t <;> rfl

/-- A condition is asked for without a database. -/
theorem ensureFiltered_offline (operation : String) :
    (b.ensureFiltered operation).Offline := by
  unfold Builder.ensureFiltered
  split
  · exact .error rfl
  · exact .ok ()

theorem changeRequest_offline (operation : String) (changes : List Assignment) :
    (b.changeRequest operation changes).Offline :=
  (ensureFiltered_offline operation).bind fun _ =>
    (Renderer.update_offline b.query changes).bind fun _ => .ok _

/-- An operation without a request is refused, or names what is not registered. -/
theorem request_offline (t : Terminal e α) : (t.request b).Offline := by
  -- reading and inserting only render; changing and deleting ask for a condition first
  cases t with
  | getMany | getOne | stream | value _ | pluck _ | count | aggregate _ _ | «exists»
  | doesntExist => exact (Renderer.select_offline _).map
  | insert _ | insertBatch _ => exact (Renderer.insert_offline _ _ _).map
  | update _ | increase _ _ | decrease _ _ => exact changeRequest_offline _ _
  | delete =>
    exact (ensureFiltered_offline _).bind fun _ =>
      (Renderer.delete_offline b.query).bind fun _ => .ok _

/-- A change is rendered before it is requested. -/
theorem changeRequest_eq_ok {operation : String} {changes : List Assignment} {q : Request UInt64}
    (h : b.changeRequest operation changes = .ok q) :
    b.renderer.update b.query changes = .ok q.statement ∧ q.OnlyReports := by
  obtain ⟨-, -, h⟩ := Outcome.bind_eq_ok.1 h
  obtain ⟨st, hst, h⟩ := Outcome.bind_eq_ok.1 h
  obtain rfl := Outcome.pure_eq_ok.1 h
  exact ⟨hst, Request.onlyReports_forReceipt _ _ st⟩

/-- A request has the statement of its operation, and nothing is refused behind it. -/
theorem request_eq_ok {t : Terminal e α} {q : Request α} (h : t.request b = .ok q) :
    t.statement b = .ok q.statement ∧
      ∀ reply x, q.receive reply = .ok x → ∀ f ∈ t.failures x, f.source?.isSome = true := by
  cases t with
  | getMany | pluck _ =>
    obtain ⟨st, hst, rfl⟩ := Outcome.map_eq_ok.1 h
    exact ⟨hst, Request.onlyReports_forRows _ _ st⟩
  | getOne | value _ | count | aggregate _ _ | «exists» | doesntExist =>
    obtain ⟨st, hst, rfl⟩ := Outcome.map_eq_ok.1 h
    exact ⟨hst, Request.onlyReports_forFirst _ _ st⟩
  | stream =>
    obtain ⟨st, hst, rfl⟩ := Outcome.map_eq_ok.1 h
    refine ⟨hst, fun reply x hx => ?_⟩
    obtain rfl := Except.ok.inj hx
    exact Reply.isSome_source?_streamed e b.reader reply.failure reply.rows
  | insert record =>
    -- the dialect says whether the identifier is in the receipt or in a row
    obtain ⟨st, hst, rfl⟩ := Outcome.map_eq_ok.1 h
    rw [Request.statement_forIdentifier]
    exact ⟨hst, Request.onlyReports_forIdentifier _ _ st⟩
  | insertBatch records =>
    obtain ⟨st, hst, rfl⟩ := Outcome.map_eq_ok.1 h
    exact ⟨hst, Request.onlyReports_forReceipt _ _ st⟩
  | update _ | increase _ _ | decrease _ _ => exact changeRequest_eq_ok h
  | delete =>
    obtain ⟨-, -, h⟩ := Outcome.bind_eq_ok.1 h
    obtain ⟨st, hst, h⟩ := Outcome.bind_eq_ok.1 h
    obtain rfl := Outcome.pure_eq_ok.1 h
    exact ⟨hst, Request.onlyReports_forReceipt _ _ st⟩

end Terminal

/-! ### Runs -/

namespace Builder

variable {e : EntityType} {α : Type} (b : Builder e) (t : Terminal e α) (reply : Reply)

/-- Counting fails only where the table of the type is not registered. -/
theorem failures_count {q : Request α} {x : Outcome α} {f : Failure}
    (h : f ∈ t.failures (q.count b.table x).result) :
    f ∈ t.failures x ∨ f.isUnregistered = true ∧ b.renderer.catalog.isRegistered e.key = false := by
  unfold Request.count at h
  -- a request that is not counted keeps its result, and so does one whose table is there
  split at h
  · split at h
    next g hg =>
      rw [Terminal.failures_error] at h
      obtain rfl := List.mem_singleton.1 h
      obtain ⟨hkey, rfl⟩ := Renderer.table_eq_error.1 hg
      exact Or.inr ⟨rfl, by rw [Catalog.isRegistered, hkey, Option.isSome_none]⟩
    next => exact Or.inl h
  · exact Or.inl h

/-- An operation stops before its statement is there, or sends it and is refused no more. -/
theorem run_cases :
    (∃ f, b.run t reply = ⟨.error f, {}⟩ ∧ f.source? = none) ∨
      ∃ st, t.statement b = .ok st ∧ (b.run t reply).log.sent = [st] ∧
        ∀ f ∈ t.failures (b.run t reply).result, f.source?.isSome = true ∨
          f.isUnregistered = true ∧ b.renderer.catalog.isRegistered e.key = false := by
  cases hq : t.request b with
  | error f =>
    exact Or.inl ⟨f, run_of_request_eq_error hq reply, Terminal.request_offline t f hq⟩
  | ok q =>
    obtain ⟨hst, hreceived⟩ := Terminal.request_eq_ok hq
    have hrun := run_of_request_eq_ok hq reply
    refine Or.inr ⟨q.statement, hst, ?_, fun f hf => ?_⟩
    · rw [hrun, Request.sent_perform]
    · rw [hrun, Request.perform] at hf
      -- a broken reply is reported by the database; what is received is only counted after that
      cases hx : q.receive reply with
      | error d =>
        rw [hx, Terminal.failures_error] at hf
        obtain rfl := List.mem_singleton.1 hf
        exact Or.inl rfl
      | ok x =>
        rw [hx] at hf
        exact (failures_count b t hf).imp_left (hreceived reply x hx f)

/-- A refused operation has sent, traced and counted nothing, and for a registered type neither has
one that met a name that is not registered.  Any other operation has sent the statement that it
renders, and only this one. -/
theorem refused_or_sent :
    ((∃ f ∈ t.failures (b.run t reply).result, f.isRefusal = true) →
      (b.run t reply).log = {}) ∧
    (b.renderer.catalog.isRegistered e.key = true →
      (∃ f ∈ t.failures (b.run t reply).result, f.isUnregistered = true) →
      (b.run t reply).log = {}) ∧
    ((∀ f ∈ t.failures (b.run t reply).result, f.isRefusal = false ∧ f.isUnregistered = false) →
      ∃ st, t.statement b = .ok st ∧ (b.run t reply).log.sent = [st]) := by
  rcases run_cases b t reply with ⟨f, hrun, hf⟩ | ⟨st, hst, hsent, hfailures⟩
  · -- nothing was sent, and the failure is a refusal or a name
    rw [hrun, Terminal.failures_error]
    refine ⟨fun _ => rfl, fun _ _ => rfl, fun hnone => ?_⟩
    obtain ⟨hrefusal, hunregistered⟩ := hnone f (List.mem_singleton.2 rfl)
    rcases Failure.isRefusal_or_isUnregistered hf with h | h
    · exact absurd h (Bool.eq_false_iff.1 hrefusal)
    · exact absurd h (Bool.eq_false_iff.1 hunregistered)
  · -- behind the statement there is no refusal, and no name but that of the type
    refine ⟨?_, ?_, fun _ => ⟨st, hst, hsent⟩⟩
    · rintro ⟨f, hf, hrefusal⟩
      have hlater := (hfailures f hf).imp_right And.left
      exact absurd hrefusal (Bool.eq_false_iff.1 (Failure.not_isRefusal hlater))
    · rintro hkey ⟨f, hf, hunregistered⟩
      rcases hfailures f hf with hreported | ⟨-, hmissing⟩
      · exact absurd hunregistered (Bool.eq_false_iff.1 (Failure.not_isUnregistered hreported))
      · exact absurd hkey (Bool.eq_false_iff.1 hmissing)

/-! #### Notes -/

/-- A type with one field. -/
def note : EntityType where
  modulePath := "app"
  mapping := { typeName := "Note", fields := [⟨"id", .presence .int64, "id", none, ""⟩] }
  unmapped := ()

/-- The query over all notes. -/
def notes : Builder note where
  renderer := ⟨Catalog.empty.register note.schema, .sqlite⟩

/-- The identifier of a note. -/
def noteId : ColumnRef := .field none ⟨"app::Note", "id"⟩

/-- The query over the note number 7. -/
def seventhNote : Builder note := notes.build [.whereValue noteId .eq (.int 7)]

/-- Not all notes are deleted; and what the database makes of it or not, the deletion of one of them
is sent. -/
theorem refused_or_sent_notes :
    (notes.run .delete {}).log = {} ∧
    (seventhNote.run .delete { failure := some (.protocol "gone") }).log.sent =
      [⟨"DELETE FROM note WHERE id = ?", [.int 7]⟩] := by
  obtain ⟨hrefused, -, -⟩ := refused_or_sent notes .delete {}
  obtain ⟨-, -, hsent⟩ := refused_or_sent seventhNote .delete { failure := some (.protocol "gone") }
  constructor
  · exact hrefused ⟨.unfiltered "delete", List.mem_singleton.2 rfl, rfl⟩
  · obtain ⟨st, hst, hone⟩ := hsent (List.forall_mem_singleton.2 ⟨rfl, rfl⟩)
    obtain rfl : ⟨"DELETE FROM note WHERE id = ?", [.int 7]⟩ = st := Except.ok.inj hst
    exact hone

end Builder

end EntitySql
