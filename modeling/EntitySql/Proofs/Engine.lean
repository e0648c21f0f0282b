import EntitySql.Engine
import EntitySql.Proofs.Session.Summary
import EntitySql.Proofs.Session.Unregistered

/-!
# Identifiers of inserted rows

An insert gives the identifier of its row, which the dialect takes from the receipt or from a row
that the statement gives back (`Builder.result_insert`).  Where there is none, the identifier is 0;
so it is for every engine that answers with nothing (`Engine.result_insert_of_empty`).

SQLite gives back what was bound in its storage classes.  The first value is an identifier if it is
an integer or a truth value, or if it is stored as null, and then the identifier is 0
(`Stored.returnedId_eq_ok`); any other value is refused (`Stored.returnedId_eq_error`).
-/

namespace EntitySql

/-! ### Inserts -/

namespace Builder

variable {e : EntityType} {α : Type} {b : Builder e}

/-- The receipt is received, and read if the table of the type has a name. -/
theorem result_forReceipt {operation : String} {read : Receipt → α} {st : Statement}
    {reply : Reply} {table : String} (h : b.table = .ok table) :
    ((Request.forReceipt operation read st).perform b.table reply).result =
      Outcome.ofDatabase (reply.toReceipt.map read) := by
  rw [h, Request.result_perform]
  show Outcome.ofDatabase (reply.toReceipt.map _) >>= id = _
  cases reply.toReceipt <;> rfl

/-- The identifier that an insert takes from a reply, 0 where there is none. -/
def identifier (b : Builder e) (reply : Reply) : Except DatabaseError Int64 :=
  match b.renderer.dialect.insertId with
  | .reported => reply.toReceipt.map fun receipt => receipt.lastId.getD 0
  | .returning | .scopeIdentity =>
    reply.toFirst >>= fun row => (Reply.firstCell b.reader.identifier? row).map (·.getD 0)

/-- An insert that is rendered gives the identifier in the reply. -/
theorem result_insert {record : Record e} {st : Statement}
    (hst : b.renderer.insert e.key [record.values] true = .ok st) (reply : Reply) :
    (b.run (.insert record) reply).result = Outcome.ofDatabase (b.identifier reply) := by
  obtain ⟨s, hs⟩ := Option.isSome_iff_exists.1 (Renderer.isRegistered_of_insert hst)
  have htable : b.table = .ok s.tableName := Renderer.table_eq_ok.2 ⟨s, hs, rfl⟩
  have hrun : b.run (.insert record) reply = (Request.forIdentifier b.renderer.dialect.insertId
      b.reader.identifier? st).perform b.table reply := by
    refine run_of_request_eq_ok ?_ reply
    rw [Terminal.request, hst]
    rfl
  rw [hrun, identifier]
  cases b.renderer.dialect.insertId with
  | reported => exact result_forReceipt htable
  | returning | scopeIdentity => exact result_forFirst htable

end Builder

/-- An engine that answers an insert with nothing leaves its identifier at 0, wherever its dialect
takes it from. -/
theorem Engine.result_insert_of_empty (engine : Engine) {e : EntityType} {b : Builder e}
    (hdialect : b.renderer.dialect = engine.dialect) {record : Record e} {st : Statement}
    (hst : b.renderer.insert e.key [record.values] true = .ok st) :
    (b.run (.insert record) { receipt := engine.emptyReceipt }).result = .ok 0 := by
  rw [Builder.result_insert hst, Builder.identifier, hdialect]
  cases engine <;> rfl

/-! ### Stored values -/

namespace Stored

/-- The value as the identifier of a row. -/
def Identifies : Value → Int64 → Prop
  | .int m, n => m = n
  | .bool b, n => n = if b then 1 else 0
  | .null, n => n = 0
  | .float x, n => x.isNaN = true ∧ n = 0
  | .text _, _ | .uuid _, _ | .timestamp _, _ => False

theorem identifier?_ofValue (v : Value) (n : Int64) :
    (ofValue v).identifier? = some n ↔ Identifies v n := by
  cases v with
  | null | bool b => exact Option.some_inj.trans eq_comm
  | int m => exact Option.some_inj
  -- a NaN is stored as null, and any other float is no identifier
  | float x =>
    rw [ofValue, Identifies]
    cases x.isNaN with
    | true => simp [identifier?, eq_comm]
    | false => simp [identifier?]
  | text s | uuid u | timestamp t => exact iff_of_false nofun id

/-- The identifier in a row of bound values is that of the first one. -/
theorem returnedId_eq_ok {values : List Value} {n : Int64} :
    returnedId (values.map ofValue) = .ok n ↔ ∃ v ∈ values.head?, Identifies v n := by
  cases values with
  | nil => exact iff_of_false nofun (by rintro ⟨v, ⟨⟩, -⟩)
  | cons v rest =>
    simp only [List.head?_cons, Option.mem_some_iff, exists_eq_left', ← identifier?_ofValue,
      List.map_cons, returnedId]
    cases (ofValue v).identifier? <;> simp

/-- Without such a value the row is refused. -/
theorem returnedId_eq_error {values : List Value} {error : DatabaseError} :
    returnedId (values.map ofValue) = .error error ↔
      (values = [] ∧ error = .columnIndexOutOfBounds 0 0) ∨
        ∃ v ∈ values.head?, (∀ n, ¬ Identifies v n) ∧ error = .columnDecode 0 := by
  cases values with
  | nil => simp [returnedId, eq_comm]
  | cons v rest =>
    simp only [List.head?_cons, Option.mem_some_iff, exists_eq_left', ← identifier?_ofValue,
      List.map_cons, returnedId]
    cases (ofValue v).identifier? <;> simp [eq_comm]

end Stored

end EntitySql
