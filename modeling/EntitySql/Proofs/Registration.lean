import EntitySql.Proofs.Schema.LookUp
import EntitySql.Proofs.Statement.Name

/-!
# Registration and look-up

A catalog is used by calls: each of them registers a schema or looks something up
(`Catalog.Call`).  A look-up of what is not there fails, and the next call finds the catalog as it
was.

Of the schemas that are registered under one key the first one stays (`schema?_registerAll`), and
every answer comes from the schemas under the keys (`answer_congr`).  Hence what is resolved once
stays so (`Catalog.Extends`), and schemas of different keys may be registered in any order
(`answers_congr`).  `Catalog.answers_of_first` puts this together for all sequences of calls.
-/

namespace EntitySql

/-! ### Calls -/

/-- A question to a catalog.  All but the first two fail if there is nothing to find. -/
inductive LookUp where
  | isRegistered (key : EntityKey)
  | tryResolve (f : Field)
  | resolve (f : Field)
  | table (key : EntityKey)
  | schema (key : EntityKey)
deriving DecidableEq, Repr, Inhabited

/-- What is found. -/
inductive Answer where
  | registered (b : Bool)
  | resolvable (c : Option ResolvedColumn)
  | resolved (c : ResolvedColumn)
  | table (name : String)
  | schema (s : Schema)
deriving DecidableEq, Repr, Inhabited

/-- The answer to a question, or the name that is not registered. -/
def Renderer.answer (r : Renderer) : LookUp → Outcome Answer
  | .isRegistered key => .ok (.registered (r.catalog.isRegistered key))
  | .tryResolve f => .ok (.resolvable (r.catalog.resolve? f))
  | .resolve f => (r.resolve f).map .resolved
  | .table key => (r.table key).map .table
  | .schema key => (r.schema key).map .schema

namespace Catalog

/-- One use of a catalog. -/
inductive Call where
  | register (s : Schema)
  | lookUp (l : LookUp)
deriving DecidableEq, Repr, Inhabited

/-- The schema that a call registers. -/
def Call.schema? : Call → Option Schema
  | .register s => some s
  | .lookUp _ => none

/-- The schemas that calls register, in order. -/
def registrations (calls : List Call) : List Schema := calls.filterMap Call.schema?

/-- The catalog after a call. -/
def next (c : Catalog) : Call → Catalog
  | .register s => c.register s
  | .lookUp _ => c

/-- The catalog after calls, one after the other. -/
def after (c : Catalog) (calls : List Call) : Catalog := calls.foldl next c

/-- The answers to the look-ups among calls, in order. -/
def answers (dialect : Dialect) : Catalog → List Call → List (Outcome Answer)
  | _, [] => []
  | c, .register s :: rest => answers dialect (c.register s) rest
  | c, .lookUp l :: rest => Renderer.answer ⟨c, dialect⟩ l :: answers dialect c rest

variable {c c' : Catalog}

theorem after_cons (x : Call) (calls : List Call) :
    c.after (x :: calls) = (c.next x).after calls := rfl

/-- Look-ups leave no trace. -/
theorem after_eq_registerAll (calls : List Call) :
    c.after calls = c.registerAll (registrations calls) := by
  induction calls generalizing c with
  | nil => rfl
  | cons x calls ih =>
    rw [after_cons, ih]
    cases x <;> rfl

/-! ### The first schema of a key -/

theorem schema?_registerAll (ss : List Schema) (key : EntityKey) :
    (c.registerAll ss).schema? key = (c.schema? key).or (ss.find? (·.key == key)) := by
  induction ss generalizing c with
  | nil => rw [List.find?_nil, Option.or_none]; rfl
  | cons s ss ih =>
    rw [show c.registerAll (s :: ss) = (c.register s).registerAll ss from rfl, ih,
      schema?_register, Option.or_assoc, List.find?_cons]
    -- a key that is there keeps its schema, so the first one is what counts
    by_cases hkey : s.key = key
    · rw [if_pos hkey, beq_iff_eq.2 hkey, Option.some_or]
    · rw [if_neg hkey, beq_false_of_ne hkey, Option.none_or]

/-- Every key has the first schema that was registered under it. -/
theorem schema?_after_empty (calls : List Call) (key : EntityKey) :
    (empty.after calls).schema? key = (registrations calls).find? (·.key == key) := by
  rw [after_eq_registerAll, schema?_registerAll, schema?_empty, Option.none_or]

/-- A second registration does nothing. -/
theorem register_of_isRegistered {s : Schema} (h : c.isRegistered s.key = true) :
    c.register s = c := if_pos h

theorem resolve?_eq_some {f : Field} {x : ResolvedColumn} :
    c.resolve? f = some x ↔ ∃ s, c.schema? f.entity = some s ∧
      ∃ d, s.columns.reverse.find? (·.field == f.name) = some d ∧
        ⟨s.tableName, d.columnName⟩ = x := by
  simp only [resolve?, Option.bind_eq_bind, Option.pure_def, Option.bind_eq_some_iff,
    Option.some.injEq]

/-! ### Growing catalogs -/

/-- What is registered in the one catalog is registered in the other. -/
def Extends (c c' : Catalog) : Prop := ∀ key s, c.schema? key = some s → c'.schema? key = some s

namespace Extends

theorem refl (c : Catalog) : c.Extends c := fun _ _ h => h

theorem trans {c'' : Catalog} (h : c.Extends c') (h' : c'.Extends c'') : c.Extends c'' :=
  fun key s hs => h' key s (h key s hs)

theorem next (c : Catalog) (x : Call) : c.Extends (c.next x) := by
  cases x with
  | register s =>
    intro key t ht
    rw [Catalog.next, schema?_register, ht, Option.some_or]
  | lookUp l => exact refl c

theorem after (c : Catalog) (calls : List Call) : c.Extends (c.after calls) := by
  induction calls generalizing c with
  | nil => exact refl c
  | cons x calls ih => exact (next c x).trans (ih (c.next x))

/-- What is resolved stays so. -/
theorem resolve? (h : c.Extends c') {f : Field} {x : ResolvedColumn} (hx : c.resolve? f = some x) :
    c'.resolve? f = some x := by
  obtain ⟨s, hs, hd⟩ := resolve?_eq_some.1 hx
  exact resolve?_eq_some.2 ⟨s, h _ s hs, hd⟩

end Extends

/-! ### Catalogs that answer alike -/

/-- The schemas under the keys decide every answer. -/
theorem answer_congr (h : ∀ key, c.schema? key = c'.schema? key) (dialect : Dialect) (l : LookUp) :
    Renderer.answer ⟨c, dialect⟩ l = Renderer.answer ⟨c', dialect⟩ l := by
  cases l with
  | isRegistered key => simp only [Renderer.answer, isRegistered, h]
  | tryResolve f => simp only [Renderer.answer, resolve?, h]
  | resolve f => simp only [Renderer.answer, Renderer.resolve, resolve?, h]
  | table key => simp only [Renderer.answer, Renderer.table, Renderer.schema, h]
  | schema key => simp only [Renderer.answer, Renderer.schema, h]

theorem answers_congr (h : ∀ key, c.schema? key = c'.schema? key) (dialect : Dialect)
    (calls : List Call) : c.answers dialect calls = c'.answers dialect calls := by
  induction calls generalizing c c' with
  | nil => rfl
  | cons x calls ih =>
    cases x with
    | register s =>
      refine ih fun key => ?_
      rw [schema?_register, schema?_register, h]
    | lookUp l => rw [answers, answers, answer_congr h, ih h]

/-! ### Sequences of calls -/

/-- After any calls a catalog answers from the first schema of each key: it resolves the fields that
the schema has, to its table and to their columns, and names its table.  Later calls keep what is
resolved, a second registration under a key does nothing, and calls that register the schemas of
each key in the same order lead to the same answers. -/
theorem answers_of_first (dialect : Dialect) (calls : List Call)
    (hfields : ∀ s ∈ registrations calls, (s.columns.map (·.field)).Nodup) :
    let c := empty.after calls
    let r : Renderer := ⟨c, dialect⟩
    let first := fun key : EntityKey => (registrations calls).find? (·.key == key)
    (∀ key, c.schema? key = first key) ∧
    (∀ f x, c.resolve? f = some x ↔ ∃ s, first f.entity = some s ∧
      ∃ d, s.column? f.name = some d ∧ ⟨s.tableName, d.columnName⟩ = x) ∧
    (∀ f x, r.resolve f = .ok x ↔ c.resolve? f = some x) ∧
    (∀ key t, r.table key = .ok t ↔ ∃ s, first key = some s ∧ s.tableName = t) ∧
    (∀ key s, r.schema key = .ok s ↔ first key = some s) ∧
    (∀ more f x, c.resolve? f = some x → (c.after more).resolve? f = some x) ∧
    (∀ s ∈ registrations calls, ∀ t : Schema, t.key = s.key → c.next (.register t) = c) ∧
    ∀ others, (∀ key, (registrations others).filter (·.key == key) =
        (registrations calls).filter (·.key == key)) →
      ∀ more, (empty.after others).answers dialect more = c.answers dialect more := by
  intro c r first
  have hfirst : ∀ key, c.schema? key = first key := schema?_after_empty calls
  refine ⟨hfirst, fun f x => ?_, fun f x => Renderer.resolve_eq_ok, fun key t => ?_,
    fun key s => ?_, fun more f x hx => (Extends.after c more).resolve? hx, fun s hs t ht => ?_,
    fun others hothers more => ?_⟩
  · rw [resolve?_eq_some, hfirst]
    refine exists_congr fun s => and_congr_right fun hs => exists_congr fun d => and_congr_left' ?_
    -- with one column for each field it does not matter which end the search begins at
    have hnodup := hfields s (List.mem_of_find?_eq_some hs)
    rw [Schema.column?, find?_reverse_of_nodup hnodup]
  · rw [Renderer.table_eq_ok, hfirst]
  · rw [Renderer.schema_eq_ok, hfirst]
  · refine register_of_isRegistered ?_
    rw [isRegistered, hfirst, ht]
    exact List.find?_isSome.2 ⟨s, hs, beq_self_eq_true s.key⟩
  · -- other calls in the same order for each key have the same first schema there
    refine answers_congr (fun key => ?_) dialect more
    rw [schema?_after_empty, hfirst, ← List.head?_filter, hothers, List.head?_filter]

/-! #### People and pets -/

/-- A person with a full name in a column of its own. -/
def people : Schema where
  key := "Person"
  typeName := "Person"
  columns := [{ field := "id" }, { field := "full_name", column := some "name" }]

/-- Another type under the key of people. -/
def strangers : Schema := { people with table := some "strangers", columns := [{ field := "id" }] }

/-- A table without fields. -/
def pets : Schema where
  key := "Pet"
  typeName := "Pet"
  table := some "pets"

/-- Look-ups that fail between the registrations. -/
def mixedCalls : List Call :=
  [.lookUp (.table "Person"), .register people, .register strangers,
    .lookUp (.resolve ⟨"Pet", "age"⟩), .register pets]

/-- A name is found in its column whatever else is registered, and pets may come first. -/
theorem answers_of_first_people :
    empty.answers .sqlite mixedCalls =
      [.error (.unregisteredEntity "Person"), .error (.unregisteredField ⟨"Pet", "age"⟩)] ∧
    (∀ more, ((empty.after mixedCalls).after more).resolve? ⟨"Person", "full_name"⟩ =
      some ⟨"person", "name"⟩) ∧
    ∀ more, (empty.after [.register pets, .register people, .register strangers]).answers .sqlite
      more = (empty.after mixedCalls).answers .sqlite more := by
  obtain ⟨-, hresolve, -, -, -, hkept, -, hsame⟩ := answers_of_first .sqlite mixedCalls (by decide)
  have hname : (empty.after mixedCalls).resolve? ⟨"Person", "full_name"⟩ =
      some ⟨"person", "name"⟩ :=
    (hresolve _ _).2 ⟨people, rfl, ⟨"full_name", some "name", ""⟩, rfl, rfl⟩
  refine ⟨rfl, fun more => hkept more _ _ hname, hsame _ fun key => ?_⟩
  show (pets :: [people, strangers]).filter (·.key == key) =
    ([people, strangers] ++ [pets]).filter (·.key == key)
  rw [List.filter_append]
  by_cases hpet : key = "Pet"
  · rw [hpet]
    decide
  · have hpets : (pets.key == key) = false := beq_false_of_ne (Ne.symm hpet)
    have hnone : [pets].filter (·.key == key) = [] := by rw [List.filter_singleton, hpets]; rfl
    rw [show pets :: [people, strangers] = [pets] ++ [people, strangers] from rfl,
      List.filter_append, hnone, List.nil_append, List.append_nil]

end Catalog

end EntitySql
