import EntitySql.Proofs.Placeholder.Resumed
import EntitySql.Proofs.Statement.Command
import EntitySql.Proofs.Statement.Name

/-!
# The filter of reads and writes

A deletion, an update and a plain selection take the same two things from a query: its table, and
the `WHERE` clause of its conditions (`Renderer.scope`).  Each of them is its own start of a
statement with these two behind it (`delete_eq_scope`, `select_filtered_eq_scope`,
`update_eq_scope`), so they are refused for the same reason, and otherwise filter by the same text
with the same parameters (`filter_shared`).

The text is also the same where placeholders are numbered: no start that ends with the table has a
placeholder of its own, so the clause begins at the same place behind each of them
(`Dialect.number_start`).
-/

namespace EntitySql

/-! ### Starts of statements -/

namespace Placeholder.Place

theorem behind_append (p : Place) (s t : String) : p.behind (s ++ t) = (p.behind s).behind t := by
  simp only [behind, String.toList_append, after_append, count_append, Nat.add_assoc]

end Placeholder.Place

namespace Dialect

open Placeholder

variable (d : Dialect)

/-- Without numbers a text stays as it is. -/
theorem number_of_unnumbered (h : d.numbered = false) (s : String) : d.number s = s := by
  rw [number, h, if_neg Bool.false_ne_true]

/-- A text with no placeholder of its own stays as it is. -/
theorem number_of_count_eq_zero {s : String} (h : d.numbered = true → count none s.toList = 0) :
    d.number s = s := by
  cases hnumbered : d.numbered with
  | false => exact d.number_of_unnumbered hnumbered s
  | true =>
    rw [number, hnumbered, if_pos rfl, Placeholder.number_of_count_eq_zero _ _ _ (h hnumbered),
      String.ofList_toList]

/-- Behind a keyword the numbers begin where they begin without it. -/
theorem number_start {keyword : String} (hplace : ({} : Place).behind keyword = {})
    (hmark : '?' ∉ keyword.toList) (table rest : String) :
    d.number (keyword ++ table ++ rest) =
      keyword ++ d.number table ++ d.numberFrom (({} : Place).behind table) rest := by
  have hkeyword : d.numberFrom {} keyword = keyword := d.numberFrom_of_not_mem hmark
  rw [number_eq_numberFrom, number_eq_numberFrom, numberFrom_append, numberFrom_append,
    Place.behind_append, hplace, hkeyword]

end Dialect

/-! ### Changes -/

/-- What stands for a value that is written: `NULL` in the text, or a placeholder. -/
def Value.mark (v : Value) : String := if v.isNull then "NULL" else "?"

/-- The value as a parameter; null is in the text. -/
def Value.bound? (v : Value) : Option Value := if v.isNull then none else some v

namespace Assignment

/-- The field that is changed. -/
def field : Assignment → Field
  | .set f _ | .increase f _ | .decrease f _ => f

/-- The value that a change binds; a field that is set to null binds nothing. -/
def bound? : Assignment → Option Value
  | .set _ v => v.bound?
  | .increase _ v | .decrease _ v => some v

/-- The text of a change of a column. -/
def text (column : String) : Assignment → String
  | .set _ v => column ++ " = " ++ v.mark
  | .increase _ _ => column ++ " = " ++ column ++ " + ?"
  | .decrease _ _ => column ++ " = " ++ column ++ " - ?"

end Assignment

namespace Renderer

variable (r : Renderer)

/-- A change is rendered if its field is registered. -/
theorem assignment_eq (change : Assignment) :
    r.assignment change =
      (r.resolve change.field).map fun c => ⟨change.text c.column, change.bound?.toList⟩ := by
  -- the change is put together from two texts, and its text is one
  have hmarked : ∀ (s t : String) (v : Value),
      (⟨s ++ t, []⟩ : Fragment) ++ .placeholder v = ⟨s ++ (t ++ "?"), [v]⟩ := by
    intro s t v
    exact congrArg (Fragment.mk · [v]) String.append_assoc
  cases change with
  | set f v =>
    rw [assignment, Assignment.field]
    cases r.resolve f with
    | error e => rfl
    | ok c =>
      apply congrArg Except.ok
      cases hv : v.isNull with
      | true =>
        simp only [hv, if_true, Assignment.text, Assignment.bound?, Value.mark, Value.bound?,
          String.append_assoc]
        rfl
      | false =>
        simp only [hv, Bool.false_eq_true, if_false, Assignment.text, Assignment.bound?, Value.mark,
          Value.bound?, String.append_assoc]
        exact hmarked c.column " = " v
  | increase f v =>
    rw [assignment, Assignment.field]
    cases r.resolve f with
    | error e => rfl
    | ok c => exact congrArg Except.ok (hmarked (c.column ++ " = " ++ c.column) " + " v)
  | decrease f v =>
    rw [assignment, Assignment.field]
    cases r.resolve f with
    | error e => rfl
    | ok c => exact congrArg Except.ok (hmarked (c.column ++ " = " ++ c.column) " - " v)

/-- Changes of registered fields have a text. -/
theorem exists_assignments_iff {changes : List Assignment} :
    (∃ set, changes.mapM r.assignment = .ok set) ↔
      ∀ change ∈ changes, ∃ c, r.resolve change.field = .ok c := by
  constructor
  · rintro ⟨set, hset⟩ change hchange
    obtain ⟨f, hf⟩ := Outcome.exists_of_mapM_eq_ok hset hchange
    rw [r.assignment_eq] at hf
    obtain ⟨c, hc, -⟩ := Outcome.map_eq_ok.1 hf
    exact ⟨c, hc⟩
  · intro h
    apply Outcome.exists_mapM
    intro change hchange
    obtain ⟨c, hc⟩ := h change hchange
    rw [r.assignment_eq, hc]
    exact ⟨_, rfl⟩

/-- The list of changes binds what the changes do, in order. -/
theorem params_assignments {changes : List Assignment} {set : List Fragment}
    (h : changes.mapM r.assignment = .ok set) :
    (Fragment.join ", " set).params = changes.filterMap Assignment.bound? := by
  have hall := Outcome.mapM_eq_ok.1 h
  rw [Fragment.params_join]
  -- on how the list was rendered, change by change
  clear h
  induction hall with
  | nil => rfl
  | @cons change f changes set hf _ ih =>
    rw [r.assignment_eq] at hf
    obtain ⟨c, -, rfl⟩ := Outcome.map_eq_ok.1 hf
    rw [List.flatMap_cons, ih]
    cases hbound : change.bound? with
    | none => rw [List.filterMap_cons_none hbound]; rfl
    | some v => rw [List.filterMap_cons_some hbound]; rfl

/-! ### The scope of a write -/

/-- What a write takes from its query: the table and the `WHERE` clause. -/
def scope (q : Query) : Outcome (String × Fragment) := do
  let table ← r.table q.clauses.table
  let filter ← r.whereClause (r.opened q)
  return (table, filter)

variable {r}

theorem scope_eq_ok {q : Query} {table : String} {filter : Fragment} :
    r.scope q = .ok (table, filter) ↔
      r.table q.clauses.table = .ok table ∧ r.whereClause (r.opened q) = .ok filter := by
  show (r.table q.clauses.table >>= fun table => r.whereClause (r.opened q) >>=
    fun filter => pure (table, filter)) = _ ↔ _
  simp only [Outcome.bind_eq_ok, Outcome.pure_eq_ok, Prod.mk.injEq]
  constructor
  · rintro ⟨_, htable, _, hfilter, rfl, rfl⟩
    exact ⟨htable, hfilter⟩
  · rintro ⟨htable, hfilter⟩
    exact ⟨table, htable, filter, hfilter, rfl, rfl⟩

section

variable {q q' : Query} (htable : q'.clauses.table = q.clauses.table)
  (hwheres : q'.clauses.wheres = q.clauses.wheres)
include htable hwheres

theorem whereClause_congr : r.whereClause (r.opened q') = r.whereClause (r.opened q) := by
  have hfiltered : q'.filtered = q.filtered := by
    rw [Query.filtered, Query.filtered, htable, hwheres]
  rw [r.whereClause_filtered q', r.whereClause_filtered q, hfiltered]

/-- Nothing but the table and the conditions of a query counts for a deletion. -/
theorem delete_congr_of_scope : r.delete q' = r.delete q := by
  rw [delete, delete, deleteFragment, deleteFragment, htable, whereClause_congr htable hwheres]

/-- Nothing but the table and the conditions of a query counts for an update. -/
theorem update_congr_of_scope (changes : List Assignment) :
    r.update q' changes = r.update q changes := by
  rw [update, update, updateFragment, updateFragment, htable, whereClause_congr htable hwheres]

end

theorem delete_eq_scope (q : Query) :
    r.delete q = (r.scope q).map fun s => r.finish (⟨"DELETE FROM " ++ s.1, []⟩ ++ s.2) := by
  rw [delete, deleteFragment, scope]
  cases r.table q.clauses.table with
  | error f => rfl
  | ok table => cases r.whereClause (r.opened q) <;> rfl

/-- The rows of a query that has nothing but a scope. -/
theorem source_filtered (q : Query) : r.source (r.opened q.filtered) =
    (r.scope q).map fun s => (⟨" FROM " ++ s.1, []⟩ : Fragment) ++ s.2 := by
  have htable : r.tableText (r.opened q.filtered).table (r.opened q.filtered).aliasName =
      r.table q.clauses.table := by
    show (r.table q.clauses.table).map (· ++ "") = _
    cases r.table q.clauses.table with
    | error f => rfl
    | ok table => exact congrArg Except.ok String.append_empty
  rw [source, htable, scope, r.whereClause_filtered q]
  cases r.table q.clauses.table with
  | error f => rfl
  | ok table =>
    cases r.whereClause (r.opened q.filtered) with
    | error f => rfl
    | ok filter =>
      -- no joins, no groups and no conditions on them
      show Except.ok ((⟨" FROM " ++ table ++ "", []⟩ : Fragment) ++ filter ++ .empty ++ .empty) = _
      rw [String.append_empty, Fragment.append_empty, Fragment.append_empty]
      rfl

/-- The selection of everything in the rows has no other clause. -/
theorem select_filtered_eq_scope (q : Query) :
    r.select q.filtered =
      (r.scope q).map fun s => r.finish (⟨"SELECT * FROM " ++ s.1, []⟩ ++ s.2) := by
  have hstart : ∀ table : String,
      (⟨"SELECT ", []⟩ : Fragment) ++ ⟨"*", []⟩ ++ ⟨" FROM " ++ table, []⟩ =
        ⟨"SELECT * FROM " ++ table, []⟩ := by
    intro table
    show Fragment.mk ("SELECT " ++ "*" ++ (" FROM " ++ table)) [] = _
    rw [← String.append_assoc]
    rfl
  have hquery : r.query q.filtered =
      (r.scope q).map fun s => (⟨"SELECT * FROM " ++ s.1, []⟩ : Fragment) ++ s.2 := by
    rw [Query.filtered, r.query_eq_selectLevel rfl]
    show (r.source (r.opened q.filtered) >>= fun rows =>
      pure ((⟨"SELECT ", []⟩ : Fragment) ++ ⟨"*", []⟩ ++ rows ++ .empty ++ .empty ++ .empty)) = _
    rw [source_filtered]
    cases r.scope q with
    | error f => rfl
    | ok s =>
      show Except.ok ((⟨"SELECT ", []⟩ : Fragment) ++ ⟨"*", []⟩ ++
        (⟨" FROM " ++ s.1, []⟩ ++ s.2) ++ .empty ++ .empty ++ .empty) = _
      -- neither an order nor a page nor a lock is left
      simp only [Fragment.append_empty]
      rw [← Fragment.append_assoc, hstart]
      rfl
  show (r.query q.filtered).map r.finish = _
  rw [hquery]
  cases r.scope q <;> rfl

theorem update_eq_scope {q : Query} {changes : List Assignment} (hne : changes ≠ [])
    {set : List Fragment} (hset : changes.mapM r.assignment = .ok set) :
    r.update q changes = (r.scope q).map fun s =>
      r.finish (⟨"UPDATE " ++ s.1 ++ " SET ", []⟩ ++ Fragment.join ", " set ++ s.2) := by
  obtain ⟨change, changes, rfl⟩ := List.exists_cons_of_ne_nil hne
  show (r.table q.clauses.table >>= fun table => (change :: changes).mapM r.assignment >>=
    fun set => r.whereClause (r.opened q) >>= fun filter => pure _).map r.finish = _
  rw [hset, scope]
  cases r.table q.clauses.table with
  | error f => rfl
  | ok table => cases r.whereClause (r.opened q) <;> rfl

/-- An update is rendered if there are changes, of registered fields, and its scope is. -/
theorem exists_update_iff {q : Query} {changes : List Assignment} (hne : changes ≠ [])
    {s : String × Fragment} (hs : r.scope q = .ok s) :
    (∃ st, r.update q changes = .ok st) ↔
      ∀ change ∈ changes, ∃ c, r.resolve change.field = .ok c := by
  rw [← r.exists_assignments_iff]
  constructor
  · rintro ⟨st, hst⟩
    obtain ⟨f, hf, -⟩ := Outcome.map_eq_ok.1 hst
    obtain ⟨-, -, -, set, hset, -⟩ := r.updateFragment_eq_ok.1 hf
    exact ⟨set, hset⟩
  · rintro ⟨set, hset⟩
    rw [update_eq_scope hne hset, hs]
    exact ⟨_, rfl⟩

/-! ### One filter -/

/-- A finished statement whose start has no placeholders in front of the table. -/
theorem finish_start {keyword : String}
    (hplace : ({} : Placeholder.Place).behind keyword = {}) (hmark : '?' ∉ keyword.toList)
    (table : String) (filter : Fragment) :
    r.finish (⟨keyword ++ table, []⟩ ++ filter) =
      ⟨keyword ++ r.dialect.number table ++
          r.dialect.numberFrom (({} : Placeholder.Place).behind table) filter.text,
        filter.params⟩ := by
  show Statement.mk (r.dialect.number (keyword ++ table ++ filter.text)) ([] ++ filter.params) = _
  rw [r.dialect.number_start hplace hmark, List.nil_append]

/-- What an update binds, and how it ends where placeholders are not numbered. -/
theorem update_filter {q : Query} {table : String} {filter : Fragment}
    (hscope : r.scope q = .ok (table, filter)) {changes : List Assignment} (hne : changes ≠ [])
    {st : Statement} (hst : r.update q changes = .ok st) :
    st.params = changes.filterMap Assignment.bound? ++ filter.params ∧
      (r.dialect.numbered = false → ∃ set, changes.mapM r.assignment = .ok set ∧
        st.sql = "UPDATE " ++ table ++ " SET " ++ ", ".intercalate (set.map (·.text)) ++
          filter.text) := by
  have hfields := (exists_update_iff hne hscope).1 ⟨st, hst⟩
  obtain ⟨set, hset⟩ := r.exists_assignments_iff.2 hfields
  rw [update_eq_scope hne hset, hscope] at hst
  obtain rfl := Except.ok.inj hst
  constructor
  · show [] ++ (Fragment.join ", " set).params ++ filter.params = _
    rw [List.nil_append, r.params_assignments hset]
  · intro hnumbered
    refine ⟨set, hset, ?_⟩
    show r.dialect.number (_ ++ (Fragment.join ", " set).text ++ filter.text) = _
    rw [r.dialect.number_of_unnumbered hnumbered, Fragment.text_join]

/-- **One filter** for reads and writes.

A deletion and the selection of everything in the same rows are refused for the same reason, or both
are the table behind their own keywords, with the same `WHERE` clause and the same parameters.  An
update binds what its changes bind in front of these parameters, and without numbers it ends with
the same clause.  Nothing else of a query counts for a deletion or an update. -/
theorem filter_shared (r : Renderer) (q : Query) :
    ((∃ f, r.delete q = .error f ∧ r.select q.filtered = .error f ∧
        ∀ changes, changes ≠ [] → (∀ change ∈ changes, ∃ c, r.resolve change.field = .ok c) →
          r.update q changes = .error f) ∨
      ∃ table clause params, r.table q.clauses.table = .ok table ∧
        r.delete q = .ok ⟨"DELETE FROM " ++ r.dialect.number table ++ clause, params⟩ ∧
        r.select q.filtered =
          .ok ⟨"SELECT * FROM " ++ r.dialect.number table ++ clause, params⟩ ∧
        ((r.dialect.numbered = true → Placeholder.count none table.toList = 0) →
          r.dialect.number table = table) ∧
        ∀ changes, changes ≠ [] →
          ((∃ st, r.update q changes = .ok st) ↔
            ∀ change ∈ changes, ∃ c, r.resolve change.field = .ok c) ∧
          ∀ st, r.update q changes = .ok st →
            st.params = changes.filterMap Assignment.bound? ++ params ∧
            (r.dialect.numbered = false → ∃ set, changes.mapM r.assignment = .ok set ∧
              st.sql = "UPDATE " ++ table ++ " SET " ++ ", ".intercalate (set.map (·.text)) ++
                clause)) ∧
    ∀ q' : Query, q'.clauses.table = q.clauses.table → q'.clauses.wheres = q.clauses.wheres →
      r.delete q' = r.delete q ∧ ∀ changes, r.update q' changes = r.update q changes := by
  refine ⟨?_, fun q' htable hwheres =>
    ⟨delete_congr_of_scope htable hwheres, update_congr_of_scope htable hwheres⟩⟩
  cases hscope : r.scope q with
  | error f =>
    refine Or.inl ⟨f, ?_, ?_, ?_⟩
    · rw [delete_eq_scope, hscope]
      rfl
    · rw [select_filtered_eq_scope, hscope]
      rfl
    · intro changes hne hfields
      obtain ⟨set, hset⟩ := r.exists_assignments_iff.2 hfields
      rw [update_eq_scope hne hset, hscope]
      rfl
  | ok s =>
    obtain ⟨table, filter⟩ := s
    have htable : r.table q.clauses.table = .ok table := (scope_eq_ok.1 hscope).1
    -- the place behind the table is the one behind `DELETE FROM` and the table
    refine Or.inr ⟨table, r.dialect.numberFrom (({} : Placeholder.Place).behind table) filter.text,
      filter.params, htable, ?_, ?_, r.dialect.number_of_count_eq_zero, ?_⟩
    · rw [delete_eq_scope, hscope]
      exact congrArg Except.ok (finish_start (by decide) (by decide) table filter)
    · rw [select_filtered_eq_scope, hscope]
      exact congrArg Except.ok (finish_start (by decide) (by decide) table filter)
    · intro changes hne
      refine ⟨exists_update_iff hne hscope, ?_⟩
      intro st hst
      obtain ⟨hparams, hsql⟩ := update_filter hscope hne hst
      refine ⟨hparams, ?_⟩
      intro hnumbered
      -- without numbers the place of the clause in the text does not matter
      have hclause : r.dialect.numberFrom (({} : Placeholder.Place).behind table) filter.text =
          filter.text := by
        rw [Dialect.numberFrom, hnumbered, if_neg Bool.false_ne_true]
      rw [hclause]
      exact hsql hnumbered

/-- A page of the amounts above a bound, in order and locked. -/
def pageAbove (bound : Value) : Query :=
  .of { table := "Order", wheres := [⟨amount, .gt, .value bound⟩], orderBy := [⟨amount, .desc⟩],
        limit := some 5, lock := true }

/-- The amounts above 9 are deleted and updated by one filter, whatever else is said of them. -/
theorem filter_shared_amounts :
    (∃ clause, (Renderer.mk orders .postgres).delete (amountsAbove (.int 9)) =
        .ok ⟨"DELETE FROM orders" ++ clause, [.int 9]⟩ ∧
      (Renderer.mk orders .postgres).select (amountsAbove (.int 9)).filtered =
        .ok ⟨"SELECT * FROM orders" ++ clause, [.int 9]⟩) ∧
    (Renderer.mk orders .postgres).delete (pageAbove (.int 9)) =
      (Renderer.mk orders .postgres).delete (amountsAbove (.int 9)) ∧
    ∃ st clause, (Renderer.mk orders .sqlite).update (amountsAbove (.int 9))
        [.set ⟨"Order", "amount"⟩ .null, .increase ⟨"Order", "amount"⟩ (.int 2)] = .ok st ∧
      (Renderer.mk orders .sqlite).delete (amountsAbove (.int 9)) =
        .ok ⟨"DELETE FROM orders" ++ clause, [.int 9]⟩ ∧
      st.params = [.int 2, .int 9] ∧ ∃ start, st.sql = start ++ clause := by
  refine ⟨?_, ?_, ?_⟩
  · obtain ⟨hfilter, -⟩ := filter_shared ⟨orders, .postgres⟩ (amountsAbove (.int 9))
    rcases hfilter with ⟨f, hf, -⟩ | ⟨table, clause, params, htable, hdelete, hselect, hname, -⟩
    · cases hf
    · obtain rfl : "orders" = table := Except.ok.inj htable
      rw [hname fun _ => by decide] at hdelete hselect
      obtain rfl : [Value.int 9] = params := congrArg Statement.params (Except.ok.inj hdelete)
      exact ⟨clause, hdelete, hselect⟩
  · obtain ⟨-, hother⟩ := filter_shared ⟨orders, .postgres⟩ (amountsAbove (.int 9))
    exact (hother (pageAbove (.int 9)) rfl rfl).1
  · obtain ⟨hfilter, -⟩ := filter_shared ⟨orders, .sqlite⟩ (amountsAbove (.int 9))
    rcases hfilter with ⟨f, hf, -⟩ | ⟨table, clause, params, htable, hdelete, -, -, hupdate⟩
    · cases hf
    · obtain rfl : "orders" = table := Except.ok.inj htable
      obtain rfl : [Value.int 9] = params := congrArg Statement.params (Except.ok.inj hdelete)
      obtain ⟨hregistered, hclause⟩ :=
        hupdate [.set ⟨"Order", "amount"⟩ .null, .increase ⟨"Order", "amount"⟩ (.int 2)] nofun
      obtain ⟨st, hst⟩ := hregistered.2 (by
        intro change hchange
        rcases List.mem_pair.1 hchange with rfl | rfl
        · exact ⟨_, rfl⟩
        · exact ⟨_, rfl⟩)
      obtain ⟨hparams, hsql⟩ := hclause st hst
      obtain ⟨set, -, hset⟩ := hsql rfl
      exact ⟨st, clause, hst, hdelete, hparams, _, hset⟩

end Renderer

end EntitySql
