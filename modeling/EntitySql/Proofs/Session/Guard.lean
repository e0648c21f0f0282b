import EntitySql.Proofs.Placeholder.Resumed
import EntitySql.Proofs.Query.Chain
import EntitySql.Proofs.Session.Refusal
import EntitySql.Proofs.Statement.Condition

/-!
# Writes to all rows

A change or a deletion on a builder where writes to all rows were not allowed is refused if no
condition was given, and otherwise is sent with one conjunct in `WHERE` for each condition
(`Builder.write_guarded`).

That is no promise about rows.  The exclusion of nothing, `NOT IN` with an empty list, is a
condition, and it is rendered as the constant `1=1`; and raw SQL may read so too
(`Builder.delete_excludingNothing`).  All other conditions have a text with a blank in it, or the
constant `1=0` (`Renderer.text_condition`), and so they are never that constant.
-/

namespace EntitySql

/-! ### The conditions of a chain -/

/-- The condition that a step adds to `WHERE`. -/
def Step.condition? : Step → Option (Predicate Query)
  | .where p => some p
  | _ => none

theorem Step.written_wheres (s : Step) : s.written .wheres = s.condition?.toList := by
  cases s <;> rfl

/-- The conditions of a query that is built are those of the steps, in order. -/
theorem Query.wheres_build (q : Query) (chain : List Step) :
    (q.build chain).clauses.wheres = q.clauses.wheres ++ chain.filterMap Step.condition? := by
  rw [(q.accumulated_build chain).wheres, List.filterMap_eq_flatMap_toList]
  simp only [Step.written_wheres]

/-! ### Writes -/

/-- An operation that writes to the rows that meet the conditions. -/
inductive Write (e : EntityType) where
  | update (record : Record e)
  | delete
  | increase (f : Field) (amount : Value)
  | decrease (f : Field) (amount : Value)

namespace Write

variable {e : EntityType}

/-- The operation. -/
def terminal : Write e → Terminal e UInt64
  | .update record => .update record
  | .delete => .delete
  | .increase f amount => .increase f amount
  | .decrease f amount => .decrease f amount

/-- The name of the operation. -/
def operation : Write e → String
  | .update _ => "update"
  | .delete => "delete"
  | .increase _ _ => "increment"
  | .decrease _ _ => "decrement"

/-- What is done to the rows of a query. -/
def command (q : Query) : Write e → Command
  | .update record => .update q record.assignments
  | .delete => .delete q
  | .increase f amount => .update q [.increase f amount]
  | .decrease f amount => .update q [.decrease f amount]

/-- A write is guarded first, and then rendered. -/
theorem request_terminal (b : Builder e) (w : Write e) :
    w.terminal.request b = b.ensureFiltered w.operation >>= fun _ =>
      b.renderer.statement (w.command b.query) >>= fun statement =>
      pure (.forReceipt w.operation (·.affected) statement) := by
  cases w <;> rfl

/-- A write that is sent was let through and is rendered. -/
theorem of_mem_sent {b : Builder e} {w : Write e} {reply : Reply} {st : Statement}
    (h : st ∈ (b.run w.terminal reply).log.sent) :
    b.ensureFiltered w.operation = .ok () ∧ b.renderer.statement (w.command b.query) = .ok st := by
  -- without a request nothing is sent, and a request sends its own statement only
  cases hq : w.terminal.request b with
  | error f =>
    rw [Builder.run_of_request_eq_error hq] at h
    cases h
  | ok q =>
    rw [Builder.run_of_request_eq_ok hq, Request.sent_perform] at h
    obtain rfl := List.mem_singleton.1 h
    rw [request_terminal] at hq
    obtain ⟨⟨⟩, hguard, hq⟩ := Outcome.bind_eq_ok.1 hq
    obtain ⟨statement, hstatement, hq⟩ := Outcome.bind_eq_ok.1 hq
    obtain rfl := Outcome.pure_eq_ok.1 hq
    exact ⟨hguard, hstatement⟩

end Write

/-! ### The conditions of a write -/

/-- Whether nothing is what a condition excludes. -/
def Predicate.ExcludesNothing {S : Type} (p : Predicate S) : Prop :=
  p.op = .notIn ∧ p.operand = .list []

namespace Renderer

variable {r : Renderer}

theorem updateFragment_split {q : Query} {changes : List Assignment} {f : Fragment}
    (h : r.updateFragment q changes = .ok f) :
    ∃ bare, r.updateFragment (.ofTable q.clauses.table) changes = .ok bare ∧
      ∃ filter, r.whereClause (r.opened q) = .ok filter ∧ bare ++ filter = f := by
  obtain ⟨hne, table, htable, set, hset, filter, hfilter, rfl⟩ := r.updateFragment_eq_ok.1 h
  refine ⟨_, r.updateFragment_eq_ok.2 ⟨hne, table, htable, set, hset, .empty, rfl, ?_⟩, filter,
    hfilter, rfl⟩
  exact Fragment.append_empty _

theorem deleteFragment_split {q : Query} {f : Fragment} (h : r.deleteFragment q = .ok f) :
    ∃ bare, r.deleteFragment (.ofTable q.clauses.table) = .ok bare ∧
      ∃ filter, r.whereClause (r.opened q) = .ok filter ∧ bare ++ filter = f := by
  obtain ⟨table, htable, filter, hfilter, rfl⟩ := r.deleteFragment_eq_ok.1 h
  refine ⟨_, r.deleteFragment_eq_ok.2 ⟨table, htable, .empty, rfl, ?_⟩, filter, hfilter, rfl⟩
  exact Fragment.append_empty _

/-- The draft of a write is that of the same write to all rows, and the conditions. -/
theorem draft_split {e : EntityType} {w : Write e} {q : Query} {f : Fragment}
    (h : r.draft (w.command q) = .ok f) :
    ∃ bare, r.draft (w.command (.ofTable q.clauses.table)) = .ok bare ∧
      ∃ filter, r.whereClause (r.opened q) = .ok filter ∧ bare ++ filter = f := by
  cases w with
  | update record =>
    exact updateFragment_split (show r.updateFragment q record.assignments = .ok f from h)
  | delete => exact deleteFragment_split h
  | increase g amount =>
    exact updateFragment_split (show r.updateFragment q [.increase g amount] = .ok f from h)
  | decrease g amount =>
    exact updateFragment_split (show r.updateFragment q [.decrease g amount] = .ok f from h)

/-- The `WHERE` clause has a conjunct for each condition. -/
theorem whereClause_eq_ok {q : Query} {filter : Fragment} (hne : q.clauses.wheres ≠ [])
    (h : r.whereClause (r.opened q) = .ok filter) :
    ∃ fs, List.Forall₂ (fun p f => r.predicate [] .where (p.map r.query) = .ok f)
        q.clauses.wheres fs ∧
      filter.text = " WHERE " ++ " AND ".intercalate (fs.map (·.text)) := by
  obtain ⟨fs, hfs, hfilter⟩ := Outcome.bind_eq_ok.1 h
  have hall := List.forall₂_map_left_iff.1 (Outcome.mapM_eq_ok.1 hfs)
  refine ⟨fs, hall, ?_⟩
  cases fs with
  | nil => exact absurd (List.forall₂_nil_right_iff.1 hall) hne
  | cons f fs =>
    obtain rfl := Outcome.pure_eq_ok.1 hfilter
    rw [Fragment.text_append, Fragment.text_join]

/-! ### Texts of conditions -/

theorem blank_mem_infixed (lhs : Fragment) (op : Operator) (rhs : Fragment) :
    ' ' ∈ (infixed lhs op rhs).text.toList := by
  simp [infixed]

theorem blank_mem_nullCheck (lhs : Fragment) (op : Operator) :
    ' ' ∈ (nullCheck lhs op).text.toList := by
  simp [nullCheck]

/-- A condition that is not raw SQL has a blank in its text, or is a constant for the empty list. -/
theorem text_condition {lhs : Fragment} {op : Operator} {operand : Operand Rendered} {f : Fragment}
    (h : r.condition lhs op operand = .ok f) (hop : op ≠ .raw) :
    operand ≠ .list [] ∧ ' ' ∈ f.text.toList ∨
      operand = .list [] ∧ (op = .in ∧ f.text = "1=0" ∨ op = .notIn ∧ f.text = "1=1") := by
  cases operand with
  | absent =>
    obtain ⟨-, rfl⟩ := condition_absent h
    exact Or.inl ⟨nofun, blank_mem_nullCheck lhs op⟩
  | value v =>
    refine Or.inl ⟨nofun, ?_⟩
    rcases condition_value h with ⟨hraw, -⟩ | ⟨-, rfl⟩ | ⟨-, rfl⟩
    · exact absurd hraw hop
    · exact blank_mem_infixed _ _ _
    · unfold valueComparison
      split
      · exact blank_mem_nullCheck _ _
      · split
        · exact blank_mem_nullCheck _ _
        · split <;> exact blank_mem_infixed _ _ _
  | list vs =>
    cases vs with
    | nil =>
      -- only a test for membership takes the empty list
      refine Or.inr ⟨rfl, ?_⟩
      rcases condition_list h with ⟨hop, h⟩ | ⟨-, hne, -⟩ | ⟨-, low, high, hpair, -⟩
      · obtain rfl := Except.ok.inj h
        rcases hop with rfl | rfl
        · exact Or.inl ⟨rfl, rfl⟩
        · exact Or.inr ⟨rfl, rfl⟩
      · exact absurd rfl hne
      · cases hpair
    | cons v vs =>
      refine Or.inl ⟨nofun, ?_⟩
      rcases condition_list h with ⟨-, h⟩ | ⟨-, -, rfl⟩ | ⟨-, low, high, -, rfl⟩
      · obtain rfl := Except.ok.inj h
        exact blank_mem_infixed _ _ _
      · exact blank_mem_infixed _ _ _
      · exact blank_mem_infixed _ _ _
  | sub q =>
    obtain ⟨g, -, rfl⟩ := condition_sub h
    exact Or.inl ⟨nofun, blank_mem_infixed _ _ _⟩
  | column c =>
    obtain ⟨sql, -, rfl⟩ := condition_column h
    exact Or.inl ⟨nofun, blank_mem_infixed _ _ _⟩
  | raw sql => exact absurd (condition_raw h).1 hop

/-- A text that a condition has in a finished statement: it is rendered, and its placeholders have
the dialect's form. -/
def Conjunct (r : Renderer) (p : Predicate Query) (text : String) : Prop :=
  ∃ f, r.predicate [] .where (p.map r.query) = .ok f ∧
    ∃ place, r.dialect.numberFrom place f.text = text

/-- Of all conditions but raw SQL, the exclusion of nothing and no other is `1=1`. -/
theorem Conjunct.eq_constant_iff {p : Predicate Query} {text : String} (h : r.Conjunct p text)
    (hop : p.op ≠ .raw) : text = "1=1" ↔ p.ExcludesNothing := by
  obtain ⟨f, hf, place, rfl⟩ := h
  obtain ⟨lhs, -, hcondition⟩ := Outcome.bind_eq_ok.1 hf
  have hempty : (p.map r.query).operand = .list [] ↔ p.operand = .list [] := by
    cases hp : p.operand <;> simp [Predicate.map, Operand.map, hp]
  -- the constants have no blank in them, and a blank is never numbered away
  rcases text_condition hcondition hop with ⟨hne, hblank⟩ | ⟨hlist, ⟨hin, htext⟩ | ⟨hnot, htext⟩⟩
  · refine ⟨fun htext => ?_, fun hnothing => absurd (hempty.2 hnothing.2) hne⟩
    have hstays := r.dialect.mem_numberFrom (p := place) hblank (by decide)
    rw [htext] at hstays
    exact absurd hstays (by decide)
  · rw [htext, r.dialect.numberFrom_of_not_mem (by decide)]
    refine ⟨fun h => absurd h (by decide), fun hnothing => ?_⟩
    exact absurd (hin.symm.trans hnothing.1) (by decide)
  · rw [htext, r.dialect.numberFrom_of_not_mem (by decide)]
    exact ⟨fun _ => ⟨hnot, hempty.1 hlist⟩, fun _ => rfl⟩

/-- Raw SQL stands as it is behind the column. -/
theorem Conjunct.eq_raw {p : Predicate Query} {text : String} (h : r.Conjunct p text)
    (hop : p.op = .raw) : ∃ column sql place, r.column p.target = .ok column ∧
      (p.operand = .raw sql ∨ p.operand = .value (.text sql)) ∧
      r.dialect.numberFrom place (column ++ sql) = text := by
  obtain ⟨f, hf, place, rfl⟩ := h
  obtain ⟨lhs, hlhs, hcondition⟩ := Outcome.bind_eq_ok.1 hf
  have htarget : r.columnFragment p.target = .ok lhs := hlhs
  obtain ⟨column, hcolumn, rfl⟩ := columnFragment_eq_ok.1 htarget
  obtain ⟨target, op, operand⟩ := p
  obtain rfl : op = .raw := hop
  -- raw SQL is taken from a raw operand or from a text; every other operand is refused
  cases operand with
  | raw sql =>
    obtain ⟨-, rfl⟩ := condition_raw hcondition
    exact ⟨column, sql, place, hcolumn, Or.inl rfl, rfl⟩
  | value v =>
    rcases condition_value hcondition with ⟨-, sql, rfl, rfl⟩ | ⟨hop, -⟩ | ⟨hop, -⟩
    · exact ⟨column, sql, place, hcolumn, Or.inr rfl, rfl⟩
    · rcases hop with hop | hop <;> cases hop
    · exact absurd (show Operator.raw ∈ _ from hop) (by decide)
  | _ => cases hcondition

theorem conjuncts_of_forall₂ {ps : List (Predicate Query)} {fs : List Fragment}
    {texts : List String}
    (hfs : List.Forall₂ (fun p f => r.predicate [] .where (p.map r.query) = .ok f) ps fs)
    (htexts : List.Forall₂ (fun f text => ∃ place, r.dialect.numberFrom place f.text = text)
      fs texts) : List.Forall₂ r.Conjunct ps texts := by
  induction hfs generalizing texts with
  | nil =>
    rw [List.forall₂_nil_left_iff.1 htexts]
    exact .nil
  | cons hf _ ih =>
    obtain ⟨text, texts, htext, hrest, rfl⟩ := List.forall₂_cons_left_iff.1 htexts
    exact .cons ⟨_, hf, htext⟩ (ih hrest)

/-- The SQL of a write that has conditions is that of the same write to all rows, and the
conjuncts. -/
theorem sql_of_write {e : EntityType} {w : Write e} {q : Query} {st : Statement}
    (hne : q.clauses.wheres ≠ []) (h : r.statement (w.command q) = .ok st) :
    ∃ bare, r.statement (w.command (.ofTable q.clauses.table)) = .ok bare ∧
      ∃ texts, List.Forall₂ r.Conjunct q.clauses.wheres texts ∧
        st.sql = bare.sql ++ " WHERE " ++ " AND ".intercalate texts := by
  -- a write renders the conditions only, so raw SQL of the query plays no part
  have hraw : ∀ q : Query, (w.command q).rows.clauses.raw = none := by
    intro q
    cases w <;> rfl
  rw [r.statement_eq (hraw q)] at h
  obtain ⟨f, hf, rfl⟩ := Outcome.map_eq_ok.1 h
  obtain ⟨bare, hbare, filter, hfilter, rfl⟩ := draft_split hf
  obtain ⟨fs, hfs, htext⟩ := whereClause_eq_ok hne hfilter
  refine ⟨r.finish bare, ?_, ?_⟩
  · rw [r.statement_eq (hraw _), hbare]
    rfl
  · have hseparator : '?' ∉ " AND ".toList := by decide
    let place := (({} : Placeholder.Place).behind bare.text).behind " WHERE "
    obtain ⟨texts, htexts, hplaces⟩ :=
      r.dialect.numberFrom_intercalate hseparator place (fs.map (·.text))
    refine ⟨texts, conjuncts_of_forall₂ hfs (List.forall₂_map_left_iff.1 hplaces), ?_⟩
    -- the keyword and the separators have no placeholders, and everything else is numbered apart
    calc r.dialect.number ((bare ++ filter).text)
        = r.dialect.numberFrom {}
            (bare.text ++ (" WHERE " ++ " AND ".intercalate (fs.map (·.text)))) := by
          rw [Dialect.number_eq_numberFrom, Fragment.text_append, htext]
      _ = r.dialect.numberFrom {} bare.text ++ (" WHERE " ++
            r.dialect.numberFrom place (" AND ".intercalate (fs.map (·.text)))) := by
          rw [Dialect.numberFrom_append, Dialect.numberFrom_append,
            r.dialect.numberFrom_of_not_mem (s := " WHERE ") (by decide)]
      _ = r.dialect.number bare.text ++ " WHERE " ++ " AND ".intercalate texts := by
          rw [htexts, Dialect.number_eq_numberFrom, String.append_assoc]

end Renderer

/-! ### Guarded writes -/

namespace Builder

variable {e : EntityType}

/-- A builder that is made by steps, and where writes to all rows were not allowed, refuses every
write if no condition was given.  A write that it sends has a `WHERE` clause with one conjunct for
each condition in order, and at least one.  The conjunct of raw SQL is that text behind its column;
any other one is the constant `1=1` where its condition excludes nothing and nowhere else, and so
some conjunct is not if some condition is of neither kind. -/
theorem write_guarded (r : Renderer) (channel : Channel) (reader : CellReader) (chain : List Step)
    (w : Write e) (reply : Reply) :
    let b : Builder e := ({ renderer := r, channel := channel, reader := reader } :
      Builder e).build chain
    let ps := chain.filterMap Step.condition?
    (ps = [] → b.run w.terminal reply = ⟨.error (.unfiltered w.operation), {}⟩) ∧
    ∀ st ∈ (b.run w.terminal reply).log.sent, ps ≠ [] ∧
      ∃ bare, r.statement (w.command (.ofTable e.key)) = .ok bare ∧
      ∃ texts, st.sql = bare.sql ++ " WHERE " ++ " AND ".intercalate texts ∧
        List.Forall₂ (fun p text => r.Conjunct p text ∧
          (p.op ≠ .raw → (text = "1=1" ↔ p.ExcludesNothing)) ∧
          (p.op = .raw → ∃ column sql place, r.column p.target = .ok column ∧
            (p.operand = .raw sql ∨ p.operand = .value (.text sql)) ∧
            r.dialect.numberFrom place (column ++ sql) = text)) ps texts ∧
        ((∃ p ∈ ps, p.op ≠ .raw ∧ ¬ p.ExcludesNothing) → ∃ text ∈ texts, text ≠ "1=1") := by
  intro b ps
  have hps : b.query.clauses.wheres = ps := Query.wheres_build (.ofTable e.key) chain
  have htable : b.query.clauses.table = e.key := Query.table_build (.ofTable e.key) chain
  have hguard : b.ensureFiltered w.operation =
      if ps.isEmpty then .error (.unfiltered w.operation) else .ok () := by
    rw [ensureFiltered, hps]
    cases ps.isEmpty <;> rfl
  refine ⟨fun hnone => ?_, fun st hst => ?_⟩
  · have hrefused : w.terminal.request b = .error (.unfiltered w.operation) := by
      rw [Write.request_terminal, hguard, hnone]
      rfl
    exact run_of_request_eq_error hrefused reply
  · obtain ⟨hfiltered, hstatement⟩ := Write.of_mem_sent hst
    -- it was let through, so there are conditions
    have hne : ps ≠ [] := by
      intro hnone
      rw [hguard, hnone] at hfiltered
      cases hfiltered
    obtain ⟨bare, hbare, texts, htexts, hsql⟩ := Renderer.sql_of_write (hps ▸ hne) hstatement
    rw [htable] at hbare
    rw [hps] at htexts
    refine ⟨hne, bare, hbare, texts, hsql,
      htexts.imp fun p text h => ⟨h, h.eq_constant_iff, h.eq_raw⟩, ?_⟩
    rintro ⟨p, hp, hraw, hexcludes⟩
    obtain ⟨text, htext, hconjunct⟩ := Outcome.exists_of_forall₂ htexts hp
    exact ⟨text, htext, fun hconstant => hexcludes ((hconjunct.eq_constant_iff hraw).1 hconstant)⟩

/-! #### Notes -/

/-- Nothing is deleted without a condition, and behind the condition on the identifier it does no
harm that nothing else is excluded. -/
theorem write_guarded_notes :
    (notes.run .delete {}).log.sent = [] ∧
    ((notes.build [.whereValue noteId .eq (.int 7), .whereList noteId .notIn []]).run .delete
      {}).log.sent = [⟨"DELETE FROM note WHERE id = ? AND 1=1", [.int 7]⟩] ∧
    ∃ texts : List String,
      "DELETE FROM note WHERE id = ? AND 1=1" =
        "DELETE FROM note" ++ " WHERE " ++ " AND ".intercalate texts ∧
      texts.length = 2 ∧ ∃ text ∈ texts, text ≠ "1=1" := by
  obtain ⟨hrefused, -⟩ := write_guarded (e := note) notes.renderer .pool .exact [] .delete {}
  obtain ⟨-, hsent⟩ := write_guarded (e := note) notes.renderer .pool .exact
    [.whereValue noteId .eq (.int 7), .whereList noteId .notIn []] .delete {}
  obtain ⟨-, bare, hbare, texts, hsql, hconjuncts, hother⟩ :=
    hsent ⟨"DELETE FROM note WHERE id = ? AND 1=1", [.int 7]⟩ (List.mem_singleton.2 rfl)
  obtain rfl : ⟨"DELETE FROM note", []⟩ = bare := Except.ok.inj hbare
  refine ⟨?_, rfl, texts, hsql, hconjuncts.length_eq.symm, hother ?_⟩
  · exact congrArg (fun report => report.log.sent) (hrefused rfl)
  · refine ⟨⟨noteId, .eq, .value (.int 7)⟩, List.mem_cons_self, by decide, fun h => ?_⟩
    exact absurd h.1 (by decide)

/-- The query over the notes whose identifier is none of no identifiers. -/
def spared : Builder note := notes.build [.whereList noteId .notIn []]

/-- The query over the notes where one is one. -/
def tautological : Builder note := notes.build [.whereRaw (.expr "1") "=1"]

/-- The deletion of all notes is sent, though it was not allowed, where the one conjunct is the
constant. -/
theorem delete_excludingNothing :
    (∀ b ∈ [spared, tautological], b.allowsUnfiltered = false ∧
      b.query.clauses.wheres.length = 1 ∧
      (b.run .delete {}).log.sent = [⟨"DELETE FROM note WHERE 1=1", []⟩]) ∧
    ¬ ∃ texts : List String, texts.length = 1 ∧
      "DELETE FROM note WHERE 1=1" = "DELETE FROM note" ++ " WHERE " ++ " AND ".intercalate texts ∧
      ∃ text ∈ texts, text ≠ "1=1" := by
  constructor
  · intro b hb
    rcases List.mem_pair.1 hb with rfl | rfl
    · exact ⟨rfl, rfl, rfl⟩
    · exact ⟨rfl, rfl, rfl⟩
  · rintro ⟨texts, hlength, hsql, text, htext, hne⟩
    obtain ⟨only, rfl⟩ := List.length_eq_one_iff.1 hlength
    obtain rfl := List.mem_singleton.1 htext
    -- the one text is what is left of the statement behind the keyword
    have hconstant : "DELETE FROM note" ++ " WHERE " ++ "1=1" =
        "DELETE FROM note" ++ " WHERE " ++ text := by
      rw [String.intercalate_singleton] at hsql
      exact hsql
    exact hne ((String.append_right_inj _).1 hconstant).symm

end Builder

end EntitySql
