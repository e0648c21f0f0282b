import EntitySql.Proofs.Query.Level
import EntitySql.Proofs.Statement.Command

/-!
# What dialects agree on

Two renderers match in a relation on fragments if they know the same schemas and the relation is
kept by everything that a dialect decides inside of a condition (`Renderer.Match`).  Then they
render the same query alike (`Renderer.query_agree`): both fail in the same way, or the fragments
are in the relation.  Two things have to be looked at for each level.  Its end, which is the page and
the lock, and its `HAVING` clause, where a dialect may replace an alias of the select list; the
queries here have no such target.

With the relation "the same parameters" all dialects match, and with equality PostgreSQL matches
SQLite.  So the built-in dialects bind the same values in the same order, up to the two row counts
of a page (`Renderer.dialects_agree`).
-/

namespace EntitySql

variable {S : Type}

/-! ### Restrictions on levels -/

/-- A target in `HAVING` that is an alias of the select list. -/
def Clauses.TargetsAlias (c : Clauses S) : Prop :=
  ∃ p ∈ c.havings, ∃ name, p.target = .aliased name ∧ ∃ i ∈ c.select, i.aliasName = some name

/-- A level with a limit or an offset. -/
def Clauses.Paged (c : Clauses S) : Prop := c.limit.isSome = true ∨ c.offset.isSome = true

namespace Query

/-- No rendered level has an alias of its select list as a target in `HAVING`. -/
def AvoidsAliases (q : Query) : Prop := ∀ c, q.Level c → c.raw = none → ¬ c.TargetsAlias

/-- No rendered level locks its rows. -/
def Unlocked (q : Query) : Prop := ∀ c, q.Level c → c.raw = none → c.lock = false

/-- No rendered level has a limit or an offset. -/
def Unpaged (q : Query) : Prop := ∀ c, q.Level c → c.raw = none → ¬ c.Paged

/-- The outermost level has a limit or an offset, and no other one has. -/
def PagedOutermost (q : Query) : Prop := q.clauses.Paged ∧ ∀ s ∈ q.clauses.subs, s.Unpaged

/-- The page of the outermost level is none of the levels of a write. -/
theorem PagedOutermost.unpaged_filtered {q : Query} (h : q.PagedOutermost) :
    q.filtered.Unpaged := by
  intro c hc hraw
  rcases Query.level_of_iff.1 hc with rfl | ⟨-, s, hs, hd⟩
  · rintro (h | h) <;> exact absurd h (by simp)
  · obtain ⟨p, hp, hs⟩ : ∃ p ∈ q.clauses.wheres, s ∈ p.operand.subs := by
      simpa [Clauses.mem_subs] using hs
    exact h.2 s (Clauses.mem_subs_of_wheres hp hs) c hd hraw

end Query

/-- Two lists that differ in the order of their last two entries and in nothing else. -/
def LastExchanged {α : Type} (xs ys : List α) : Prop :=
  ∃ init a b, xs = init ++ [a, b] ∧ ys = init ++ [b, a]

/-! ### Outcomes that agree -/

/-- Two outcomes that fail in the same way, or succeed with related results. -/
inductive Outcome.Agree {α β : Type} (P : α → β → Prop) : Outcome α → Outcome β → Prop
  | ok {a : α} {b : β} (h : P a b) : Agree P (.ok a) (.ok b)
  | error (e : Failure) : Agree P (.error e) (.error e)

open Outcome (Agree)

namespace Outcome.Agree

variable {α β γ δ : Type} {P : α → β → Prop} {P' : γ → δ → Prop}

theorem bind {x : Outcome α} {y : Outcome β} {f : α → Outcome γ} {g : β → Outcome δ}
    (h : Agree P x y) (hf : ∀ a b, P a b → Agree P' (f a) (g b)) : Agree P' (x >>= f) (y >>= g) := by
  cases h with
  | ok h => exact hf _ _ h
  | error e => exact .error e

theorem map {x : Outcome α} {y : Outcome β} {f : α → γ} {g : β → δ} (h : Agree P x y)
    (hf : ∀ a b, P a b → P' (f a) (g b)) : Agree P' (x.map f) (y.map g) := by
  cases h with
  | ok h => exact .ok (hf _ _ h)
  | error e => exact .error e

/-- What follows the same outcome. -/
theorem bind_same (x : Outcome α) {f : α → Outcome γ} {g : α → Outcome δ}
    (hf : ∀ a, Agree P' (f a) (g a)) : Agree P' (x >>= f) (x >>= g) := by
  cases x with
  | ok a => exact hf a
  | error e => exact .error e

theorem map_same (x : Outcome α) {f : α → γ} {g : α → δ} (hf : ∀ a, P' (f a) (g a)) :
    Agree P' (x.map f) (x.map g) := by
  cases x with
  | ok a => exact .ok (hf a)
  | error e => exact .error e

theorem mapM {f : α → Outcome γ} {g : β → Outcome δ} {xs : List α} {ys : List β}
    (h : List.Forall₂ (fun a b => Agree P' (f a) (g b)) xs ys) :
    Agree (List.Forall₂ P') (xs.mapM f) (ys.mapM g) := by
  induction h with
  | nil => exact .ok .nil
  | cons hab _ ih =>
    rw [List.mapM_cons, List.mapM_cons]
    exact hab.bind fun a b hab => ih.bind fun as bs habs => .ok (.cons hab habs)

/-- Outcomes that are equal. -/
theorem eq {x y : Outcome α} (h : Agree Eq x y) : x = y := by
  cases h with
  | ok h => rw [h]
  | error e => rfl

end Outcome.Agree

/-! ### Matching renderers -/

/-- A relation on fragments that two renderers keep, whatever their dialects do with the texts. -/
structure Renderer.Match (E : Fragment → Fragment → Prop) (r r' : Renderer) : Prop where
  catalog : r.catalog = r'.catalog
  refl : ∀ f, E f f
  append : ∀ {f f' g g'}, E f f' → E g g' → E (f ++ g) (f' ++ g')
  /-- The constant in the place of a target. -/
  replace : ∀ {f f'} (t : String), E f f' → E (f.mapText fun _ => t) (f'.mapText fun _ => t)
  concat : ∀ texts params, E ⟨r.dialect.concat texts, params⟩ ⟨r'.dialect.concat texts, params⟩
  floatAsText : ∀ {f f'}, E f f' →
    E (f.mapText r.dialect.floatAsText) (f'.mapText r'.dialect.floatAsText)

namespace Renderer

variable {r r' : Renderer} {E : Fragment → Fragment → Prop} (m : Match E r r')

namespace Match

/-! ### Names -/

include m

theorem table : r.table = r'.table := by
  funext key
  simp only [Renderer.table, Renderer.schema, m.catalog]

theorem resolve : r.resolve = r'.resolve := by
  funext f
  rw [Renderer.resolve, Renderer.resolve, m.catalog]

theorem column : r.column = r'.column := by
  funext c
  cases c with
  | field qualifier f => simp only [Renderer.column, m.resolve]
  | aliased name => rfl
  | expr sql => rfl

theorem columnFragment : r.columnFragment = r'.columnFragment := by
  funext c
  rw [Renderer.columnFragment, Renderer.columnFragment, m.column]

theorem tableText : r.tableText = r'.tableText := by
  funext key aliasName
  rw [Renderer.tableText, Renderer.tableText, m.table]

theorem joins : r.joins = r'.joins := by
  have hpair : r.columnPair = r'.columnPair := by
    funext pair
    rw [columnPair, columnPair, m.column]
  have hjoin : r.join = r'.join := by
    funext j
    rw [join, join, m.tableText, hpair]
  funext js
  rw [Renderer.joins, Renderer.joins, hjoin]

theorem groupClause : r.groupClause = r'.groupClause := by
  funext columns
  rw [Renderer.groupClause, Renderer.groupClause, m.column]

theorem orderClause : r.orderClause = r'.orderClause := by
  have horder : r.orderItem = r'.orderItem := by
    funext o
    rw [orderItem, orderItem, m.column]
  funext items
  rw [Renderer.orderClause, Renderer.orderClause, horder]

theorem assignment : r.assignment = r'.assignment := by
  funext change
  cases change <;> simp only [Renderer.assignment, m.resolve]

/-! ### Fragments -/

theorem parenthesized {f g : Fragment} (h : E f g) : E f.parenthesized g.parenthesized :=
  m.append (m.append (m.refl _) h) (m.refl _)

theorem infixed {f f' g g' : Fragment} (op : Operator) (h : E f f') (h' : E g g') :
    E (Renderer.infixed f op g) (Renderer.infixed f' op g') :=
  m.append (m.append h (m.refl _)) h'

theorem nullCheck {f g : Fragment} (op : Operator) (h : E f g) :
    E (Renderer.nullCheck f op) (Renderer.nullCheck g op) :=
  m.append h (m.refl _)

theorem join (sep : String) {fs gs : List Fragment} (h : List.Forall₂ E fs gs) :
    E (Fragment.join sep fs) (Fragment.join sep gs) := by
  induction h with
  | nil => exact m.refl _
  | cons hfg hrest ih =>
    cases hrest with
    | nil => exact hfg
    | cons hnext hrest => exact m.append (m.append hfg (m.refl _)) ih

theorem patternOf (parts : List Value) : E (r.patternOf parts) (r'.patternOf parts) := by
  rw [Renderer.patternOf, Renderer.patternOf]
  split
  · exact m.refl _
  · exact m.concat _ _

theorem valueComparison {f g : Fragment} (op : Operator) (v : Value) (h : E f g) :
    E (r.valueComparison f op v) (r'.valueComparison g op v) := by
  rw [Renderer.valueComparison, Renderer.valueComparison]
  split_ifs
  · exact m.nullCheck .isNull h
  · exact m.nullCheck .isNotNull h
  · exact m.infixed op (m.floatAsText h) (m.floatAsText (m.refl (.placeholder v)))
  · exact m.infixed op h (m.refl _)

end Match

/-! ### Conditions -/

section

variable {rendered rendered' : S → Rendered}
include m

theorem expression_agree {e : SelectExpr S}
    (hsubs : ∀ s ∈ (SelectItem.mk e none none).subs, Agree E (rendered s) (rendered' s)) :
    Agree E (r.expression (e.map rendered)) (r'.expression (e.map rendered')) := by
  cases e with
  | column c =>
    show Agree E (r.columnFragment c) (r'.columnFragment c)
    rw [m.columnFragment]
    cases r'.columnFragment c with
    | ok f => exact .ok (m.refl f)
    | error e => exact .error e
  | sub s => exact (hsubs s (List.mem_singleton.2 rfl)).map fun _ _ h => m.parenthesized h

theorem item_agree {i : SelectItem S}
    (hsubs : ∀ s ∈ i.subs, Agree E (rendered s) (rendered' s)) :
    Agree E (r.item (i.map rendered)) (r'.item (i.map rendered')) := by
  refine (expression_agree m hsubs).map fun f g h => ?_
  show E (aggregated i.aggregate f) (aggregated i.aggregate g)
  cases i.aggregate with
  | none => exact h
  | some a => exact m.append (m.refl _) (m.parenthesized h)

omit m in
/-- A target that is no alias of the select list is rendered as a column. -/
theorem target_eq_columnFragment {select : List (SelectItem Rendered)} {sec : Section}
    {t : ColumnRef}
    (h : sec = .having → ∀ name, t = .aliased name → ∀ i ∈ select, i.aliasName ≠ some name) :
    r.target select sec t = r.columnFragment t := by
  match sec, t with
  | .having, .aliased name =>
    have hnone : select.find? (·.aliasName == some name) = none := by
      rw [List.find?_eq_none]
      intro i hi
      simpa using h rfl name rfl i hi
    rw [target, hnone]
    exact ite_self _
  | .where, t => rfl
  | .having, .field q f => rfl
  | .having, .expr sql => rfl

variable {lhs lhs' : Fragment} (hlhs : E lhs lhs')
include hlhs

theorem membership_agree (op : Operator) (vs : List Value) :
    Agree E (membership lhs op (.list vs)) (membership lhs' op (.list vs)) := by
  cases vs with
  | nil => exact .ok (m.replace _ hlhs)
  | cons v vs => exact .ok (m.infixed op hlhs (m.refl _))

theorem column_agree (op : Operator) (c : ColumnRef) :
    Agree E ((r.columnFragment c).map (infixed lhs op))
      ((r'.columnFragment c).map (infixed lhs' op)) := by
  rw [m.columnFragment]
  exact Outcome.Agree.map_same _ fun f => m.infixed op hlhs (m.refl f)

theorem pattern_agree (op : Operator) (parts : List Value) :
    Agree E (r.patternCondition lhs op (.list parts)) (r'.patternCondition lhs' op (.list parts)) := by
  cases parts with
  | nil => exact .error _
  | cons v vs => exact .ok (m.infixed op hlhs (m.patternOf _))

theorem range_agree (op : Operator) (vs : List Value) :
    Agree E (range lhs op (.list vs)) (range lhs' op (.list vs)) := by
  match vs with
  | [low, high] => exact .ok (m.infixed op hlhs (m.refl _))
  | [] | [_] | _ :: _ :: _ :: _ => exact .error _

theorem condition_agree {op : Operator} {operand : Operand S}
    (hsubs : ∀ s ∈ operand.subs, Agree E (rendered s) (rendered' s)) :
    Agree E (r.condition lhs op (operand.map rendered))
      (r'.condition lhs' op (operand.map rendered')) := by
  -- by the operand, then by the operators that take it; the other ones refuse it alike
  cases operand with
  | absent =>
    cases op with
    | isNull | isNotNull => exact .ok (m.nullCheck _ hlhs)
    | _ => exact .error _
  | value v =>
    cases op with
    | raw =>
      cases v with
      | text sql => exact .ok (m.append hlhs (m.refl _))
      | _ => exact .error _
    | like | notLike => exact .ok (m.infixed _ hlhs (m.patternOf [v]))
    | eq | ne | gt | ge | lt | le => exact .ok (m.valueComparison _ v hlhs)
    | _ => exact .error _
  | list vs =>
    cases op with
    | «in» | notIn => exact membership_agree m hlhs _ vs
    | like | notLike => exact pattern_agree m hlhs _ vs
    | between | notBetween => exact range_agree m hlhs _ vs
    | _ => exact .error _
  | sub s =>
    have hs := hsubs s (List.mem_singleton.2 rfl)
    cases op with
    | raw | isNull | isNotNull => exact .error _
    | _ => exact hs.map fun _ _ h => m.infixed _ hlhs (m.parenthesized h)
  | column c =>
    cases op with
    | rawEq => exact column_agree m hlhs .eq c
    | eq | ne | gt | ge | lt | le => exact column_agree m hlhs _ c
    | _ => exact .error _
  | raw sql =>
    cases op with
    | raw => exact .ok (m.append hlhs (m.refl _))
    | _ => exact .error _

end

/-! ### Levels -/

section

variable {rendered rendered' : S → Rendered}
include m

theorem conjunction_agree {keyword : String} {select select' : List (SelectItem Rendered)}
    {sec : Section} {ps : List (Predicate S)}
    (htarget : ∀ p ∈ ps, r.target select sec p.target = r.columnFragment p.target ∧
      r'.target select' sec p.target = r'.columnFragment p.target)
    (hsubs : ∀ p ∈ ps, ∀ s ∈ p.operand.subs, Agree E (rendered s) (rendered' s)) :
    Agree E (r.conjunction keyword select sec (ps.map (Predicate.map rendered)))
      (r'.conjunction keyword select' sec (ps.map (Predicate.map rendered'))) := by
  have hpredicates : Agree (List.Forall₂ E)
      ((ps.map (Predicate.map rendered)).mapM (r.predicate select sec))
      ((ps.map (Predicate.map rendered')).mapM (r'.predicate select' sec)) := by
    refine Outcome.Agree.mapM ?_
    rw [List.forall₂_map_left_iff, List.forall₂_map_right_iff, List.forall₂_same]
    intro p hp
    -- both targets are columns, and columns are the same fragment on both sides
    obtain ⟨htarget, htarget'⟩ := htarget p hp
    show Agree E
      (r.target select sec p.target >>= fun lhs =>
        r.condition lhs p.op (p.operand.map rendered))
      (r'.target select' sec p.target >>= fun lhs =>
        r'.condition lhs p.op (p.operand.map rendered'))
    rw [htarget, htarget', m.columnFragment]
    exact Outcome.Agree.bind_same _ fun lhs => condition_agree m (m.refl lhs) (hsubs p hp)
  refine hpredicates.bind fun conditions conditions' h => ?_
  -- related lists are empty together, so both sides write the keyword or neither does
  cases h with
  | nil => exact .ok (m.refl _)
  | cons h hrest => exact .ok (m.append (m.refl _) (m.join " AND " (.cons h hrest)))

theorem selectList_agree {is : List (SelectItem S)}
    (hsubs : ∀ i ∈ is, ∀ s ∈ i.subs, Agree E (rendered s) (rendered' s)) :
    Agree E (r.selectList (is.map (SelectItem.map rendered)))
      (r'.selectList (is.map (SelectItem.map rendered'))) := by
  have hitems : Agree (List.Forall₂ E) ((is.map (SelectItem.map rendered)).mapM r.selectItem)
      ((is.map (SelectItem.map rendered')).mapM r'.selectItem) := by
    refine Outcome.Agree.mapM ?_
    rw [List.forall₂_map_left_iff, List.forall₂_map_right_iff, List.forall₂_same]
    exact fun i hi => (item_agree m (hsubs i hi)).map fun _ _ h => m.append h (m.refl _)
  refine hitems.bind fun items items' h => ?_
  cases h with
  | nil => exact .ok (m.refl _)
  | cons h hrest => exact .ok (m.join ", " (.cons h hrest))

variable {c : Clauses S} (hsubs : ∀ s ∈ c.subs, Agree E (rendered s) (rendered' s))
include hsubs

/-- In `WHERE` a target is always a column. -/
theorem whereClause_agree :
    Agree E (r.whereClause (c.map rendered)) (r'.whereClause (c.map rendered')) :=
  conjunction_agree m
    (fun _ _ => ⟨target_eq_columnFragment nofun, target_eq_columnFragment nofun⟩)
    fun _ hp s hs => hsubs s (Clauses.mem_subs_of_wheres hp hs)

variable (haliases : ¬ c.TargetsAlias)
include haliases

theorem havingClause_agree :
    Agree E (r.havingClause (c.map rendered)) (r'.havingClause (c.map rendered')) := by
  -- replacing the sub-queries keeps the aliases of the select list
  have hfree : ∀ (f : S → Rendered), ∀ p ∈ c.havings, ∀ name, p.target = .aliased name →
      ∀ i ∈ (c.map f).select, i.aliasName ≠ some name := by
    intro f p hp name hname i hi hi'
    obtain ⟨j, hj, rfl⟩ := List.mem_map.1 hi
    exact haliases ⟨p, hp, name, hname, j, hj, hi'⟩
  exact conjunction_agree m
    (fun p hp => ⟨target_eq_columnFragment fun _ => hfree rendered p hp,
      target_eq_columnFragment fun _ => hfree rendered' p hp⟩)
    fun _ hp s hs => hsubs s (Clauses.mem_subs_of_havings hp hs)

theorem source_agree : Agree E (r.source (c.map rendered)) (r'.source (c.map rendered')) := by
  rw [source, source, m.tableText, m.joins, m.groupClause]
  refine Outcome.Agree.bind_same _ fun table => Outcome.Agree.bind_same _ fun joined => ?_
  refine (whereClause_agree m hsubs).bind fun filter filter' hfilter => ?_
  refine Outcome.Agree.bind_same _ fun groups => ?_
  refine (havingClause_agree m hsubs haliases).bind fun having having' hhaving => ?_
  exact .ok (m.append (m.append (m.append (m.refl _) hfilter) (m.refl _)) hhaving)

/-- Levels agree in whatever relation their ends make of the one that the renderers match in. -/
theorem selectLevel_agree {P : Fragment → Fragment → Prop}
    (hend : ∀ f g, E f g →
      P (f ++ r.pageClause (c.map rendered) ++ ⟨r.lockClause (c.map rendered), []⟩)
        (g ++ r'.pageClause (c.map rendered') ++ ⟨r'.lockClause (c.map rendered'), []⟩)) :
    Agree P (r.selectLevel (c.map rendered)) (r'.selectLevel (c.map rendered')) := by
  rw [selectLevel, selectLevel, m.orderClause]
  refine (selectList_agree m fun _ hi s hs =>
    hsubs s (Clauses.mem_subs_of_select hi hs)).bind fun items items' hitems => ?_
  refine (source_agree m hsubs haliases).bind fun rows rows' hrows => ?_
  refine Outcome.Agree.bind_same _ fun order => ?_
  exact .ok (hend _ _ (m.append (m.append (m.append (m.refl _) hitems) hrows) (m.refl _)))

end

/-! ### Queries and commands -/

/-- The page and the lock of a level. -/
def ending (r : Renderer) (c : Clauses Query) (f : Fragment) : Fragment :=
  f ++ r.pageClause (c.map r.query) ++ ⟨r.lockClause (c.map r.query), []⟩

section

include m

/-- Matching renderers agree on a query if they do on the end of every rendered level. -/
theorem query_agree {q : Query} (haliases : q.AvoidsAliases)
    (hend : ∀ c, q.Level c → c.raw = none → ∀ f g, E f g → E (r.ending c f) (r'.ending c g)) :
    Agree E (r.query q) (r'.query q) := by
  induction q using Query.induct with
  | level c ih =>
    cases hraw : c.raw with
    | some raw =>
      -- hand-written SQL is the same fragment in every dialect
      rw [query_of, query_of, level, level, show (c.map r.query).raw = some raw from hraw,
        show (c.map r'.query).raw = some raw from hraw]
      exact .ok (m.refl _)
    | none =>
      rw [r.query_eq_selectLevel hraw, r'.query_eq_selectLevel hraw]
      refine selectLevel_agree m ?_ (haliases c (.outermost c) hraw)
        (hend c (.outermost c) hraw)
      intro q hq
      exact ih q hq (fun d hd => haliases d (.inner hraw hq hd))
        fun d hd => hend d (.inner hraw hq hd)

variable {cmd : Command} (haliases : cmd.rows.AvoidsAliases)
  (hend : ∀ c, cmd.rows.Level c → c.raw = none → ∀ f g, E f g → E (r.ending c f) (r'.ending c g))
include haliases hend

/-- The conditions of a write. -/
theorem filter_agree {q : Query} (hq : cmd.rows = q.filtered) :
    Agree E (r.whereClause (r.opened q)) (r'.whereClause (r'.opened q)) := by
  rw [hq] at haliases hend
  rw [whereClause_filtered, r'.whereClause_filtered]
  -- the levels below the conditions are levels of the command, one step further in
  refine whereClause_agree m fun s hs => query_agree m ?_ ?_
  · exact fun d hd => haliases d (.inner rfl hs hd)
  · exact fun d hd => hend d (.inner rfl hs hd)

theorem draft_agree : Agree E (r.draft cmd) (r'.draft cmd) := by
  cases cmd with
  | select q => exact query_agree m haliases hend
  | update q changes =>
    have hfilter := filter_agree m haliases hend rfl
    show Agree E (r.updateFragment q changes) (r'.updateFragment q changes)
    rw [updateFragment, updateFragment, m.table, m.assignment]
    cases changes with
    | nil => exact .error _
    | cons change changes =>
      refine Outcome.Agree.bind_same _ fun table => Outcome.Agree.bind_same _ fun set => ?_
      exact hfilter.bind fun _ _ h => .ok (m.append (m.refl _) h)
  | delete q =>
    have hfilter := filter_agree m haliases hend rfl
    show Agree E (r.deleteFragment q) (r'.deleteFragment q)
    rw [deleteFragment, deleteFragment, m.table]
    refine Outcome.Agree.bind_same _ fun table => ?_
    exact hfilter.bind fun _ _ h => .ok (m.append (m.refl _) h)

end

/-! ### The built-in dialects -/

section

variable (catalog : Catalog)

/-- All dialects bind alike inside of conditions. -/
theorem match_params (d d' : Dialect) :
    Match (fun f g => f.params = g.params) ⟨catalog, d⟩ ⟨catalog, d'⟩ where
  catalog := rfl
  refl _ := rfl
  append h h' := by rw [Fragment.params_append, Fragment.params_append, h, h']
  replace _ h := h
  concat _ _ := rfl
  floatAsText h := h

/-- PostgreSQL and SQLite write the same conditions. -/
theorem match_postgres_sqlite : Match Eq ⟨catalog, .postgres⟩ ⟨catalog, .sqlite⟩ where
  catalog := rfl
  refl _ := rfl
  append h h' := by rw [h, h']
  replace _ h := by rw [h]
  concat _ _ := rfl
  floatAsText h := by rw [h]; rfl

variable {catalog} {r : Renderer} {c : Clauses Query} {f : Fragment}

theorem params_ending :
    (r.ending c f).params = f.params ++ (r.pageClause (c.map r.query)).params := by
  rw [ending, Fragment.params_append, Fragment.params_append, List.append_nil]

theorem params_ending_of_unpaged (h : ¬ c.Paged) : (r.ending c f).params = f.params := by
  have hnone : ¬ (c.limit.isSome || c.offset.isSome) = true := by
    simpa [Clauses.Paged] using h
  rw [params_ending, pageClause, show (c.map r.query).limit = c.limit from rfl,
    show (c.map r.query).offset = c.offset from rfl, if_neg hnone]
  exact List.append_nil _

/-- Dialects write pages of the same form alike. -/
theorem pageClause_congr (r r' : Renderer) (c : Clauses Query)
    (h : r.dialect.pagination = r'.dialect.pagination) :
    r.pageClause (c.map r.query) = r'.pageClause (c.map r'.query) := by
  have hpage : r.dialect.page = r'.dialect.page := by
    funext limit offset ordered
    rw [Dialect.page, Dialect.page, h]
  rw [pageClause, pageClause, hpage]
  rfl

/-- The page of MySQL has the count and the offset the other way round. -/
theorem lastExchanged_ending {g : Fragment} (h : c.Paged) (hparams : f.params = g.params) :
    LastExchanged ((Renderer.mk catalog .mysql).ending c f).params
      ((Renderer.mk catalog .sqlite).ending c g).params := by
  have hsome : (c.limit.isSome || c.offset.isSome) = true := by simpa [Clauses.Paged] using h
  refine ⟨g.params, Dialect.countValue ((c.offset.map UInt64.toNat).getD 0),
    Dialect.countValue ((c.limit.map UInt64.toNat).getD Dialect.greatestCount), ?_, ?_⟩
  · rw [params_ending, hparams]
    exact congrArg (fun page : Fragment => g.params ++ page.params) (if_pos hsome)
  · rw [params_ending]
    exact congrArg (fun page : Fragment => g.params ++ page.params) (if_pos hsome)

/-- PostgreSQL writes the end of a level that is not locked like SQLite. -/
theorem ending_postgres_eq (h : c.lock = false) :
    (Renderer.mk catalog .postgres).ending c f = (Renderer.mk catalog .sqlite).ending c f := by
  have hlock : ∀ r : Renderer, r.lockClause (c.map r.query) = "" := fun r => by
    rw [lockClause, show (c.map r.query).lock = false from h]
    rfl
  have hpage := pageClause_congr ⟨catalog, .postgres⟩ ⟨catalog, .sqlite⟩ c rfl
  rw [ending, ending, hpage, hlock, hlock]

end

/-! ### Statements -/

section

variable {catalog : Catalog} {r r' : Renderer} {cmd : Command}
  (hraw : cmd.rows.clauses.raw = none)
include hraw

/-- Statements agree as their drafts do. -/
theorem statement_agree {E : Fragment → Fragment → Prop} {P : Statement → Statement → Prop}
    (hdraft : Agree E (r.draft cmd) (r'.draft cmd))
    (hP : ∀ f g, E f g → P (r.finish f) (r'.finish g)) :
    Agree P (r.statement cmd) (r'.statement cmd) := by
  rw [r.statement_eq hraw, r'.statement_eq hraw]
  exact hdraft.map hP

variable (haliases : cmd.rows.AvoidsAliases)
include haliases

/-- Dialects with the same form of page bind the same values. -/
theorem params_agree_of_pagination {d d' : Dialect} (h : d.pagination = d'.pagination) :
    Agree (fun st st' => st.params = st'.params) (Renderer.statement ⟨catalog, d⟩ cmd)
      (Renderer.statement ⟨catalog, d'⟩ cmd) := by
  refine statement_agree hraw (draft_agree (match_params catalog d d') haliases ?_) fun _ _ h => h
  intro c _ _ f g hparams
  rw [params_ending, params_ending, pageClause_congr _ ⟨catalog, d'⟩ c h, hparams]

/-- Without a page all dialects bind the same values. -/
theorem params_agree_of_unpaged (hpages : cmd.rows.Unpaged) (d d' : Dialect) :
    Agree (fun st st' => st.params = st'.params) (Renderer.statement ⟨catalog, d⟩ cmd)
      (Renderer.statement ⟨catalog, d'⟩ cmd) := by
  refine statement_agree hraw (draft_agree (match_params catalog d d') haliases ?_) fun _ _ h => h
  intro c hc hraw f g hparams
  have hpage := hpages c hc hraw
  rw [params_ending_of_unpaged hpage, params_ending_of_unpaged hpage, hparams]

/-- Without locks PostgreSQL writes what SQLite does, with numbered placeholders. -/
theorem statement_postgres_eq (hlocks : cmd.rows.Unlocked) :
    Renderer.statement ⟨catalog, .postgres⟩ cmd =
      (Renderer.statement ⟨catalog, .sqlite⟩ cmd).map fun st =>
        ⟨Dialect.postgres.number st.sql, st.params⟩ := by
  have hdraft : Renderer.draft ⟨catalog, .postgres⟩ cmd = Renderer.draft ⟨catalog, .sqlite⟩ cmd :=
    Agree.eq <| draft_agree (match_postgres_sqlite catalog) haliases fun c hc hraw f g hfg => by
      rw [hfg, ending_postgres_eq (hlocks c hc hraw)]
  rw [statement_eq _ hraw, statement_eq _ hraw, hdraft]
  cases Renderer.draft ⟨catalog, .sqlite⟩ cmd <;> rfl

end

/-- With one page, at the outermost level, MySQL binds what SQLite does with the two row counts the
other way round. -/
theorem select_mysql_agree {catalog : Catalog} {q : Query} (hraw : q.clauses.raw = none)
    (haliases : q.AvoidsAliases) (hpages : q.PagedOutermost) :
    Agree (fun st st' => LastExchanged st.params st'.params)
      (Renderer.statement ⟨catalog, .mysql⟩ (.select q))
      (Renderer.statement ⟨catalog, .sqlite⟩ (.select q)) := by
  obtain ⟨c⟩ := q
  change c.raw = none at hraw
  have m := match_params catalog .mysql .sqlite
  refine statement_agree (E := fun f g => LastExchanged f.params g.params)
    (show (Command.select (.of c)).rows.clauses.raw = none from hraw) ?_ fun _ _ h => h
  show Agree _ (Renderer.query ⟨catalog, .mysql⟩ (.of c)) (Renderer.query ⟨catalog, .sqlite⟩ (.of c))
  rw [query_eq_selectLevel _ hraw, query_eq_selectLevel _ hraw]
  refine selectLevel_agree m ?_ (haliases c (.outermost c) hraw) ?_
  · -- the sub-queries have no page and agree as they are
    intro s hs
    refine query_agree m (fun d hd => haliases d (.inner hraw hs hd)) ?_
    intro d hd hraw f g hparams
    have hpage := hpages.2 s hs d hd hraw
    rw [params_ending_of_unpaged hpage, params_ending_of_unpaged hpage, hparams]
  · intro f g hparams
    exact lastExchanged_ending hpages.1 hparams

/-- **Agreement** of the dialects on what they bind.

PostgreSQL and SQLite bind the same values, and unless rows are locked they write the same text up
to the numbers.  Without a page any two dialects bind the same values.  With a page at the outermost
level MySQL binds its two row counts the other way round; a write has no page there, so it is
without one if only its sub-queries are. -/
theorem dialects_agree (catalog : Catalog) {cmd : Command} (hraw : cmd.rows.clauses.raw = none)
    (haliases : cmd.rows.AvoidsAliases) :
    Agree (fun st st' => st.params = st'.params) (Renderer.statement ⟨catalog, .postgres⟩ cmd)
        (Renderer.statement ⟨catalog, .sqlite⟩ cmd) ∧
      (cmd.rows.Unlocked → Renderer.statement ⟨catalog, .postgres⟩ cmd =
        (Renderer.statement ⟨catalog, .sqlite⟩ cmd).map fun st =>
          ⟨Dialect.postgres.number st.sql, st.params⟩) ∧
      (cmd.rows.Unpaged → ∀ d d' : Dialect, Agree (fun st st' => st.params = st'.params)
        (Renderer.statement ⟨catalog, d⟩ cmd) (Renderer.statement ⟨catalog, d'⟩ cmd)) ∧
      (∀ q, cmd = .select q → q.PagedOutermost →
        Agree (fun st st' => LastExchanged st.params st'.params)
          (Renderer.statement ⟨catalog, .mysql⟩ cmd) (Renderer.statement ⟨catalog, .sqlite⟩ cmd)) ∧
      (∀ q, (cmd = .delete q ∨ ∃ changes, cmd = .update q changes) → q.PagedOutermost →
        ∀ d d' : Dialect, Agree (fun st st' => st.params = st'.params)
          (Renderer.statement ⟨catalog, d⟩ cmd) (Renderer.statement ⟨catalog, d'⟩ cmd)) := by
  refine ⟨params_agree_of_pagination hraw haliases rfl, statement_postgres_eq hraw haliases,
    fun hpages => params_agree_of_unpaged hraw haliases hpages, ?_, ?_⟩
  · rintro q rfl hpages
    exact select_mysql_agree hraw haliases hpages
  · -- a write renders no page of its own, so all of it is without one
    intro q hq hpages
    have hrows : cmd.rows = q.filtered := by
      rcases hq with rfl | ⟨changes, rfl⟩ <;> rfl
    exact params_agree_of_unpaged hraw haliases (hrows ▸ hpages.unpaged_filtered)

/-- A page of the small round amounts, beside the larger ones. -/
def roundAmounts : Query :=
  .of { table := "Order", select := [⟨.sub (amountsAbove (.int 9)), none, some "larger"⟩],
        wheres := [⟨amount, .like, .list [.text "%", .text "0"]⟩, ⟨amount, .lt, .value (.int 9)⟩],
        limit := some 2 }

theorem level_roundAmounts {c : Clauses Query} (h : roundAmounts.Level c) :
    c = roundAmounts.clauses ∨ c = (amountsAbove (.int 9)).clauses := by
  rcases Query.level_of_iff.1 h with rfl | ⟨-, s, hs, hd⟩
  · exact .inl rfl
  · obtain rfl : s = amountsAbove (.int 9) := List.mem_singleton.1 hs
    rcases Query.level_of_iff.1 hd with rfl | ⟨-, s, hs, -⟩
    · exact .inr rfl
    · cases hs

theorem avoidsAliases_roundAmounts : roundAmounts.AvoidsAliases := by
  rintro c hc _ ⟨p, hp, -⟩
  rcases level_roundAmounts hc with rfl | rfl <;> cases hp

theorem pagedOutermost_roundAmounts : roundAmounts.PagedOutermost := by
  refine ⟨.inl rfl, fun s hs c hc _ => ?_⟩
  obtain rfl : s = amountsAbove (.int 9) := List.mem_singleton.1 hs
  rcases Query.level_of_iff.1 hc with rfl | ⟨-, s, hs, -⟩
  · rintro (h | h) <;> cases h
  · cases hs

/-- MySQL binds the offset before the limit. -/
theorem dialects_agree_roundAmounts :
    roundAmounts.clauses.raw = none ∧ roundAmounts.AvoidsAliases ∧ roundAmounts.PagedOutermost ∧
      ∃ st st', (Renderer.mk orders .mysql).select roundAmounts = .ok st ∧
        (Renderer.mk orders .sqlite).select roundAmounts = .ok st' ∧
        LastExchanged st.params st'.params := by
  have hmysql : (Renderer.mk orders .mysql).select roundAmounts = .ok
      ⟨"SELECT (SELECT amount FROM orders WHERE amount > ?) AS larger FROM orders " ++
        "WHERE amount LIKE CONCAT('%',?) AND amount < ? LIMIT ?,?",
        [.int 9, .text "0", .int 9, .int 0, .int 2]⟩ := rfl
  have hsqlite : (Renderer.mk orders .sqlite).select roundAmounts = .ok
      ⟨"SELECT (SELECT amount FROM orders WHERE amount > ?) AS larger FROM orders " ++
        "WHERE amount LIKE '%' || ? AND amount < ? LIMIT ? OFFSET ?",
        [.int 9, .text "0", .int 9, .int 2, .int 0]⟩ := rfl
  obtain ⟨-, -, -, hselect, -⟩ :=
    dialects_agree orders (show (Command.select roundAmounts).rows.clauses.raw = none from rfl)
      avoidsAliases_roundAmounts
  have hagree := hselect roundAmounts rfl pagedOutermost_roundAmounts
  refine ⟨rfl, avoidsAliases_roundAmounts, pagedOutermost_roundAmounts, _, _, hmysql, hsqlite, ?_⟩
  rw [show statement ⟨orders, .mysql⟩ (.select roundAmounts) = _ from hmysql,
    show statement ⟨orders, .sqlite⟩ (.select roundAmounts) = _ from hsqlite] at hagree
  cases hagree with
  | ok h => exact h

/-- A delete of the rows of a page has no page, and both dialects bind the same two values. -/
theorem delete_roundAmounts_not_exchanged :
    roundAmounts.clauses.raw = none ∧ roundAmounts.AvoidsAliases ∧ roundAmounts.PagedOutermost ∧
      ∃ st st', (Renderer.mk orders .mysql).delete roundAmounts = .ok st ∧
        (Renderer.mk orders .sqlite).delete roundAmounts = .ok st' ∧
        ¬ LastExchanged st.params st'.params := by
  have hmysql : (Renderer.mk orders .mysql).delete roundAmounts = .ok
      ⟨"DELETE FROM orders WHERE amount LIKE CONCAT('%',?) AND amount < ?",
        [.text "0", .int 9]⟩ := rfl
  have hsqlite : (Renderer.mk orders .sqlite).delete roundAmounts = .ok
      ⟨"DELETE FROM orders WHERE amount LIKE '%' || ? AND amount < ?", [.text "0", .int 9]⟩ := rfl
  refine ⟨rfl, avoidsAliases_roundAmounts, pagedOutermost_roundAmounts, _, _, hmysql, hsqlite, ?_⟩
  rintro ⟨init, a, b, h, h'⟩
  obtain ⟨-, hfirst⟩ := List.append_inj' (show [] ++ [_, _] = init ++ [a, b] from h) rfl
  obtain ⟨-, hsecond⟩ := List.append_inj' (show [] ++ [_, _] = init ++ [b, a] from h') rfl
  cases hfirst
  cases hsecond

end Renderer

end EntitySql
