import EntitySql.Proofs.Query.Alike

/-!
# The text does not depend on bound values

Let alike inputs have values in a relation `R` that keeps the class of a value: whether it is null,
a float or the wildcard.  Then either both inputs are refused, or both give the same text, with
parameters that are pairwise in the relation or the same row count of a page
(`text_independent_of_values`).

`R` is any such relation.  If it takes each value to the one that it is replaced by, the parameters
of the second statement are the replaced ones of the first, position by position.

No dialect can tell the values apart either: it is given texts only.

Fragments are compared with a relation `P` on their parameters, which has `R` and the row counts of
the pages in it.
-/

namespace EntitySql

/-- Whether two values are rendered in the same way. -/
structure Value.SameClass (v w : Value) : Prop where
  isNull : v.isNull = w.isNull
  isFloat : v.isFloat = w.isFloat
  isWildcard : v.isWildcard = w.isWildcard

/-- The row counts that the page of a level may bind. -/
def Clauses.counts {S : Type} (c : Clauses S) : List Value :=
  if c.limit.isSome || c.offset.isSome then
    [Dialect.countValue ((c.limit.map UInt64.toNat).getD Dialect.greatestCount),
      Dialect.countValue ((c.offset.map UInt64.toNat).getD 0)]
  else []

/-- Parameters that come from values in a relation, or are the same row count of a level. -/
def Corresponds (R : Value → Value → Prop) (q : Query) (v w : Value) : Prop :=
  R v w ∨ ∃ d, q.Level d ∧ v ∈ d.counts ∧ w = v

/-- A relation on values that keeps their class, and what is required of their parameters. -/
structure Respects (R P : Value → Value → Prop) : Prop where
  sameClass : ∀ {v w}, R v w → v.SameClass w
  param : ∀ {v w}, R v w → P v w

variable {R P : Value → Value → Prop}

/-! ### Outcomes and fragments -/

/-- Two outcomes that are both failures, or both successes with related results. -/
inductive Outcome.Alike {α β : Type} (P : α → β → Prop) : Outcome α → Outcome β → Prop
  | ok {a : α} {b : β} (h : P a b) : Alike P (.ok a) (.ok b)
  | error (e e' : Failure) : Alike P (.error e) (.error e')

namespace Outcome.Alike

variable {α β γ δ : Type} {P : α → β → Prop} {P' : γ → δ → Prop}

theorem bind {x : Outcome α} {y : Outcome β} {f : α → Outcome γ} {g : β → Outcome δ}
    (h : Alike P x y) (hf : ∀ a b, P a b → Alike P' (f a) (g b)) :
    Alike P' (x >>= f) (y >>= g) := by
  cases h with
  | ok h => exact hf _ _ h
  | error e e' => exact .error e e'

theorem map {x : Outcome α} {y : Outcome β} {f : α → γ} {g : β → δ} (h : Alike P x y)
    (hf : ∀ a b, P a b → P' (f a) (g b)) : Alike P' (x.map f) (y.map g) := by
  cases h with
  | ok h => exact .ok (hf _ _ h)
  | error e e' => exact .error e e'

/-- What follows a computation that does not depend on values. -/
theorem bind_same (x : Outcome α) {f : α → Outcome γ} {g : α → Outcome δ}
    (hf : ∀ a, Alike P' (f a) (g a)) : Alike P' (x >>= f) (x >>= g) := by
  cases x with
  | ok a => exact hf a
  | error e => exact .error e e

theorem map_same (x : Outcome α) {f : α → γ} {g : α → δ} (hf : ∀ a, P' (f a) (g a)) :
    Alike P' (x.map f) (x.map g) := by
  cases x with
  | ok a => exact .ok (hf a)
  | error e => exact .error e e

theorem mapM {f : α → Outcome γ} {g : β → Outcome δ} {xs : List α} {ys : List β}
    (h : List.Forall₂ (fun a b => Alike P' (f a) (g b)) xs ys) :
    Alike (List.Forall₂ P') (xs.mapM f) (ys.mapM g) := by
  induction h with
  | nil => exact .ok .nil
  | cons hab _ ih =>
    rw [List.mapM_cons, List.mapM_cons]
    refine hab.bind fun a b hab => ih.bind fun as bs habs => ?_
    exact .ok (.cons hab habs)

end Outcome.Alike

/-- Fragments with the same text and parameters in a relation. -/
structure Fragment.Alike (P : Value → Value → Prop) (f g : Fragment) : Prop where
  text : f.text = g.text
  params : List.Forall₂ P f.params g.params

namespace Fragment.Alike

variable {f g f' g' : Fragment}

theorem ofText (s : String) : Fragment.Alike P ⟨s, []⟩ ⟨s, []⟩ := ⟨rfl, .nil⟩

theorem placeholder {v w : Value} (h : P v w) :
    Fragment.Alike P (.placeholder v) (.placeholder w) :=
  ⟨rfl, .cons h .nil⟩

theorem append (h : f.Alike P g) (h' : f'.Alike P g') : (f ++ f').Alike P (g ++ g') := by
  refine ⟨?_, ?_⟩
  · rw [text_append, text_append, h.text, h'.text]
  · exact List.rel_append h.params h'.params

theorem mapText (h : f.Alike P g) (t : String → String) : (f.mapText t).Alike P (g.mapText t) :=
  ⟨congrArg t h.text, h.params⟩

theorem parenthesized (h : f.Alike P g) : f.parenthesized.Alike P g.parenthesized :=
  ((ofText "(").append h).append (ofText ")")

theorem join (sep : String) {fs gs : List Fragment} (h : List.Forall₂ (Fragment.Alike P) fs gs) :
    (Fragment.join sep fs).Alike P (Fragment.join sep gs) := by
  induction h with
  | nil => exact ofText ""
  | cons hfg hrest ih =>
    cases hrest with
    | nil => exact hfg
    | cons hnext hrest => exact (hfg.append (ofText sep)).append ih

end Fragment.Alike

/-- Renderings that are both refused, or give alike fragments. -/
abbrev Rendered.Alike (P : Value → Value → Prop) : Rendered → Rendered → Prop :=
  Outcome.Alike (Fragment.Alike P)

/-- Statements with the same text and parameters in a relation. -/
structure Statement.Alike (P : Value → Value → Prop) (st st' : Statement) : Prop where
  sql : st.sql = st'.sql
  params : List.Forall₂ P st.params st'.params

namespace Renderer

variable {r : Renderer}

/-! ### Targets -/

theorem columnFragment_alike (c : ColumnRef) :
    Rendered.Alike P (r.columnFragment c) (r.columnFragment c) :=
  Outcome.Alike.map_same _ fun sql => .ofText sql

theorem item_alike {i i' : SelectItem Rendered} (h : i.Alike (Rendered.Alike P) i') :
    Rendered.Alike P (r.item i) (r.item i') := by
  obtain ⟨expr, aggregate, aliasName⟩ := i
  obtain ⟨expr', aggregate', aliasName'⟩ := i'
  obtain ⟨hexpr, rfl, -⟩ := h
  have hexpr' : Rendered.Alike P (r.expression expr) (r.expression expr') := by
    cases hexpr with
    | column c => exact columnFragment_alike c
    | sub h => exact h.map fun f g hfg => hfg.parenthesized
  refine hexpr'.map fun f g hfg => ?_
  cases aggregate with
  | none => exact hfg
  | some a => exact (Fragment.Alike.ofText a.sql).append hfg.parenthesized

/-- The items with an alias are found at the same place. -/
theorem find?_alike {E : Rendered → Rendered → Prop} {is is' : List (SelectItem Rendered)}
    (h : List.Forall₂ (SelectItem.Alike E) is is') (name : String) :
    Option.Rel (SelectItem.Alike E) (is.find? (·.aliasName == some name))
      (is'.find? (·.aliasName == some name)) := by
  induction h with
  | nil => exact .none
  | @cons i i' is is' hi _ ih =>
    rw [List.find?_cons, List.find?_cons, hi.aliasName]
    cases i'.aliasName == some name with
    | true => exact .some hi
    | false => exact ih

section

variable {select select' : List (SelectItem Rendered)}
  (hselect : List.Forall₂ (SelectItem.Alike (Rendered.Alike P)) select select')
include hselect

theorem target_alike (sec : Section) (t : ColumnRef) :
    Rendered.Alike P (r.target select sec t) (r.target select' sec t) := by
  match sec, t with
  | .having, .aliased name =>
    rw [target, target]
    split_ifs
    · exact .ok (.ofText name)
    -- the look-ups find related items or none, whatever lists they were made in
    · have hfind := find?_alike hselect name
      revert hfind
      generalize select.find? (·.aliasName == some name) = found
      generalize select'.find? (·.aliasName == some name) = found'
      intro hfind
      cases hfind with
      | none => exact .ok (.ofText name)
      | some hi => exact item_alike hi
  | .where, t => exact columnFragment_alike t
  | .having, .field q field => exact columnFragment_alike _
  | .having, .expr sql => exact columnFragment_alike _

end

/-! ### The classes of operators -/

section

variable {lhs lhs' : Fragment} (hlhs : lhs.Alike P lhs')
include hlhs

theorem infixed_alike (op : Operator) {rhs rhs' : Fragment} (hrhs : rhs.Alike P rhs') :
    (infixed lhs op rhs).Alike P (infixed lhs' op rhs') :=
  (hlhs.append (.ofText _)).append hrhs

theorem nullCheck_alike (op : Operator) : (nullCheck lhs op).Alike P (nullCheck lhs' op) :=
  hlhs.append (.ofText _)

/-- The text of a raw condition is the same because its operand is. -/
theorem rawCondition_alike {o o' : Operand Rendered} (h : o.Alike Eq (Rendered.Alike P) o') :
    Rendered.Alike P (rawCondition lhs o) (rawCondition lhs' o') := by
  cases h with
  | raw sql => exact .ok (hlhs.append (.ofText sql))
  | @value v _ h =>
    obtain rfl := h
    cases v with
    | text sql => exact .ok (hlhs.append (.ofText sql))
    | _ => exact .error _ _
  | _ => exact .error _ _

variable {o o' : Operand Rendered} (h : o.Alike R (Rendered.Alike P) o')
include h

theorem nullCondition_alike (op : Operator) :
    Rendered.Alike P (nullCondition lhs op o) (nullCondition lhs' op o') := by
  cases h with
  | absent => exact .ok (nullCheck_alike hlhs op)
  | _ => exact .error _ _

theorem columnCondition_alike :
    Rendered.Alike P (r.columnCondition lhs o) (r.columnCondition lhs' o') := by
  cases h with
  | column c => exact (columnFragment_alike c).map fun f g hfg => infixed_alike hlhs .eq hfg
  | _ => exact .error _ _

end

section

-- from here on values are compared, by their class
variable (hR : Respects R P)
include hR

theorem patternPart_alike {v w : Value} (h : R v w) :
    (patternPart v).Alike P (patternPart w) := by
  rw [patternPart, patternPart, (hR.sameClass h).isWildcard]
  split_ifs
  · exact .ofText _
  · exact .placeholder (hR.param h)

theorem patternOf_alike {vs ws : List Value} (h : List.Forall₂ R vs ws) :
    (r.patternOf vs).Alike P (r.patternOf ws) := by
  have hparts : List.Forall₂ (Fragment.Alike P) (vs.map patternPart) (ws.map patternPart) :=
    List.rel_map (fun _ _ h => patternPart_alike hR h) h
  -- the dialect concatenates the texts of the parts, and these are the same
  have htexts : (vs.map patternPart).map (·.text) = (ws.map patternPart).map (·.text) := by
    have hmap := List.rel_map (P := Eq) (fun _ _ h => h.text) hparts
    rwa [List.forall₂_eq_eq_eq] at hmap
  refine ⟨?_, ?_⟩
  · rw [patternOf, patternOf, htexts]
  · exact List.rel_flatMap hparts fun _ _ h => h.params

variable {lhs lhs' : Fragment} (hlhs : lhs.Alike P lhs')
include hlhs

theorem membership_alike (op : Operator) {o o' : Operand Rendered}
    (h : o.Alike R (Rendered.Alike P) o') :
    Rendered.Alike P (membership lhs op o) (membership lhs' op o') := by
  cases h with
  | list h =>
    cases h with
    | nil => exact .ok (hlhs.mapText _)
    | @cons v w vs ws hv hvs =>
      have hslots : List.Forall₂ (Fragment.Alike P) ((v :: vs).map .placeholder)
          ((w :: ws).map .placeholder) :=
        List.rel_map (fun _ _ h => Fragment.Alike.placeholder (hR.param h)) (.cons hv hvs)
      exact .ok (infixed_alike hlhs op (Fragment.Alike.join "," hslots).parenthesized)
  | _ => exact .error _ _

theorem range_alike (op : Operator) {o o' : Operand Rendered}
    (h : o.Alike R (Rendered.Alike P) o') :
    Rendered.Alike P (range lhs op o) (range lhs' op o') := by
  cases h with
  | list h =>
    match h with
    | .nil => exact .error _ _
    | .cons _ .nil => exact .error _ _
    | .cons hlow (.cons hhigh .nil) =>
      exact .ok (infixed_alike hlhs op
        ⟨rfl, .cons (hR.param hlow) (.cons (hR.param hhigh) .nil)⟩)
    | .cons _ (.cons _ (.cons _ _)) => exact .error _ _
  | _ => exact .error _ _

theorem patternCondition_alike (op : Operator) {o o' : Operand Rendered}
    (h : o.Alike R (Rendered.Alike P) o') :
    Rendered.Alike P (r.patternCondition lhs op o) (r.patternCondition lhs' op o') := by
  cases h with
  | list h =>
    cases h with
    | nil => exact .error _ _
    | cons hv hvs => exact .ok (infixed_alike hlhs op (patternOf_alike hR (.cons hv hvs)))
  | value h => exact .ok (infixed_alike hlhs op (patternOf_alike hR (.cons h .nil)))
  | _ => exact .error _ _

theorem valueComparison_alike (op : Operator) {v w : Value} (h : R v w) :
    (r.valueComparison lhs op v).Alike P (r.valueComparison lhs' op w) := by
  rw [valueComparison, valueComparison, (hR.sameClass h).isNull, (hR.sameClass h).isFloat]
  split_ifs
  · exact nullCheck_alike hlhs .isNull
  · exact nullCheck_alike hlhs .isNotNull
  · exact infixed_alike (hlhs.mapText _) op ⟨rfl, .cons (hR.param h) .nil⟩
  · exact infixed_alike hlhs op (.placeholder (hR.param h))

theorem comparison_alike (op : Operator) {o o' : Operand Rendered}
    (h : o.Alike R (Rendered.Alike P) o') :
    Rendered.Alike P (r.comparison lhs op o) (r.comparison lhs' op o') := by
  cases h with
  | value h => exact .ok (valueComparison_alike hR hlhs op h)
  | column c => exact (columnFragment_alike c).map fun f g hfg => infixed_alike hlhs op hfg
  | _ => exact .error _ _

omit hR in
theorem subCondition_alike (op : Operator) {q q' : Rendered} (h : Rendered.Alike P q q') :
    Rendered.Alike P (subCondition lhs op q) (subCondition lhs' op q') :=
  h.map fun _ _ hfg => infixed_alike hlhs op hfg.parenthesized

/-- An operator decides the class of a condition, apart from those with a sub-query. -/
theorem condition_alike (op : Operator) {o o' : Operand Rendered}
    (h : o.Alike (op.relation R) (Rendered.Alike P) o') :
    Rendered.Alike P (r.condition lhs op o) (r.condition lhs' op o') := by
  by_cases hraw : op = .raw
  · -- the operand is the same text
    subst hraw
    exact rawCondition_alike hlhs h
  rw [Operator.relation, if_neg hraw] at h
  cases op with
  | raw => exact absurd rfl hraw
  | isNull => exact nullCondition_alike hlhs h .isNull
  | isNotNull => exact nullCondition_alike hlhs h .isNotNull
  -- a sub-query stands behind every other operator in the same way
  | rawEq =>
    have hclass := columnCondition_alike (r := r) hlhs h
    cases h with
    | sub h => exact subCondition_alike hlhs .rawEq h
    | _ => exact hclass
  | «in» | notIn =>
    have hclass := fun op => membership_alike hR hlhs op h
    cases h with
    | sub h => exact subCondition_alike hlhs _ h
    | _ => exact hclass _
  | like =>
    have hclass := patternCondition_alike (r := r) hR hlhs .like h
    cases h with
    | sub h => exact subCondition_alike hlhs .like h
    | _ => exact hclass
  | notLike =>
    have hclass := patternCondition_alike (r := r) hR hlhs .notLike h
    cases h with
    | sub h => exact subCondition_alike hlhs .notLike h
    | _ => exact hclass
  | between | notBetween =>
    have hclass := fun op => range_alike hR hlhs op h
    cases h with
    | sub h => exact subCondition_alike hlhs _ h
    | _ => exact hclass _
  | eq | ne | gt | ge | lt | le =>
    have hclass := fun op => comparison_alike (r := r) hR hlhs op h
    cases h with
    | sub h => exact subCondition_alike hlhs _ h
    | _ => exact hclass _

end

/-! ### Levels -/

/-- A page binds row counts only. -/
theorem page_alike (d : Dialect) {limit offset : Option UInt64}
    (hcount : P (Dialect.countValue ((limit.map UInt64.toNat).getD Dialect.greatestCount))
      (Dialect.countValue ((limit.map UInt64.toNat).getD Dialect.greatestCount)))
    (hskip : P (Dialect.countValue ((offset.map UInt64.toNat).getD 0))
      (Dialect.countValue ((offset.map UInt64.toNat).getD 0))) (ordered : Bool) :
    (d.page limit offset ordered).Alike P (d.page limit offset ordered) := by
  rw [Dialect.page]
  cases d.pagination with
  | offsetCount => exact ⟨rfl, .cons hskip (.cons hcount .nil)⟩
  | countOffset => exact ⟨rfl, .cons hcount (.cons hskip .nil)⟩
  | offsetFetch =>
    refine Fragment.Alike.append (.append ?_ ⟨rfl, .cons hskip .nil⟩) ?_
    · split_ifs <;> exact .ofText _
    · split_ifs
      · exact ⟨rfl, .cons hcount .nil⟩
      · exact .ofText ""

section

variable (hR : Respects R P)
include hR

theorem predicate_alike {select select' : List (SelectItem Rendered)}
    (hselect : List.Forall₂ (SelectItem.Alike (Rendered.Alike P)) select select') (sec : Section)
    {p p' : Predicate Rendered} (h : p.Alike R (Rendered.Alike P) p') :
    Rendered.Alike P (r.predicate select sec p) (r.predicate select' sec p') := by
  obtain ⟨t, op, o⟩ := p
  obtain ⟨t', op', o'⟩ := p'
  obtain ⟨rfl, rfl, ho⟩ := h
  exact (target_alike hselect sec t).bind fun _ _ hlhs => condition_alike hR hlhs op ho

theorem conjunction_alike (keyword : String) {select select' : List (SelectItem Rendered)}
    (hselect : List.Forall₂ (SelectItem.Alike (Rendered.Alike P)) select select') (sec : Section)
    {ps ps' : List (Predicate Rendered)}
    (h : List.Forall₂ (Predicate.Alike R (Rendered.Alike P)) ps ps') :
    Rendered.Alike P (r.conjunction keyword select sec ps)
      (r.conjunction keyword select' sec ps') := by
  have hps := Outcome.Alike.mapM (h.imp fun _ _ hp => predicate_alike (r := r) hR hselect sec hp)
  refine hps.bind fun fs gs hfg => ?_
  cases hfg with
  | nil => exact .ok (.ofText "")
  | cons hf hfs => exact .ok ((Fragment.Alike.ofText keyword).append (.join _ (.cons hf hfs)))

omit hR in
theorem selectItem_alike {i i' : SelectItem Rendered} (h : i.Alike (Rendered.Alike P) i') :
    Rendered.Alike P (r.selectItem i) (r.selectItem i') := by
  rw [selectItem, selectItem, h.aliasName]
  exact (item_alike h).map fun f g hfg => hfg.append (.ofText _)

omit hR in
theorem selectList_alike {is is' : List (SelectItem Rendered)}
    (h : List.Forall₂ (SelectItem.Alike (Rendered.Alike P)) is is') :
    Rendered.Alike P (r.selectList is) (r.selectList is') := by
  have his := Outcome.Alike.mapM (h.imp fun _ _ hi => selectItem_alike (r := r) hi)
  refine his.bind fun fs gs hfg => ?_
  cases hfg with
  | nil => exact .ok (.ofText "*")
  | cons hf hfs => exact .ok (.join ", " (.cons hf hfs))

variable {c c' : Clauses Rendered} (h : c.Alike R (Rendered.Alike P) c')
include h

theorem whereClause_alike : Rendered.Alike P (r.whereClause c) (r.whereClause c') :=
  conjunction_alike hR " WHERE " h.select .where h.wheres

theorem havingClause_alike : Rendered.Alike P (r.havingClause c) (r.havingClause c') :=
  conjunction_alike hR " HAVING " h.select .having h.havings

theorem source_alike : Rendered.Alike P (r.source c) (r.source c') := by
  rw [source, source, h.table, h.aliasName, h.joins, h.groupBy]
  refine Outcome.Alike.bind_same _ fun table => ?_
  refine Outcome.Alike.bind_same _ fun joined => ?_
  refine (whereClause_alike hR h).bind fun filter filter' hfilter => ?_
  refine Outcome.Alike.bind_same _ fun groups => ?_
  refine (havingClause_alike hR h).bind fun having having' hhaving => ?_
  exact .ok ((((Fragment.Alike.ofText _).append hfilter).append (.ofText groups)).append hhaving)

variable (hcounts : ∀ n ∈ c.counts, P n n)
include hcounts

omit hR in
theorem pageClause_alike : (r.pageClause c).Alike P (r.pageClause c') := by
  rw [pageClause, pageClause, ← h.limit, ← h.offset, ← h.orderBy]
  split_ifs with hpage
  · rw [Clauses.counts, if_pos hpage] at hcounts
    exact page_alike _ (hcounts _ List.mem_cons_self)
      (hcounts _ (List.mem_cons_of_mem _ List.mem_cons_self)) _
  · exact .ofText ""

theorem selectLevel_alike : Rendered.Alike P (r.selectLevel c) (r.selectLevel c') := by
  rw [selectLevel, selectLevel, h.orderBy, h.distinct]
  refine (selectList_alike h.select).bind fun items items' hitems => ?_
  refine (source_alike hR h).bind fun rows rows' hrows => ?_
  refine Outcome.Alike.bind_same _ fun order => ?_
  rw [lockClause, lockClause, h.lock]
  exact .ok ((((((Fragment.Alike.ofText _).append hitems).append hrows).append
    (.ofText order)).append (pageClause_alike h hcounts)).append (.ofText _))

end

/-- A level is rendered from its clauses only if it has no raw override. -/
theorem level_alike (hR : Respects R P) {c c' : Clauses Rendered}
    (hraw : Option.Rel (RawSql.Alike R) c.raw c'.raw)
    (h : c.raw = none → Rendered.Alike P (r.selectLevel c) (r.selectLevel c')) :
    Rendered.Alike P (r.level c) (r.level c') := by
  rw [level, level]
  generalize c.raw = raw at hraw h ⊢
  generalize c'.raw = raw' at hraw ⊢
  cases hraw with
  | none => exact h rfl
  | some hraw => exact .ok ⟨hraw.sql, hraw.params.imp fun _ _ => hR.param⟩

/-- Alike queries are rendered alike, at every depth. -/
theorem query_alike (hR : Respects R P) {q q' : Query} (h : q.Alike R q')
    (hcounts : ∀ d, q.Level d → ∀ n ∈ d.counts, P n n) :
    Rendered.Alike P (r.query q) (r.query q') := by
  induction q using Query.induct generalizing q' with
  | level c ih =>
    obtain ⟨c'⟩ := q'
    have hc : c.Alike R (Query.Alike R) c' := Query.alike_of.1 h
    rw [query_of, query_of]
    refine level_alike hR hc.raw fun hraw => ?_
    -- the levels of the sub-queries are rendered too
    have hsubs : (c.map r.query).Alike R (Rendered.Alike P) (c'.map r.query) :=
      hc.map fun s hs s' hss => ih s hs hss fun d hd => hcounts d (.inner hraw hs hd)
    exact selectLevel_alike hR hsubs (hcounts c (.outermost c))

/-! ### Statements -/

theorem finish_alike {x y : Rendered} (h : Rendered.Alike P x y) :
    Outcome.Alike (Statement.Alike P) (x.map r.finish) (y.map r.finish) :=
  h.map fun _ _ hfg => ⟨congrArg r.dialect.number hfg.text, hfg.params⟩

section

variable (hR : Respects R P)
include hR

theorem select_alike {q q' : Query} (h : q.Alike R q')
    (hcounts : ∀ d, q.Level d → ∀ n ∈ d.counts, P n n) :
    Outcome.Alike (Statement.Alike P) (r.select q) (r.select q') := by
  have hquery := finish_alike (r := r) (query_alike (r := r) hR h hcounts)
  obtain ⟨c⟩ := q
  obtain ⟨c'⟩ := q'
  have hraw : Option.Rel (RawSql.Alike R) (Query.of c).clauses.raw (Query.of c').clauses.raw :=
    (Query.alike_of.1 h).raw
  rw [select, select]
  generalize (Query.of c).clauses.raw = raw at hraw ⊢
  generalize (Query.of c').clauses.raw = raw' at hraw ⊢
  cases hraw with
  | none => exact hquery
  | some hraw => exact .ok ⟨hraw.sql, hraw.params.imp fun _ _ => hR.param⟩

theorem assignment_alike {change change' : Assignment} (h : change.Alike R change') :
    Rendered.Alike P (r.assignment change) (r.assignment change') := by
  cases h with
  | @set f v w h =>
    refine Outcome.Alike.map_same _ fun c => ?_
    rw [(hR.sameClass h).isNull]
    split_ifs
    · exact .ofText _
    · exact (Fragment.Alike.ofText _).append (.placeholder (hR.param h))
  | increase f h =>
    refine Outcome.Alike.map_same _ fun c => ?_
    exact (Fragment.Alike.ofText _).append (.placeholder (hR.param h))
  | decrease f h =>
    refine Outcome.Alike.map_same _ fun c => ?_
    exact (Fragment.Alike.ofText _).append (.placeholder (hR.param h))

/-- The filter of a write is that of a query with nothing else. -/
theorem filter_alike {q q' : Query} (h : q.Alike R q')
    (hcounts : ∀ d, q.filtered.Level d → ∀ n ∈ d.counts, P n n) :
    Rendered.Alike P (r.whereClause (r.opened q)) (r.whereClause (r.opened q')) := by
  obtain ⟨c⟩ := q
  obtain ⟨c'⟩ := q'
  have hc : c.Alike R (Query.Alike R) c' := Query.alike_of.1 h
  have hfiltered : (Query.of c).filtered.clauses.Alike R (Query.Alike R)
      (Query.of c').filtered.clauses :=
    ⟨hc.table, rfl, rfl, .nil, rfl, hc.wheres, rfl, .nil, rfl, rfl, rfl, rfl, .none⟩
  have hopened : (r.opened (Query.of c).filtered).Alike R (Rendered.Alike P)
      (r.opened (Query.of c').filtered) :=
    hfiltered.map fun s hs s' hss =>
      query_alike hR hss fun d hd => hcounts d (.inner rfl hs hd)
  rw [whereClause_filtered, r.whereClause_filtered (.of c')]
  exact whereClause_alike hR hopened

theorem updateFragment_alike {q q' : Query} (h : q.Alike R q')
    (hcounts : ∀ d, q.filtered.Level d → ∀ n ∈ d.counts, P n n)
    {changes changes' : List Assignment}
    (hchanges : List.Forall₂ (Assignment.Alike R) changes changes') :
    Rendered.Alike P (r.updateFragment q changes) (r.updateFragment q' changes') := by
  have hset := Outcome.Alike.mapM (hchanges.imp fun _ _ hc => assignment_alike (r := r) hR hc)
  have hfilter := filter_alike (r := r) hR h hcounts
  rw [updateFragment, updateFragment, h.table]
  cases hchanges with
  | nil => exact .error _ _
  | cons hc hcs =>
    refine Outcome.Alike.bind_same _ fun table => ?_
    refine hset.bind fun set set' hset => ?_
    refine hfilter.bind fun filter filter' hfilter => ?_
    exact .ok (((Fragment.Alike.ofText _).append (.join ", " hset)).append hfilter)

theorem deleteFragment_alike {q q' : Query} (h : q.Alike R q')
    (hcounts : ∀ d, q.filtered.Level d → ∀ n ∈ d.counts, P n n) :
    Rendered.Alike P (r.deleteFragment q) (r.deleteFragment q') := by
  have hfilter := filter_alike (r := r) hR h hcounts
  rw [deleteFragment, deleteFragment, h.table]
  refine Outcome.Alike.bind_same _ fun table => ?_
  refine hfilter.bind fun filter filter' hfilter => ?_
  exact .ok ((Fragment.Alike.ofText _).append hfilter)

/-- Alike commands have alike statements. -/
theorem statement_alike {cmd cmd' : Command} (h : cmd.Alike R cmd')
    (hcounts : ∀ d, cmd.rows.Level d → ∀ n ∈ d.counts, P n n) :
    Outcome.Alike (Statement.Alike P) (r.statement cmd) (r.statement cmd') := by
  cases h with
  | select h => exact select_alike hR h hcounts
  | update h hchanges => exact finish_alike (updateFragment_alike hR h hcounts hchanges)
  | delete h => exact finish_alike (deleteFragment_alike hR h hcounts)

/-! ### Rows -/

theorem cell_alike {a b : Option Value} (h : Option.Rel R a b) : (cell a).Alike P (cell b) := by
  cases h with
  | none => exact .ofText "NULL"
  | @some v w h =>
    rw [cell, cell, (hR.sameClass h).isNull]
    split_ifs
    · exact .ofText "NULL"
    · exact .placeholder (hR.param h)

omit hR in
/-- A row sets a field iff an alike row does. -/
theorem value?_alike {row row' : InsertRow} (h : row.Alike R row') (field : String) :
    Option.Rel R (row.value? field) (row'.value? field) := by
  induction h with
  | nil => exact .none
  | @cons a b row row' hab _ ih =>
    obtain ⟨hfield, hvalue⟩ := hab
    rw [InsertRow.value?, InsertRow.value?, List.find?_cons, List.find?_cons, hfield]
    cases b.1 == field with
    | true => exact hvalue
    | false => exact ih

theorem tuple_alike (fields : List String) {row row' : InsertRow} (h : row.Alike R row') :
    (tuple fields row).Alike P (tuple fields row') := by
  refine Fragment.Alike.parenthesized (Fragment.Alike.join ", " ?_)
  rw [List.forall₂_map_left_iff, List.forall₂_map_right_iff, List.forall₂_same]
  exact fun field _ => cell_alike hR (value?_alike h field)

omit hR in
theorem writtenFields_alike (s : Schema) {rows rows' : List InsertRow}
    (h : List.Forall₂ (InsertRow.Alike R) rows rows') :
    writtenFields s rows = writtenFields s rows' := by
  rw [writtenFields, writtenFields]
  refine List.filter_congr fun field _ => ?_
  induction h with
  | nil => rfl
  | @cons row row' rows rows' hrow _ ih =>
    have hsome : (row.value? field).isSome = (row'.value? field).isSome := by
      have hvalue := value?_alike hrow field
      generalize row.value? field = a at hvalue ⊢
      generalize row'.value? field = b at hvalue ⊢
      cases hvalue <;> rfl
    rw [List.any_cons, List.any_cons, hsome, ih]

/-- Alike rows are inserted by alike statements. -/
theorem insert_alike (key : EntityKey) {rows rows' : List InsertRow}
    (h : List.Forall₂ (InsertRow.Alike R) rows rows') (returningId : Bool) :
    Outcome.Alike (Statement.Alike P) (r.insert key rows returningId)
      (r.insert key rows' returningId) := by
  have htuples : ∀ fields, List.Forall₂ (Fragment.Alike P) (rows.map (tuple fields))
      (rows'.map (tuple fields)) :=
    fun fields => List.rel_map (fun _ _ hrow => tuple_alike hR fields hrow) h
  have hfields : ∀ s, writtenFields s rows = writtenFields s rows' :=
    fun s => writtenFields_alike s h
  refine finish_alike ?_
  rw [insertFragment, insertFragment]
  cases h with
  | nil => exact .error _ _
  | cons hrow hrows =>
    refine Outcome.Alike.bind_same _ fun s => ?_
    rw [hfields s]
    generalize writtenFields s _ = fields
    -- the identifier is the same, wherever it comes from
    have hend : ∀ (start identifier : String), Fragment.Alike P
        (⟨start, []⟩ ++ Fragment.join ", " ((_ :: _).map (tuple fields)) ++ ⟨identifier, []⟩)
        (⟨start, []⟩ ++ Fragment.join ", " ((_ :: _).map (tuple fields)) ++ ⟨identifier, []⟩) :=
      fun start identifier =>
        ((Fragment.Alike.ofText start).append (.join ", " (htuples fields))).append
          (.ofText identifier)
    by_cases hnone : fields.isEmpty = true
    · rw [if_pos hnone, if_pos hnone]
      exact .error _ _
    rw [if_neg hnone, if_neg hnone]
    refine Outcome.Alike.bind_same _ fun columns => ?_
    refine Outcome.Alike.bind_same _ fun table => ?_
    split_ifs
    · refine Outcome.Alike.bind_same _ fun identifier => ?_
      exact .ok (hend _ identifier)
    · exact .ok (hend _ "")

end

/-- **Independence** of the text from the values: alike inputs are both refused, or have the same
text and corresponding parameters.  This goes for every dialect, for commands with sub-queries at
any depth, and for inserted rows. -/
theorem text_independent_of_values (r : Renderer) (hR : ∀ v w, R v w → v.SameClass w) :
    (∀ cmd cmd' : Command, cmd.Alike R cmd' →
        Outcome.Alike (Statement.Alike (Corresponds R cmd.rows)) (r.statement cmd)
          (r.statement cmd')) ∧
      ∀ (key : EntityKey) (rows rows' : List InsertRow) (returningId : Bool),
        List.Forall₂ (InsertRow.Alike R) rows rows' →
        Outcome.Alike (Statement.Alike R) (r.insert key rows returningId)
          (r.insert key rows' returningId) := by
  constructor
  · intro cmd cmd' h
    exact statement_alike ⟨hR _ _, Or.inl⟩ h fun d hd n hn => Or.inr ⟨d, hd, hn, rfl⟩
  · intro key rows rows' returningId h
    exact insert_alike ⟨hR _ _, id⟩ key h returningId

/-- Another bound makes another parameter, and the same text. -/
theorem text_independent_of_bound :
    Outcome.Alike
      (Statement.Alike (Corresponds (fun v w => v = .int 5 ∧ w = .int 9) (amountsAbove (.int 5))))
      ((Renderer.mk orders .mysql).statement (.select (amountsAbove (.int 5))))
      ((Renderer.mk orders .mysql).statement (.select (amountsAbove (.int 9)))) := by
  refine (text_independent_of_values ⟨orders, .mysql⟩ ?_).1 _ _ (.select (Query.alike_of.2 ?_))
  · rintro _ _ ⟨rfl, rfl⟩
    exact ⟨rfl, rfl, rfl⟩
  · have hitem : SelectItem.Alike (Query.Alike fun v w => v = .int 5 ∧ w = .int 9)
        ⟨.column amount, none, none⟩ ⟨.column amount, none, none⟩ := ⟨.column amount, rfl, rfl⟩
    have htest : Predicate.Alike (fun v w => v = .int 5 ∧ w = .int 9)
        (Query.Alike fun v w => v = .int 5 ∧ w = .int 9)
        ⟨amount, .gt, .value (.int 5)⟩ ⟨amount, .gt, .value (.int 9)⟩ :=
      ⟨rfl, rfl, .value ⟨rfl, rfl⟩⟩
    exact ⟨rfl, rfl, rfl, .cons hitem .nil, rfl, .cons htest .nil, rfl, .nil, rfl, rfl, rfl, rfl,
      .none⟩

end Renderer

end EntitySql
