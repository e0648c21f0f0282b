import EntitySql.Proofs.Layout.Rendering
import EntitySql.Proofs.Statement.Subquery

/-!
# Values without a place

In a dialect without aliases in `HAVING`, a target that names a selected item is replaced by that
item (`Renderer.Replaces`).  A test for membership in the empty list does not write its target: if
the item is a sub-query that binds values, these values are bound once more and have no place
(`Renderer.StrandsAt`).

This is the only way to lose a place.  The layout of a rendered query has no strays iff none of its
rendered levels has such a test (`strays_layout`), and the same goes for a command
(`strays_commandLayout`).
-/

namespace EntitySql

variable (r : Renderer) {S T : Type}

/-! ### Stranding tests -/

/-- A test for membership in the empty list. -/
def Operator.TestsEmpty (op : Operator) (operand : Operand S) : Prop :=
  (op = .in ∨ op = .notIn) ∧ operand = .list []

/-- The target names a selected item that takes its place. -/
def Renderer.Replaces (select : List (SelectItem S)) (t : ColumnRef) (i : SelectItem S) : Prop :=
  r.dialect.havingAllowsAlias = false ∧
    ∃ name, t = .aliased name ∧ select.find? (·.aliasName == some name) = some i

/-- A test for membership in the empty list whose target is replaced by a sub-query with values. -/
def Renderer.StrandsAt (binds : S → Prop) (select : List (SelectItem S)) (p : Predicate S) : Prop :=
  p.op.TestsEmpty p.operand ∧ ∃ i, r.Replaces select p.target i ∧ ∃ s ∈ i.subs, binds s

/-- A query that is rendered with values. -/
def Renderer.Binds (q : Query) : Prop := ∃ f, r.query q = .ok f ∧ f.params ≠ []

/-- A level with a stranding test in `HAVING`. -/
def Renderer.Strands (c : Clauses Query) : Prop :=
  c.raw = none ∧ ∃ p ∈ c.havings, r.StrandsAt r.Binds c.select p

/-- A query without a level that strands values. -/
def Renderer.KeepsPlaces (q : Query) : Prop := ∀ d, q.Level d → ¬ r.Strands d

variable {r}

theorem Renderer.Replaces.mem {select : List (SelectItem S)} {t : ColumnRef} {i : SelectItem S}
    (h : r.Replaces select t i) : i ∈ select := by
  obtain ⟨-, name, -, hfind⟩ := h
  exact List.mem_of_find?_eq_some hfind

/-- At most one item takes the place of a target. -/
theorem Renderer.Replaces.unique {select : List (SelectItem S)} {t : ColumnRef}
    {i j : SelectItem S} (hi : r.Replaces select t i) (hj : r.Replaces select t j) : i = j := by
  obtain ⟨-, name, rfl, hfind⟩ := hi
  obtain ⟨-, name', hname, hfind'⟩ := hj
  obtain rfl := ColumnRef.aliased.inj hname
  exact Option.some.inj (hfind.symm.trans hfind')

/-! ### Replaced sub-queries -/

theorem Operator.testsEmpty_map (f : S → T) (op : Operator) (operand : Operand S) :
    op.TestsEmpty (operand.map f) ↔ op.TestsEmpty operand := by
  cases operand <;> simp [Operator.TestsEmpty, Operand.map]

theorem Renderer.replaces_map (f : S → T) {select : List (SelectItem S)} {t : ColumnRef}
    {j : SelectItem T} :
    r.Replaces (select.map (SelectItem.map f)) t j ↔ ∃ i, r.Replaces select t i ∧ i.map f = j := by
  simp only [Replaces, find?_map_aliasName, Option.map_eq_some_iff]
  constructor
  · rintro ⟨hknown, name, ht, i, hi, rfl⟩
    exact ⟨i, ⟨hknown, name, ht, hi⟩, rfl⟩
  · rintro ⟨i, ⟨hknown, name, ht, hi⟩, rfl⟩
    exact ⟨hknown, name, ht, i, hi, rfl⟩

theorem Renderer.strandsAt_map (f : S → T) (binds : T → Prop) (select : List (SelectItem S))
    (p : Predicate S) :
    r.StrandsAt binds (select.map (SelectItem.map f)) (p.map f) ↔
      r.StrandsAt (fun s => binds (f s)) select p := by
  unfold StrandsAt
  rw [show (p.map f).op.TestsEmpty (p.map f).operand ↔ _ from
    Operator.testsEmpty_map f p.op p.operand]
  refine and_congr_right fun _ => ?_
  -- the item on either side is the one that the target names, with its sub-query translated
  constructor
  · rintro ⟨j, hj, l, hl, hbinds⟩
    obtain ⟨i, hi, rfl⟩ := replaces_map f |>.1 hj
    rw [SelectItem.subs_map] at hl
    obtain ⟨s, hs, rfl⟩ := List.mem_map.1 hl
    exact ⟨i, hi, s, hs, hbinds⟩
  · rintro ⟨i, hi, s, hs, hbinds⟩
    refine ⟨i.map f, (replaces_map f).2 ⟨i, hi, rfl⟩, f s, ?_, hbinds⟩
    rw [SelectItem.subs_map]
    exact List.mem_map_of_mem hs

/-- A test on a replaced target strands iff the one item binds. -/
theorem Renderer.strandsAt_of_replaces {binds : S → Prop} {select : List (SelectItem S)}
    {p : Predicate S} {i : SelectItem S} (hi : r.Replaces select p.target i) :
    r.StrandsAt binds select p ↔ p.op.TestsEmpty p.operand ∧ ∃ s ∈ i.subs, binds s := by
  refine and_congr_right fun _ => ⟨?_, fun h => ⟨i, hi, h⟩⟩
  rintro ⟨j, hj, h⟩
  rw [hi.unique hj]
  exact h

/-- Which items take the place of targets does not depend on what is counted as binding. -/
theorem Renderer.strandsAt_congr {binds binds' : S → Prop} {select : List (SelectItem S)}
    (h : ∀ i ∈ select, ∀ s ∈ i.subs, (binds s ↔ binds' s)) (p : Predicate S) :
    r.StrandsAt binds select p ↔ r.StrandsAt binds' select p := by
  refine and_congr_right fun _ => exists_congr fun i => and_congr_right fun hi => ?_
  exact exists_congr fun s => and_congr_right fun hs => h i hi.mem s hs

namespace Layout

theorem strays_eq_nil_of_values_eq_nil {l : Layout} (h : l.values = []) : l.strays = [] := by
  have hlength := length_values_eq_width l
  rw [h, List.length_nil] at hlength
  exact List.eq_nil_of_length_eq_zero (by omega)

theorem strays_weave (texts : List String) (ls : List Layout) :
    strays (weave texts ls) = ls.flatMap strays := by
  induction texts generalizing ls with
  | nil =>
    rw [weave]
    induction ls with
    | nil => rfl
    | cons l ls ih => rw [List.flatten_cons, strays_append, ih, List.flatMap_cons]
  | cons t texts ih =>
    cases ls with
    | nil => rfl
    | cons l ls =>
      rw [weave, List.cons_append, strays_cons, strays_append, ih, List.flatMap_cons]
      rfl

end Layout

namespace Renderer

variable {w : r.dialect.Weaving}

/-! ### Strays of a predicate -/

theorem strays_itemLayout (i : SelectItem Layout) :
    (r.itemLayout i).strays = i.subs.flatMap Layout.strays := by
  obtain ⟨expr, aggregate, aliasName⟩ := i
  cases expr <;> cases aggregate <;>
    simp [itemLayout, expressionLayout, aggregatedLayout, SelectItem.subs, columnLayout,
      Piece.strays]

theorem values_itemLayout (i : SelectItem Layout) :
    (r.itemLayout i).values = i.subs.flatMap Layout.values := by
  obtain ⟨expr, aggregate, aliasName⟩ := i
  cases expr <;> cases aggregate <;>
    simp [itemLayout, expressionLayout, aggregatedLayout, SelectItem.subs, columnLayout,
      Layout.values, Piece.fragment, Fragment.parenthesized]

/-- A target in `HAVING` is the item that it names, or a text. -/
theorem targetLayout_having (select : List (SelectItem Layout)) (t : ColumnRef) :
    (∃ i, r.Replaces select t i ∧ r.targetLayout select .having t = r.itemLayout i) ∨
      ((∀ i, ¬ r.Replaces select t i) ∧ ∃ s, r.targetLayout select .having t = [.text s]) := by
  cases t with
  | aliased name =>
    rw [targetLayout]
    -- an alias names an item only if it is not allowed and is found; columns and texts never do
    by_cases hknown : r.dialect.havingAllowsAlias = true
    · rw [if_pos hknown]
      refine Or.inr ⟨?_, name, rfl⟩
      rintro i ⟨hunknown, -⟩
      rw [hknown] at hunknown
      cases hunknown
    · rw [if_neg hknown]
      cases hfind : select.find? (·.aliasName == some name) with
      | some i => exact Or.inl ⟨i, ⟨eq_false_of_ne_true hknown, name, rfl, hfind⟩, rfl⟩
      | none =>
        refine Or.inr ⟨?_, name, rfl⟩
        rintro i ⟨-, name', hname, hfind'⟩
        obtain rfl := ColumnRef.aliased.inj hname
        rw [hfind] at hfind'
        cases hfind'
  | field qualifier f =>
    refine Or.inr ⟨?_, _, rfl⟩
    rintro i ⟨-, name, hname, -⟩
    cases hname
  | expr sql =>
    refine Or.inr ⟨?_, _, rfl⟩
    rintro i ⟨-, name, hname, -⟩
    cases hname

theorem strays_patternLayout (vs : List Value) : (patternLayout r w vs).strays = [] := by
  have hpart : ∀ v, Layout.strays [partPiece v] = [] := by
    intro v
    rw [partPiece]
    split_ifs <;> rfl
  unfold patternLayout
  split
  · exact hpart _
  · rw [Layout.strays_weave, List.flatMap_map, List.flatMap_eq_nil_iff]
    exact fun v _ => hpart v

theorem strays_infixedLayout (lhs : Layout) (op : Operator) (rhs : Layout) :
    (infixedLayout lhs op rhs).strays = lhs.strays ++ rhs.strays := by
  rw [infixedLayout, Layout.strays_append, Layout.strays_cons]
  rfl

theorem strays_valueLayout (lhs : Layout) (op : Operator) (v : Value) :
    (valueLayout r w lhs op v).strays = lhs.strays := by
  rw [valueLayout]
  split_ifs <;> simp [strays_infixedLayout, Piece.strays]

theorem strays_membershipLayout (lhs : Layout) (op : Operator) (vs : List Value) :
    (membershipLayout lhs op vs).strays = if vs = [] then lhs.values else lhs.strays := by
  cases vs with
  | nil =>
    rw [membershipLayout, Layout.strays_append, Layout.strays_dropped]
    exact List.append_nil _
  | cons v vs =>
    have hslots : ((v :: vs).map fun v => [Piece.slot v]).flatMap Layout.strays = [] := by
      rw [List.flatMap_map, List.flatMap_eq_nil_iff]
      exact fun v _ => rfl
    rw [if_neg (List.cons_ne_nil v vs)]
    show (infixedLayout lhs op _).strays = _
    rw [strays_infixedLayout, Layout.strays_parenthesized, Layout.strays_join, hslots,
      List.append_nil]

theorem strays_rangeLayout (lhs : Layout) (op : Operator) (vs : List Value) :
    (rangeLayout lhs op vs).strays = lhs.strays := by
  unfold rangeLayout
  split
  · simp [strays_infixedLayout, Piece.strays]
  · rfl

/-- A test for membership in the empty list drops its target. -/
theorem strays_conditionLayout_of_testsEmpty (lhs : Layout) {op : Operator}
    {operand : Operand Layout} (h : op.TestsEmpty operand) :
    (r.conditionLayout w lhs op operand).strays = lhs.values := by
  obtain ⟨rfl | rfl, rfl⟩ := h
  · exact strays_membershipLayout lhs .in []
  · exact strays_membershipLayout lhs .notIn []

/-- Nothing else does. -/
theorem strays_conditionLayout (lhs : Layout) {op : Operator} {operand : Operand Layout}
    (h : ¬ op.TestsEmpty operand) :
    (r.conditionLayout w lhs op operand).strays =
      lhs.strays ++ operand.subs.flatMap Layout.strays := by
  cases operand with
  | absent => simp [conditionLayout, Piece.strays, Operand.subs]
  | raw sql => simp [conditionLayout, Piece.strays, Operand.subs]
  | sub l => simp [conditionLayout, strays_infixedLayout, Operand.subs]
  | column c =>
    simp [conditionLayout, strays_infixedLayout, Operand.subs, columnLayout, Piece.strays]
  | list vs =>
    rw [show (Operand.list vs : Operand Layout).subs = [] from rfl, List.flatMap_nil,
      List.append_nil]
    have hmembership : (op = .in ∨ op = .notIn) →
        (membershipLayout lhs op vs).strays = lhs.strays := by
      intro hop
      -- the empty list is what `h` excludes
      have hne : vs ≠ [] := by
        rintro rfl
        exact h ⟨hop, rfl⟩
      rw [strays_membershipLayout, if_neg hne]
    cases op with
    | «in» => exact hmembership (Or.inl rfl)
    | notIn => exact hmembership (Or.inr rfl)
    | like | notLike =>
      rw [conditionLayout, strays_infixedLayout, strays_patternLayout, List.append_nil]
    | _ => exact strays_rangeLayout lhs _ vs
  | value v =>
    rw [show (Operand.value v : Operand Layout).subs = [] from rfl, List.flatMap_nil,
      List.append_nil]
    unfold conditionLayout
    dsimp only
    split
    · simp [Piece.strays]
    · rw [strays_infixedLayout, strays_patternLayout, List.append_nil]
    · rw [strays_infixedLayout, strays_patternLayout, List.append_nil]
    · exact strays_valueLayout lhs op v

/-- The target of a predicate in `WHERE` is a text. -/
theorem strays_predicateLayout_where (select : List (SelectItem Layout)) (p : Predicate Layout) :
    (r.predicateLayout w select .where p).strays = p.operand.subs.flatMap Layout.strays := by
  by_cases h : p.op.TestsEmpty p.operand
  · rw [predicateLayout, strays_conditionLayout_of_testsEmpty _ h, h.2]
    rfl
  · rw [predicateLayout, strays_conditionLayout _ h]
    rfl

/-- A predicate in `HAVING` whose target is replaced by an item has strays iff it strands or a
sub-query in the item or in its operand has strays. -/
theorem strays_predicateLayout_of_replaces {select : List (SelectItem Layout)}
    {p : Predicate Layout} {i : SelectItem Layout} (hi : r.Replaces select p.target i) :
    (r.predicateLayout w select .having p).strays = [] ↔
      ¬ r.StrandsAt (fun l => l.values ≠ []) select p ∧ (∀ l ∈ i.subs, l.strays = []) ∧
        ∀ l ∈ p.operand.subs, l.strays = [] := by
  have htarget : r.targetLayout select .having p.target = r.itemLayout i := by
    rcases targetLayout_having select p.target with ⟨j, hj, htarget⟩ | ⟨hnone, -⟩
    · rw [hi.unique hj, htarget]
    · exact absurd hi (hnone i)
  rw [strandsAt_of_replaces hi]
  by_cases h : p.op.TestsEmpty p.operand
  · -- the item is dropped: its values are the strays
    have hsubs : p.operand.subs = [] := by
      rw [h.2]
      rfl
    rw [predicateLayout, strays_conditionLayout_of_testsEmpty _ h, htarget, values_itemLayout,
      List.flatMap_eq_nil_iff, hsubs]
    constructor
    · intro hvalues
      refine ⟨?_, fun l hl => Layout.strays_eq_nil_of_values_eq_nil (hvalues l hl),
        List.forall_mem_nil _⟩
      rintro ⟨-, l, hl, hbinds⟩
      exact hbinds (hvalues l hl)
    · rintro ⟨hstrands, -, -⟩ l hl
      by_contra hbinds
      exact hstrands ⟨h, l, hl, hbinds⟩
  · -- the item is written, with the strays of its sub-query
    rw [predicateLayout, strays_conditionLayout _ h, htarget, strays_itemLayout,
      List.append_eq_nil_iff, List.flatMap_eq_nil_iff, List.flatMap_eq_nil_iff]
    exact ⟨fun hstrays => ⟨fun hstrands => h hstrands.1, hstrays⟩, And.right⟩

/-- Any other target in `HAVING` is a text, which has no strays. -/
theorem strays_predicateLayout_of_not_replaces {select : List (SelectItem Layout)}
    {p : Predicate Layout} (hnone : ∀ i, ¬ r.Replaces select p.target i) :
    (r.predicateLayout w select .having p).strays = p.operand.subs.flatMap Layout.strays := by
  rcases targetLayout_having select p.target with ⟨i, hi, -⟩ | ⟨-, s, htarget⟩
  · exact absurd hi (hnone i)
  by_cases h : p.op.TestsEmpty p.operand
  · rw [predicateLayout, strays_conditionLayout_of_testsEmpty _ h, htarget, h.2]
    rfl
  · rw [predicateLayout, strays_conditionLayout _ h, htarget]
    rfl

/-- A predicate in `HAVING` has strays iff it strands or a sub-query in it has strays. -/
theorem strays_predicateLayout_having (select : List (SelectItem Layout)) (p : Predicate Layout) :
    (r.predicateLayout w select .having p).strays = [] ↔
      ¬ r.StrandsAt (fun l => l.values ≠ []) select p ∧
        (∀ i, r.Replaces select p.target i → ∀ l ∈ i.subs, l.strays = []) ∧
        ∀ l ∈ p.operand.subs, l.strays = [] := by
  by_cases h : ∃ i, r.Replaces select p.target i
  · obtain ⟨i, hi⟩ := h
    have hitem : (∀ j, r.Replaces select p.target j → ∀ l ∈ j.subs, l.strays = []) ↔
        ∀ l ∈ i.subs, l.strays = [] :=
      ⟨fun hitems => hitems i hi, fun hitem _ hj => hi.unique hj ▸ hitem⟩
    rw [strays_predicateLayout_of_replaces hi, hitem]
  · rw [not_exists] at h
    rw [strays_predicateLayout_of_not_replaces h, List.flatMap_eq_nil_iff]
    refine ⟨fun hoperand => ⟨?_, fun i hi => absurd hi (h i), hoperand⟩, fun hall => hall.2.2⟩
    rintro ⟨-, i, hi, -⟩
    exact h i hi

/-! ### Strays of a level -/

theorem strays_selectListLayout (is : List (SelectItem Layout)) :
    (r.selectListLayout is).strays = [] ↔ ∀ i ∈ is, ∀ l ∈ i.subs, l.strays = [] := by
  have hitem : ∀ i, (r.selectItemLayout i).strays = i.subs.flatMap Layout.strays := by
    intro i
    rw [selectItemLayout, Layout.strays_append, strays_itemLayout]
    exact List.append_nil _
  rw [selectListLayout]
  cases is with
  | nil => exact ⟨fun _ => List.forall_mem_nil _, fun _ => rfl⟩
  | cons i is =>
    rw [if_neg (by simp), Layout.strays_join, List.flatMap_map, List.flatMap_eq_nil_iff]
    simp only [hitem, List.flatMap_eq_nil_iff]

theorem strays_conjunctionLayout (keyword : String) (select : List (SelectItem Layout))
    (sec : Section) (ps : List (Predicate Layout)) :
    (r.conjunctionLayout w keyword select sec ps).strays = [] ↔
      ∀ p ∈ ps, (r.predicateLayout w select sec p).strays = [] := by
  rw [conjunctionLayout]
  cases ps with
  | nil => exact ⟨fun _ => List.forall_mem_nil _, fun _ => rfl⟩
  | cons p ps =>
    rw [if_neg (by simp), Layout.strays_cons, Layout.strays_join, List.flatMap_map]
    exact List.flatMap_eq_nil_iff

theorem strays_page (d : Dialect) (limit offset : Option UInt64) (ordered : Bool) :
    (d.pageLayout limit offset ordered).strays = [] := by
  rw [Dialect.pageLayout]
  cases d.pagination with
  | offsetCount => rfl
  | countOffset => rfl
  | offsetFetch => cases limit <;> cases ordered <;> rfl

theorem strays_whereLayout (c : Clauses Layout) :
    (r.whereLayout w c).strays = [] ↔ ∀ p ∈ c.wheres, ∀ l ∈ p.operand.subs, l.strays = [] := by
  rw [whereLayout, strays_conjunctionLayout]
  simp only [strays_predicateLayout_where, List.flatMap_eq_nil_iff]

/-- A level has strays iff a sub-query of it has or one of its predicates strands. -/
theorem strays_levelLayout {c : Clauses Layout} (hraw : c.raw = none) :
    (r.levelLayout w c).strays = [] ↔
      (∀ l ∈ c.subs, l.strays = []) ∧
        ∀ p ∈ c.havings, ¬ r.StrandsAt (fun l => l.values ≠ []) c.select p := by
  have htail : (r.tailLayout c).strays = [] := by
    rw [tailLayout, pageLayout]
    split_ifs <;> simp [Piece.strays, strays_page]
  have hsource : (r.sourceLayout w c).strays =
      (r.whereLayout w c).strays ++ (r.havingLayout w c).strays := by
    simp [sourceLayout, Piece.strays]
  -- the page and the texts have no strays
  have hlevel : (r.levelLayout w c).strays = (r.selectListLayout c.select).strays ++
      ((r.whereLayout w c).strays ++ (r.havingLayout w c).strays) := by
    rw [levelLayout, hraw]
    simp [htail, hsource, Piece.strays]
  rw [hlevel, List.append_eq_nil_iff, List.append_eq_nil_iff, strays_selectListLayout,
    strays_whereLayout, havingLayout, strays_conjunctionLayout]
  simp only [strays_predicateLayout_having]
  constructor
  · rintro ⟨hselect, hwheres, hhavings⟩
    refine ⟨fun l hl => ?_, fun p hp => (hhavings p hp).1⟩
    rcases Clauses.mem_subs.1 hl with ⟨i, hi, hl⟩ | ⟨p, hp, hl⟩ | ⟨p, hp, hl⟩
    · exact hselect i hi l hl
    · exact hwheres p hp l hl
    · exact (hhavings p hp).2.2 l hl
  · rintro ⟨hsubs, hhavings⟩
    refine ⟨fun i hi l hl => hsubs l (Clauses.mem_subs_of_select hi hl),
      fun p hp l hl => hsubs l (Clauses.mem_subs_of_wheres hp hl), fun p hp => ?_⟩
    exact ⟨hhavings p hp, fun i hi l hl => hsubs l (Clauses.mem_subs_of_select hi.mem hl),
      fun l hl => hsubs l (Clauses.mem_subs_of_havings hp hl)⟩

/-! ### Strays of a query -/

/-- The values of the layout are the parameters of the rendered query. -/
theorem binds_iff {q : Query} {f : Fragment} (h : r.query q = .ok f) :
    r.Binds q ↔ (r.layout w q).values ≠ [] := by
  rw [Layout.values, ← query_fits w q f h]
  constructor
  · rintro ⟨g, hg, hparams⟩
    obtain rfl := Except.ok.inj (h.symm.trans hg)
    exact hparams
  · exact fun hparams => ⟨f, h, hparams⟩

/-- On a level with rendered sub-queries, the layouts show which tests strand values. -/
theorem strandsAt_layout {c : Clauses Query} (hsubs : ∀ q ∈ c.subs, ∃ g, r.query q = .ok g)
    (p : Predicate Query) :
    r.StrandsAt (fun l => l.values ≠ []) (c.select.map (SelectItem.map (r.layout w)))
      (p.map (r.layout w)) ↔ r.StrandsAt r.Binds c.select p := by
  rw [strandsAt_map]
  refine strandsAt_congr (fun i hi q hq => ?_) p
  obtain ⟨g, hg⟩ := hsubs q (Clauses.mem_subs_of_select hi hq)
  exact (binds_iff hg).symm

/-- The layout of a rendered query has no strays iff none of its levels strands values. -/
theorem strays_layout {q : Query} {f : Fragment} (h : r.query q = .ok f) :
    (r.layout w q).strays = [] ↔ r.KeepsPlaces q := by
  induction q using Query.induct generalizing f with
  | level c ih =>
    rw [layout_of]
    cases hraw : c.raw with
    | some raw =>
      -- the override is one piece, and the only level
      rw [levelLayout, show (c.map (r.layout w)).raw = some raw from hraw]
      refine ⟨fun _ d hd hstrands => ?_, fun _ => rfl⟩
      rcases Query.level_of_iff.1 hd with rfl | ⟨hnone, -⟩
      · exact absurd (hraw.symm.trans hstrands.1) (Option.some_ne_none raw)
      · exact absurd (hraw.symm.trans hnone) (Option.some_ne_none raw)
    | none =>
      have hsubs : ∀ q ∈ c.subs, ∃ g, r.query q = .ok g := query_ok_of_mem_subs hraw h
      -- the outermost level adds its own tests to those of the sub-queries
      have hlevel : (∀ p ∈ (c.map (r.layout w)).havings,
          ¬ r.StrandsAt (fun l => l.values ≠ []) (c.map (r.layout w)).select p) ↔
            ¬ r.Strands c := by
        simp only [Clauses.map, List.forall_mem_map, strandsAt_layout hsubs, Strands, hraw,
          true_and, not_exists, not_and]
      rw [strays_levelLayout (c := c.map (r.layout w)) hraw, hlevel, Clauses.subs_map,
        List.forall_mem_map]
      constructor
      · rintro ⟨hstrays, hstrands⟩ d hd
        rcases Query.level_of_iff.1 hd with rfl | ⟨-, q, hq, hd⟩
        · exact hstrands
        · obtain ⟨g, hg⟩ := hsubs q hq
          exact (ih q hq hg).1 (hstrays q hq) d hd
      · intro hlevels
        refine ⟨fun q hq => ?_, hlevels c (.outermost c)⟩
        obtain ⟨g, hg⟩ := hsubs q hq
        exact (ih q hq hg).2 fun d hd => hlevels d (.inner hraw hq hd)

theorem strays_assignmentLayout (change : Assignment) :
    (r.assignmentLayout change).strays = [] := by
  cases change with
  | set f v =>
    rw [assignmentLayout]
    split_ifs <;> rfl
  | increase f v => rfl
  | decrease f v => rfl

/-- A write has no `HAVING` of its own. -/
theorem strays_filteredLayout {q : Query} {f : Fragment}
    (h : r.whereClause (r.opened q) = .ok f) :
    (r.whereLayout w (q.clauses.map (r.layout w))).strays = [] ↔
      r.KeepsPlaces q.filtered := by
  have hsubs : ∀ p ∈ q.clauses.wheres, ∀ s ∈ p.operand.subs, ∃ g, r.query s = .ok g := by
    intro p hp
    obtain ⟨g, hg⟩ := predicate_ok_of_conjunction h p hp
    exact ok_of_predicate hg
  simp only [strays_whereLayout, Clauses.map, List.forall_mem_map, Predicate.map,
    Operand.subs_map]
  -- the query of the filter alone has no targets to strand, so its sub-queries decide
  constructor
  · intro hstrays d hd
    rcases Query.level_of_iff.1 hd with rfl | ⟨-, s, hs, hd⟩
    · rintro ⟨-, p, hp, -⟩
      cases hp
    · rcases Clauses.mem_subs.1 hs with ⟨i, hi, -⟩ | ⟨p, hp, hs⟩ | ⟨p, hp, -⟩
      · cases hi
      · obtain ⟨g, hg⟩ := hsubs p hp s hs
        exact (strays_layout hg).1 (hstrays p hp s hs) d hd
      · cases hp
  · intro hlevels p hp s hs
    obtain ⟨g, hg⟩ := hsubs p hp s hs
    have hmem : s ∈ q.filtered.clauses.subs :=
      Clauses.mem_subs_of_wheres (c := q.filtered.clauses) hp hs
    exact (strays_layout hg).2 fun d hd => hlevels d (.inner rfl hmem hd)

/-- The layout of a rendered command has no strays iff no level of its rows strands values. -/
theorem strays_commandLayout {cmd : Command} {f : Fragment} (h : r.draft cmd = .ok f) :
    (r.commandLayout w cmd).strays = [] ↔ r.KeepsPlaces cmd.rows := by
  cases cmd with
  | select q => exact strays_layout h
  | update q changes =>
    obtain ⟨-, -, -, -, -, filter, hfilter, -⟩ := r.updateFragment_eq_ok.1 h
    have hset : (Layout.join ", " (changes.map r.assignmentLayout)).strays = [] := by
      rw [Layout.strays_join, List.flatMap_map, List.flatMap_eq_nil_iff]
      exact fun change _ => strays_assignmentLayout change
    rw [commandLayout, List.cons_append, Layout.strays_cons, Layout.strays_append, hset]
    exact strays_filteredLayout hfilter
  | delete q =>
    obtain ⟨-, -, filter, hfilter, -⟩ := r.deleteFragment_eq_ok.1 h
    rw [commandLayout, Layout.strays_cons]
    exact strays_filteredLayout hfilter

end Renderer

end EntitySql
