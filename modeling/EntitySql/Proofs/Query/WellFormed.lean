import EntitySql.Catalog
import EntitySql.Failure
import EntitySql.Proofs.Query.Level

/-!
# Well-formed queries

A query is well-formed if at every rendered level each join has a condition and each predicate has
an operator that takes its operand (`Query.WellFormed`).  Which operands an operator takes is said
for each kind of operand (`Operator.Takes`).

`Query.offences` lists what is wrong with a query, in the order in which it is rendered: the select
list, the joins, `WHERE` and `HAVING`, where the offences of a sub-query stand in the place of the
item or the predicate that it belongs to.  Nothing is wrong with a query iff it is well-formed
(`Query.offences_eq_nil`).

`Query.Registered` says that a catalog has all tables and fields of the rendered levels.
-/

namespace EntitySql

variable {S T : Type}

/-! ### Operators and their operands -/

namespace Operator

/-- The operators that compare the target with one value or column. -/
def comparisons : List Operator := [.eq, .ne, .gt, .ge, .lt, .le]

/-- The operators that compare the target with a pattern. -/
def patterns : List Operator := [.like, .notLike]

/-- The operators that look the target up in a list. -/
def memberships : List Operator := [.in, .notIn]

/-- The operators that compare the target with two ends. -/
def ranges : List Operator := [.between, .notBetween]

/-- The tests for null. -/
def nullTests : List Operator := [.isNull, .isNotNull]

/-- Whether an operator takes an operand. -/
def Takes (op : Operator) : Operand S → Prop
  | .absent => op ∈ nullTests
  | .value (.text _) => op = .raw ∨ op ∈ patterns ∨ op ∈ comparisons
  | .value _ => op ∈ patterns ∨ op ∈ comparisons
  | .list vs => op ∈ memberships ∨ (op ∈ patterns ∧ vs ≠ []) ∨ (op ∈ ranges ∧ vs.length = 2)
  | .sub _ => op ≠ .raw ∧ op ∉ nullTests
  | .column _ => op = .rawEq ∨ op ∈ comparisons
  | .raw _ => op = .raw

instance (op : Operator) : (operand : Operand S) → Decidable (op.Takes operand)
  | .absent => inferInstanceAs (Decidable (_ ∈ _))
  | .value (.text _) => inferInstanceAs (Decidable (_ ∨ _ ∨ _))
  | .value .null | .value (.bool _) | .value (.int _) | .value (.float _) | .value (.uuid _)
  | .value (.timestamp _) => inferInstanceAs (Decidable (_ ∨ _))
  | .list _ => inferInstanceAs (Decidable (_ ∨ _ ∨ _))
  | .sub _ => inferInstanceAs (Decidable (_ ∧ _))
  | .column _ => inferInstanceAs (Decidable (_ ∨ _))
  | .raw _ => inferInstanceAs (Decidable (_ = _))

/-- The operand as a refusal shows it. -/
def shown : Operand S → Operand Empty
  | .absent | .sub _ => .absent
  | .value v => .value v
  | .list vs => .list vs
  | .column c => .column c
  | .raw sql => .raw sql

/-- Why an operator refuses an operand that it does not take. -/
def refusal (op : Operator) (operand : Operand S) : Refusal :=
  match op with
  | .raw => .rawNeedsText
  | .isNull | .isNotNull => .nullCheckWithOperand
  | .rawEq => .columnNeeded
  | .in | .notIn => .listNeeded op
  | .like | .notLike =>
    match operand with
    | .list _ => .emptyPattern
    | _ => .patternNeeded
  | .between | .notBetween => .twoValuesNeeded op
  | .eq | .ne | .gt | .ge | .lt | .le => .operandRefused op (shown operand)

theorem mem_comparisons {op : Operator} :
    op ∈ comparisons ↔ op = .eq ∨ op = .ne ∨ op = .gt ∨ op = .ge ∨ op = .lt ∨ op = .le := by
  simp [comparisons]

theorem takes_value {op : Operator} {v : Value} :
    op.Takes (.value v : Operand S) ↔
      (op = .raw ∧ ∃ sql, v = .text sql) ∨ op ∈ patterns ∨ op ∈ comparisons := by
  cases v <;> simp [Takes]

/-- Sub-queries may be replaced behind an operator. -/
theorem takes_map (f : S → T) (op : Operator) (operand : Operand S) :
    op.Takes (operand.map f) ↔ op.Takes operand := by
  cases operand with
  | value v => cases v <;> rfl
  | _ => rfl

/-- Sub-queries do not change the wording of a refusal. -/
theorem refusal_map (f : S → T) (op : Operator) (operand : Operand S) :
    op.refusal (operand.map f) = op.refusal operand := by
  cases operand <;> rfl

end Operator

/-! ### Well-formed levels -/

/-- A level whose joins have conditions and whose operators take their operands. -/
structure Clauses.WellFormed (c : Clauses S) : Prop where
  joins : ∀ j ∈ c.joins, j.on ≠ []
  wheres : ∀ p ∈ c.wheres, p.op.Takes p.operand
  havings : ∀ p ∈ c.havings, p.op.Takes p.operand

/-- A query whose rendered levels are well-formed; raw SQL is not looked into. -/
def Query.WellFormed (q : Query) : Prop := ∀ d, q.Level d → d.raw = none → d.WellFormed

/-! ### Offences in the order of rendering -/

/-- What is wrong with a selected item: what is wrong with its sub-query. -/
def SelectItem.offences (i : SelectItem (List Refusal)) : List Refusal := i.subs.flatten

/-- A join without conditions is wrong. -/
def Join.offences (j : Join) : List Refusal :=
  if j.on = [] then [.joinWithoutConditions j.table] else []

/-- A predicate is wrong if its operator does not take its operand; if it does, what is wrong with
the sub-query is wrong. -/
def Predicate.offences (p : Predicate (List Refusal)) : List Refusal :=
  if p.op.Takes p.operand then p.operand.subs.flatten else [p.op.refusal p.operand]

/-- What is wrong with a level, given what is wrong with its sub-queries; nothing with raw SQL. -/
def Clauses.offences (c : Clauses (List Refusal)) : List Refusal :=
  match c.raw with
  | some _ => []
  | none => c.select.flatMap (·.offences) ++ c.joins.flatMap (·.offences) ++
      c.wheres.flatMap (·.offences) ++ c.havings.flatMap (·.offences)

/-- What is wrong with a query, in the order in which it is rendered. -/
def Query.offences : Query → List Refusal := Query.fold Clauses.offences

section

variable {offences : S → List Refusal}

theorem SelectItem.offences_eq_nil {i : SelectItem S} :
    (i.map offences).offences = [] ↔ ∀ s ∈ i.subs, offences s = [] := by
  rw [SelectItem.offences, SelectItem.subs_map, List.flatten_eq_nil_iff, List.forall_mem_map]

theorem Join.offences_eq_nil {j : Join} : j.offences = [] ↔ j.on ≠ [] := by
  by_cases h : j.on = [] <;> simp [Join.offences, h]

theorem Predicate.offences_of_takes {p : Predicate S} (h : p.op.Takes p.operand) :
    (p.map offences).offences = (p.operand.map offences).subs.flatten :=
  if_pos ((Operator.takes_map offences p.op p.operand).2 h)

theorem Predicate.offences_of_not_takes {p : Predicate S} (h : ¬ p.op.Takes p.operand) :
    (p.map offences).offences = [p.op.refusal p.operand] := by
  rw [← Operator.refusal_map offences]
  exact if_neg fun h' => h ((Operator.takes_map offences p.op p.operand).1 h')

theorem Predicate.offences_eq_nil {p : Predicate S} :
    (p.map offences).offences = [] ↔
      p.op.Takes p.operand ∧ ∀ s ∈ p.operand.subs, offences s = [] := by
  by_cases h : p.op.Takes p.operand
  · rw [Predicate.offences_of_takes h, Operand.subs_map, List.flatten_eq_nil_iff,
      List.forall_mem_map]
    exact ⟨fun hnil => ⟨h, hnil⟩, And.right⟩
  · rw [Predicate.offences_of_not_takes h]
    exact ⟨fun hnil => absurd hnil (List.cons_ne_nil _ _), fun hok => absurd hok.1 h⟩

/-- Nothing is wrong with a level iff it is well-formed and nothing is wrong with its
sub-queries. -/
theorem Clauses.offences_eq_nil {c : Clauses S} (hraw : c.raw = none) :
    (c.map offences).offences = [] ↔ c.WellFormed ∧ ∀ s ∈ c.subs, offences s = [] := by
  rw [Clauses.offences, show (c.map offences).raw = none from hraw]
  simp only [Clauses.map, List.append_eq_nil_iff, List.flatMap_eq_nil_iff, List.forall_mem_map,
    SelectItem.offences_eq_nil, Join.offences_eq_nil, Predicate.offences_eq_nil]
  -- a sub-query belongs to the select list, to `WHERE` or to `HAVING`
  constructor
  · rintro ⟨⟨⟨hselect, hjoins⟩, hwheres⟩, hhavings⟩
    refine ⟨⟨hjoins, fun p hp => (hwheres p hp).1, fun p hp => (hhavings p hp).1⟩, ?_⟩
    intro s hs
    rcases Clauses.mem_subs.1 hs with ⟨i, hi, hs⟩ | ⟨p, hp, hs⟩ | ⟨p, hp, hs⟩
    · exact hselect i hi s hs
    · exact (hwheres p hp).2 s hs
    · exact (hhavings p hp).2 s hs
  · rintro ⟨⟨hjoins, hwheres, hhavings⟩, hsubs⟩
    refine ⟨⟨⟨fun i hi s hs => hsubs s (Clauses.mem_subs_of_select hi hs), hjoins⟩,
      fun p hp => ⟨hwheres p hp, fun s hs => hsubs s (Clauses.mem_subs_of_wheres hp hs)⟩⟩,
      fun p hp => ⟨hhavings p hp, fun s hs => hsubs s (Clauses.mem_subs_of_havings hp hs)⟩⟩

end

namespace Query

/-- A level without raw SQL is well-formed iff it is, with well-formed sub-queries. -/
theorem wellFormed_of {c : Clauses Query} (hraw : c.raw = none) :
    (Query.of c).WellFormed ↔ c.WellFormed ∧ ∀ q ∈ c.subs, q.WellFormed := by
  constructor
  · intro h
    exact ⟨h c (.outermost c) hraw, fun q hq d hd => h d (.inner hraw hq hd)⟩
  · rintro ⟨hc, hsubs⟩ d hd hd'
    rcases Query.level_of_iff.1 hd with rfl | ⟨-, q, hq, hd⟩
    · exact hc
    · exact hsubs q hq d hd hd'

/-- Nothing is wrong with a query iff it is well-formed. -/
theorem offences_eq_nil {q : Query} : q.offences = [] ↔ q.WellFormed := by
  induction q using Query.induct with
  | level c ih =>
    rw [Query.offences, Query.fold_of]
    cases hraw : c.raw with
    | some raw =>
      -- raw SQL is the only level
      rw [Clauses.offences, show (c.map (fold Clauses.offences)).raw = some raw from hraw]
      refine ⟨fun _ d hd hd' => ?_, fun _ => rfl⟩
      rcases Query.level_of_iff.1 hd with rfl | ⟨hnone, -⟩
      · rw [hraw] at hd'
        cases hd'
      · rw [hraw] at hnone
        cases hnone
    | none =>
      rw [Clauses.offences_eq_nil hraw, wellFormed_of hraw]
      exact and_congr_right fun _ => forall₂_congr fun q hq => ih q hq

end Query

/-! ### Registered names -/

/-- A column that is no field, or a field that the catalog has. -/
def ColumnRef.Registered (catalog : Catalog) : ColumnRef → Prop
  | .field _ f => (catalog.resolve? f).isSome = true
  | .aliased _ | .expr _ => True

/-- An operand that is no column, or a registered one. -/
def Operand.Registered (catalog : Catalog) : Operand S → Prop
  | .column c => c.Registered catalog
  | .absent | .value _ | .list _ | .sub _ | .raw _ => True

/-- A selected expression that is no column, or a registered one. -/
def SelectExpr.Registered (catalog : Catalog) : SelectExpr S → Prop
  | .column c => c.Registered catalog
  | .sub _ => True

/-- A predicate on registered columns. -/
structure Predicate.Registered (catalog : Catalog) (p : Predicate S) : Prop where
  target : p.target.Registered catalog
  operand : p.operand.Registered catalog

/-- A join of a registered table on registered columns. -/
structure Join.Registered (catalog : Catalog) (j : Join) : Prop where
  table : catalog.isRegistered j.table = true
  on : ∀ pair ∈ j.on, pair.1.Registered catalog ∧ pair.2.Registered catalog

/-- A level whose tables and columns are registered. -/
structure Clauses.Registered (catalog : Catalog) (c : Clauses S) : Prop where
  table : catalog.isRegistered c.table = true
  select : ∀ i ∈ c.select, i.expr.Registered catalog
  joins : ∀ j ∈ c.joins, j.Registered catalog
  wheres : ∀ p ∈ c.wheres, p.Registered catalog
  groupBy : ∀ column ∈ c.groupBy, column.Registered catalog
  havings : ∀ p ∈ c.havings, p.Registered catalog
  orderBy : ∀ o ∈ c.orderBy, o.target.Registered catalog

/-- A query whose rendered levels have registered tables and columns. -/
def Query.Registered (catalog : Catalog) (q : Query) : Prop :=
  ∀ d, q.Level d → d.raw = none → d.Registered catalog

end EntitySql
