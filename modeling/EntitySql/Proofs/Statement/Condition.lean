import EntitySql.Proofs.Statement.Outcome
import EntitySql.Statement.Condition

/-!
# Conditions by their operand

What a condition that is rendered looks like, and which operators take the operand: one statement
for each kind of operand.
-/

namespace EntitySql.Renderer

variable {r : Renderer} {lhs : Fragment} {op : Operator} {f : Fragment}

theorem condition_absent (h : r.condition lhs op .absent = .ok f) :
    (op = .isNull ∨ op = .isNotNull) ∧ f = nullCheck lhs op := by
  cases op with
  | isNull => exact ⟨Or.inl rfl, (Except.ok.inj h).symm⟩
  | isNotNull => exact ⟨Or.inr rfl, (Except.ok.inj h).symm⟩
  | _ => cases h

theorem condition_raw {sql : String} (h : r.condition lhs op (.raw sql) = .ok f) :
    op = .raw ∧ f = lhs ++ (sql : Fragment) := by
  cases op with
  | raw => exact ⟨rfl, (Except.ok.inj h).symm⟩
  | _ => cases h

theorem condition_sub {q : Rendered} (h : r.condition lhs op (.sub q) = .ok f) :
    ∃ g, q = .ok g ∧ f = infixed lhs op g.parenthesized := by
  have hsub : subCondition lhs op q = .ok f := by
    cases op with
    | raw | isNull | isNotNull => cases h
    | _ => exact h
  obtain ⟨g, hg, rfl⟩ := Outcome.map_eq_ok.1 hsub
  exact ⟨g, hg, rfl⟩

theorem columnFragment_eq_ok {c : ColumnRef} {g : Fragment} :
    r.columnFragment c = .ok g ↔ ∃ sql, r.column c = .ok sql ∧ ⟨sql, []⟩ = g :=
  Outcome.map_eq_ok

theorem condition_column {c : ColumnRef} (h : r.condition lhs op (.column c) = .ok f) :
    ∃ sql, r.column c = .ok sql ∧ f = infixed lhs op ⟨sql, []⟩ := by
  have hcolumn : (r.columnFragment c).map (infixed lhs op) = .ok f := by
    cases op with
    | eq | ne | gt | ge | lt | le | rawEq => exact h
    | _ => cases h
  obtain ⟨g, hg, rfl⟩ := Outcome.map_eq_ok.1 hcolumn
  obtain ⟨sql, hsql, rfl⟩ := columnFragment_eq_ok.1 hg
  exact ⟨sql, hsql, rfl⟩

/-- A list stands behind the operators of membership, of patterns and of ranges. -/
theorem condition_list {vs : List Value} (h : r.condition lhs op (.list vs) = .ok f) :
    ((op = .in ∨ op = .notIn) ∧ membership lhs op (.list vs) = .ok f) ∨
      ((op = .like ∨ op = .notLike) ∧ vs ≠ [] ∧ f = infixed lhs op (r.patternOf vs)) ∨
      ((op = .between ∨ op = .notBetween) ∧
        ∃ low high, vs = [low, high] ∧ f = infixed lhs op ⟨"(?) AND (?)", [low, high]⟩) := by
  have hpattern : r.patternCondition lhs op (.list vs) = .ok f →
      vs ≠ [] ∧ f = infixed lhs op (r.patternOf vs) := by
    intro h
    cases vs with
    | nil => cases h
    | cons v vs => exact ⟨List.cons_ne_nil v vs, (Except.ok.inj h).symm⟩
  have hrange : range lhs op (.list vs) = .ok f →
      ∃ low high, vs = [low, high] ∧ f = infixed lhs op ⟨"(?) AND (?)", [low, high]⟩ := by
    intro h
    match vs, h with
    | [low, high], h => exact ⟨low, high, rfl, (Except.ok.inj h).symm⟩
  -- each class has two operators; to the others a list is no operand
  cases op with
  | «in» => exact Or.inl ⟨Or.inl rfl, h⟩
  | notIn => exact Or.inl ⟨Or.inr rfl, h⟩
  | like => exact Or.inr (Or.inl ⟨Or.inl rfl, hpattern h⟩)
  | notLike => exact Or.inr (Or.inl ⟨Or.inr rfl, hpattern h⟩)
  | between => exact Or.inr (Or.inr ⟨Or.inl rfl, hrange h⟩)
  | notBetween => exact Or.inr (Or.inr ⟨Or.inr rfl, hrange h⟩)
  | _ => cases h

/-- A value stands behind the operators of patterns and of comparison; a text is raw SQL as well. -/
theorem condition_value {v : Value} (h : r.condition lhs op (.value v) = .ok f) :
    (op = .raw ∧ ∃ sql, v = .text sql ∧ f = lhs ++ (sql : Fragment)) ∨
      ((op = .like ∨ op = .notLike) ∧ f = infixed lhs op (r.patternOf [v])) ∨
      (op ∈ [.eq, .ne, .gt, .ge, .lt, .le] ∧ f = r.valueComparison lhs op v) := by
  cases op with
  | raw =>
    cases v with
    | text sql => exact Or.inl ⟨rfl, sql, rfl, (Except.ok.inj h).symm⟩
    | _ => cases h
  | like => exact Or.inr (Or.inl ⟨Or.inl rfl, (Except.ok.inj h).symm⟩)
  | notLike => exact Or.inr (Or.inl ⟨Or.inr rfl, (Except.ok.inj h).symm⟩)
  | eq | ne | gt | ge | lt | le =>
    exact Or.inr (Or.inr ⟨by decide, (Except.ok.inj h).symm⟩)
  | _ => cases h

/-- Whether there is a condition does not depend on the target. -/
theorem exists_condition {operand : Operand Rendered} (h : r.condition lhs op operand = .ok f)
    (lhs' : Fragment) : ∃ g, r.condition lhs' op operand = .ok g := by
  -- an operator that took its operand behind one target takes it behind any other
  cases operand with
  | absent =>
    obtain ⟨hop, -⟩ := condition_absent h
    rcases hop with rfl | rfl <;> exact ⟨_, rfl⟩
  | value v =>
    cases op with
    | raw =>
      cases v with
      | text sql => exact ⟨_, rfl⟩
      | _ => cases h
    | like | notLike | eq | ne | gt | ge | lt | le => exact ⟨_, rfl⟩
    | _ => cases h
  | list vs =>
    rcases condition_list h with ⟨hop, -⟩ | ⟨hop, hne, -⟩ | ⟨hop, low, high, rfl, -⟩
    · cases vs <;> rcases hop with rfl | rfl <;> exact ⟨_, rfl⟩
    · obtain ⟨v, vs, rfl⟩ := List.exists_cons_of_ne_nil hne
      rcases hop with rfl | rfl <;> exact ⟨_, rfl⟩
    · rcases hop with rfl | rfl <;> exact ⟨_, rfl⟩
  | sub q =>
    obtain ⟨g, rfl, -⟩ := condition_sub h
    cases op with
    | raw | isNull | isNotNull => cases h
    | _ => exact ⟨_, rfl⟩
  | column c =>
    obtain ⟨sql, hsql, -⟩ := condition_column h
    have htext : r.columnFragment c = .ok ⟨sql, []⟩ := columnFragment_eq_ok.2 ⟨sql, hsql, rfl⟩
    have hcolumn : ∀ op', ∃ g, (r.columnFragment c).map (infixed lhs' op') = .ok g :=
      fun op' => ⟨_, Outcome.map_eq_ok.2 ⟨_, htext, rfl⟩⟩
    cases op with
    | rawEq | eq | ne | gt | ge | lt | le => exact hcolumn _
    | _ => cases h
  | raw sql =>
    obtain ⟨rfl, -⟩ := condition_raw h
    exact ⟨_, rfl⟩

end EntitySql.Renderer
