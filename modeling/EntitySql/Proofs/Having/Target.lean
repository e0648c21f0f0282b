import EntitySql.Proofs.Layout.Strays

/-!
# Targets in `HAVING`

A dialect that knows no aliases in `HAVING` gets the selected item in the place of a target that
names it.  `Renderer.having_shows_item` says so for all rendered levels of a query: the text of the
predicate begins with the text that the item has in the select list, or with the text of a float if
a float is compared; only a test of the empty list has a constant text.

That goes for targets.  A column behind the operator is rendered as it stands, an alias too
(`Renderer.amountBelowTotal_keeps_alias`).
-/

namespace EntitySql.Renderer

variable {r : Renderer} {S : Type}

/-! ### The text of a condition -/

/-- How the text of a target shows in the text of a condition. -/
inductive Shows (r : Renderer) (op : Operator) (operand : Operand S) (target : String) :
    String → Prop
  | leading (rest : String) : Shows r op operand target (target ++ rest)
  /-- A float is compared by its text. -/
  | asText {v : Value} (hv : operand = .value v) (hfloat : v.isFloat = true) (rest : String) :
      Shows r op operand target (r.dialect.floatAsText target ++ rest)
  | constant (hempty : op.TestsEmpty operand) :
      Shows r op operand target (if op = .in then "1=0" else "1=1")

theorem text_infixed (lhs : Fragment) (op : Operator) (rhs : Fragment) :
    (infixed lhs op rhs).text = lhs.text ++ (" " ++ op.sql ++ " " ++ rhs.text) := by
  simp only [infixed, Fragment.text_append, String.append_assoc]

theorem shows_infixed (op : Operator) (operand : Operand S) (lhs : Fragment) (op' : Operator)
    (rhs : Fragment) : r.Shows op operand lhs.text (infixed lhs op' rhs).text := by
  rw [text_infixed]
  exact .leading _

theorem shows_nullCheck (op : Operator) (operand : Operand S) (lhs : Fragment) (op' : Operator) :
    r.Shows op operand lhs.text (nullCheck lhs op').text :=
  .leading (" " ++ op'.sql)

theorem shows_valueComparison (op : Operator) (lhs : Fragment) (v : Value) :
    r.Shows op (.value v : Operand S) lhs.text (r.valueComparison lhs op v).text := by
  unfold valueComparison
  split_ifs with hisNull hisNotNull hfloat
  · exact shows_nullCheck _ _ lhs .isNull
  · exact shows_nullCheck _ _ lhs .isNotNull
  · rw [text_infixed]
    exact .asText rfl hfloat _
  · exact shows_infixed _ _ lhs op _

/-- The text of a condition shows its target. -/
theorem condition_shows {lhs : Fragment} {op : Operator} {operand : Operand Rendered}
    {f : Fragment} (h : r.condition lhs op operand = .ok f) :
    r.Shows op operand lhs.text f.text := by
  -- each kind of operand is rendered in its own ways, and each way has the target in front
  cases operand with
  | absent =>
    obtain ⟨-, rfl⟩ := condition_absent h
    exact shows_nullCheck _ _ lhs op
  | value v =>
    rcases condition_value h with ⟨-, sql, -, rfl⟩ | ⟨-, rfl⟩ | ⟨-, rfl⟩
    · exact .leading sql
    · exact shows_infixed _ _ lhs op _
    · exact shows_valueComparison op lhs v
  | list vs =>
    rcases condition_list h with ⟨hop, h⟩ | ⟨-, -, rfl⟩ | ⟨-, low, high, -, rfl⟩
    · cases vs with
      | nil =>
        obtain rfl := Except.ok.inj h
        exact .constant ⟨hop, rfl⟩
      | cons v vs =>
        obtain rfl := Except.ok.inj h
        exact shows_infixed _ _ lhs op _
    · exact shows_infixed _ _ lhs op _
    · exact shows_infixed _ _ lhs op _
  | sub q =>
    obtain ⟨g, -, rfl⟩ := condition_sub h
    exact shows_infixed _ _ lhs op _
  | column c =>
    obtain ⟨sql, -, rfl⟩ := condition_column h
    exact shows_infixed _ _ lhs op _
  | raw sql =>
    obtain ⟨-, rfl⟩ := condition_raw h
    exact .leading sql

/-- Replacing the sub-query of an operand does not change how a target shows. -/
theorem Shows.of_map {T : Type} {f : S → T} {op : Operator} {operand : Operand S}
    {target text : String} (h : r.Shows op (operand.map f) target text) :
    r.Shows op operand target text := by
  cases h with
  | leading rest => exact .leading rest
  | asText hv hfloat rest =>
    cases operand with
    | value w =>
      obtain rfl := Operand.value.inj hv
      exact .asText rfl hfloat rest
    | _ => cases hv
  | constant hempty => exact .constant ((Operator.testsEmpty_map f op operand).1 hempty)

/-! ### Replaced targets -/

/-- A replaced target is rendered as the item. -/
theorem target_of_replaces {select : List (SelectItem Rendered)} {t : ColumnRef}
    {i : SelectItem Rendered} (h : r.Replaces select t i) :
    r.target select .having t = r.item i := by
  obtain ⟨hunknown, name, rfl, hfind⟩ := h
  rw [target, hfind, hunknown]
  rfl

/-- Every other target is rendered as a column. -/
theorem target_of_not_replaces {select : List (SelectItem Rendered)} {t : ColumnRef}
    (h : ∀ i, ¬ r.Replaces select t i) : r.target select .having t = r.columnFragment t := by
  cases t with
  | field qualifier f => rfl
  | expr sql => rfl
  | aliased name =>
    rw [target]
    -- allowed aliases are not looked up, and the others are not found
    split
    · rfl
    · rename_i hunknown
      cases hfind : select.find? (·.aliasName == some name) with
      | none => rfl
      | some i => exact absurd ⟨eq_false_of_ne_true hunknown, name, rfl, hfind⟩ (h i)

/-- The item that a target names has the name as its alias. -/
theorem Replaces.aliasName {select : List (SelectItem S)} {name : String} {i : SelectItem S}
    (h : r.Replaces select (.aliased name) i) : i.aliasName = some name := by
  obtain ⟨-, name', hname, hfind⟩ := h
  obtain rfl := ColumnRef.aliased.inj hname
  have hfound := List.find?_some hfind
  exact beq_iff_eq.1 hfound

theorem predicate_eq_ok {select : List (SelectItem Rendered)} {sec : Section}
    {p : Predicate Rendered} {f : Fragment} :
    r.predicate select sec p = .ok f ↔
      ∃ lhs, r.target select sec p.target = .ok lhs ∧ r.condition lhs p.op p.operand = .ok f :=
  Outcome.bind_eq_ok

/-- **Targets in `HAVING`** of every rendered level.

The predicate stands in the statement and shows its target.  If the target is replaced, what is
shown is the item that stands under this alias in the select list.  A column behind the operator is
shown as it stands. -/
theorem having_shows_item {q : Query} {c : Clauses Query} (hc : q.Level c) (hraw : c.raw = none)
    {p : Predicate Query} (hp : p ∈ c.havings) {st : Statement} (h : r.select q = .ok st) :
    ∃ draft conjunct target,
      r.query q = .ok draft ∧ st = r.finish draft ∧
      r.predicate (c.select.map (SelectItem.map r.query)) .having (p.map r.query) = .ok conjunct ∧
      conjunct.StandsIn draft ∧
      r.Shows p.op p.operand target.text conjunct.text ∧
      (∀ i name, p.target = .aliased name → r.Replaces c.select p.target i →
        r.item (i.map r.query) = .ok target ∧
          (target ++ ⟨" AS " ++ name, []⟩).StandsIn draft) ∧
      ∀ column, p.operand = .column column → ∃ text, r.column column = .ok text ∧
        conjunct.text = target.text ++ " " ++ p.op.sql ++ " " ++ text := by
  obtain ⟨draft, hdraft, rfl⟩ := (select_eq_ok (raw_eq_none_of_level hc hraw)).1 h
  obtain ⟨conjunct, hconjunct, hstands⟩ := predicate_of_level hc hdraft hraw hp
  obtain ⟨target, htarget, hcondition⟩ := predicate_eq_ok.1 hconjunct
  refine ⟨draft, conjunct, target, hdraft, rfl, hconjunct, hstands,
    (condition_shows hcondition).of_map, ?_, ?_⟩
  · -- the target and the selected item are rendered from the same item
    intro i name hname hi
    obtain ⟨item, hitem, hselected⟩ := item_of_level hc hdraft hraw hi.mem
    have hreplaced : r.target (c.select.map (SelectItem.map r.query)) .having p.target =
        r.item (i.map r.query) :=
      target_of_replaces ((replaces_map r.query).2 ⟨i, hi, rfl⟩)
    obtain rfl : target = item := Except.ok.inj (htarget.symm.trans (hreplaced.trans hitem))
    rw [hname] at hi
    rw [hi.aliasName] at hselected
    exact ⟨hitem, hselected⟩
  · intro column hcolumn
    rw [show (p.map r.query).operand = .column column from congrArg (Operand.map r.query) hcolumn]
      at hcondition
    obtain ⟨text, htext, rfl⟩ := condition_column hcondition
    refine ⟨text, htext, ?_⟩
    simp only [text_infixed, String.append_assoc]
    rfl

/-! ### Sums -/

/-- The amounts with their sums under an alias, and a test in `HAVING`. -/
def sums (target : ColumnRef) (op : Operator) (operand : Operand Query) : Query :=
  .of { table := "Order",
        select := [⟨.column amount, none, none⟩, ⟨.column amount, some .sum, some "total"⟩],
        groupBy := [amount], havings := [⟨target, op, operand⟩] }

/-- The sum is repeated where a dialect does not take its alias. -/
theorem having_shows_item_sum :
    ∃ draft conjunct : Fragment, (Renderer.mk orders .postgres).query
        (sums (.aliased "total") .gt (.value (.int 9))) = .ok draft ∧
      conjunct.StandsIn draft ∧
      (Renderer.mk orders .postgres).Shows .gt (.value (.int 9) : Operand Query) "SUM(amount)"
        conjunct.text ∧
      (⟨"SUM(amount) AS total", []⟩ : Fragment).StandsIn draft := by
  have hstatement : (Renderer.mk orders .postgres).select
      (sums (.aliased "total") .gt (.value (.int 9))) =
        .ok ⟨"SELECT amount, SUM(amount) AS total FROM orders GROUP BY amount HAVING " ++
          "SUM(amount) > $1", [.int 9]⟩ := rfl
  obtain ⟨draft, conjunct, target, hdraft, -, -, hstands, hshows, hitem, -⟩ :=
    having_shows_item (.outermost _) rfl (List.mem_singleton.2 rfl) hstatement
  obtain ⟨htarget, hselected⟩ := hitem ⟨.column amount, some .sum, some "total"⟩ "total" rfl
    ⟨rfl, "total", rfl, rfl⟩
  obtain rfl : ⟨"SUM(amount)", []⟩ = target := Except.ok.inj htarget
  exact ⟨draft, conjunct, hdraft, hstands, hshows, hselected⟩

/-- Behind the operator the alias of the sum stays, in the same clause of the same dialect. -/
theorem amountBelowTotal_keeps_alias :
    (Renderer.mk orders .postgres).Replaces
        (sums amount .lt (.column (.aliased "total"))).clauses.select (.aliased "total")
        ⟨.column amount, some .sum, some "total"⟩ ∧
      (Renderer.mk orders .postgres).item ⟨.column amount, some .sum, some "total"⟩ =
        .ok ⟨"SUM(amount)", []⟩ ∧
      ∀ op ∈ [Operator.lt, .rawEq],
        (Renderer.mk orders .postgres).select (sums amount op (.column (.aliased "total"))) =
          .ok ⟨"SELECT amount, SUM(amount) AS total FROM orders GROUP BY amount HAVING " ++
            "amount " ++ op.sql ++ " total", []⟩ := by
  refine ⟨⟨rfl, "total", rfl, rfl⟩, rfl, fun op hop => ?_⟩
  rcases List.mem_pair.1 hop with rfl | rfl
  · rfl
  · rfl

end EntitySql.Renderer
