import EntitySql.Proofs.Query.Chain
import EntitySql.Proofs.Statement.Subquery
import Mathlib.Algebra.GroupWithZero.Nat

/-!
# Pages

What a page clause binds can be read off its text: a placeholder stands behind the word that says
whether it is a number of rows to skip or to return (`Fragment.bounds`).  Read in this way, every
dialect skips the offset and returns the limit, both cut off at the greatest number that can be
bound (`Dialect.binds_page`).

A level is what it is without order, page and lock, with these behind it (`query_of_unpaged`), so
that the page of a level stands in every query that has the level.  As long as the last row has a
number that can be bound, the pages of one size lie side by side (`flatMap_window`).
-/

namespace EntitySql

/-! ### Reading a page clause -/

/-- What the number of a placeholder in a page clause says. -/
inductive Bound where
  /-- How many rows are skipped. -/
  | skip
  /-- How many rows are returned at most. -/
  | count
deriving DecidableEq, Repr

namespace Bound

/-- The meaning of placeholders by the words that they stand behind.  Of two behind one word the
first one says how many rows are skipped. -/
def ofWords : List String → List Bound
  | "LIMIT" :: "?,?" :: words => skip :: count :: ofWords words
  | "LIMIT" :: "?" :: words | "NEXT" :: "?" :: words => count :: ofWords words
  | "OFFSET" :: "?" :: words => skip :: ofWords words
  | _ :: words => ofWords words
  | [] => []

/-- The meaning of the placeholders of a page clause, in their order. -/
def ofText (text : String) : List Bound :=
  ofWords ((text.toList.splitOn ' ').map String.ofList)

end Bound

namespace Fragment

/-- The meaning of the parameters of a page clause. -/
def bounds (f : Fragment) : List Bound := Bound.ofText f.text

/-- The parameter with a meaning. -/
def bound? (f : Fragment) (b : Bound) : Option Value :=
  ((f.bounds.zip f.params).find? (·.1 = b)).map (·.2)

/-- The parameter with a meaning is a number. -/
def Carries (f : Fragment) (b : Bound) (n : Nat) : Prop :=
  ∃ i : Int64, f.bound? b = some (.int i) ∧ i.toInt = n

/-- The rows that a page clause selects, counted from 0. -/
def window (f : Fragment) : List Nat :=
  match f.bound? .skip, f.bound? .count with
  | some (.int skip), some (.int count) => List.range' skip.toInt.toNat count.toInt.toNat
  | _, _ => []

theorem window_of_carries {f : Fragment} {skip count : Nat} (hskip : f.Carries .skip skip)
    (hcount : f.Carries .count count) : f.window = List.range' skip count := by
  obtain ⟨i, hi, hskip⟩ := hskip
  obtain ⟨j, hj, hcount⟩ := hcount
  rw [window, hi, hj]
  show List.range' i.toInt.toNat j.toInt.toNat = _
  rw [hskip, hcount, Int.toNat_natCast, Int.toNat_natCast]

end Fragment

namespace Dialect

/-- What a page clause binds for a limit and an offset: a number of rows to skip, and a number of
rows to return, which may be left out only where there is no limit. -/
structure Binds (d : Dialect) (limit offset : Option UInt64) (page : Fragment) : Prop where
  nodup : page.bounds.Nodup
  length : page.bounds.length = page.params.length
  skip : page.Carries .skip (min ((offset.map UInt64.toNat).getD 0) (2 ^ 63 - 1))
  count : page.bound? .count ≠ none →
    page.Carries .count (min ((limit.map UInt64.toNat).getD (2 ^ 63 - 1)) (2 ^ 63 - 1))
  omitted : page.bound? .count = none ↔ d.pagination = .offsetFetch ∧ limit = none

theorem countValue_eq (n : Nat) :
    ∃ i : Int64, countValue n = .int i ∧ i.toInt = (min n (2 ^ 63 - 1) : Nat) := by
  have hgreatest : greatestCount = 2 ^ 63 - 1 := by decide
  refine ⟨_, rfl, ?_⟩
  rw [hgreatest]
  exact Int64.toInt_ofInt_of_le (by omega) (by omega)

section

variable {d : Dialect} {limit offset : Option UInt64} {page : Fragment} {text : String}
  {skip count : Int64}
  (hskip : skip.toInt = (min ((offset.map UInt64.toNat).getD 0) (2 ^ 63 - 1) : Nat))
include hskip

/-- A page clause with both numbers, in either order. -/
theorem binds_of_both (hform : d.pagination = .offsetFetch → limit ≠ none)
    (hcount : count.toInt =
      (min ((limit.map UInt64.toNat).getD (2 ^ 63 - 1)) (2 ^ 63 - 1) : Nat))
    (h : (Bound.ofText text = [.skip, .count] ∧ page = ⟨text, [.int skip, .int count]⟩) ∨
      (Bound.ofText text = [.count, .skip] ∧ page = ⟨text, [.int count, .int skip]⟩)) :
    d.Binds limit offset page := by
  -- which of the two numbers comes first makes no difference to what is looked up
  have hboth : page.bounds.Nodup ∧ page.bounds.length = page.params.length ∧
      page.bound? .skip = some (.int skip) ∧ page.bound? .count = some (.int count) := by
    rcases h with ⟨hbounds, rfl⟩ | ⟨hbounds, rfl⟩
    · simp [Fragment.bound?, Fragment.bounds, hbounds]
    · simp [Fragment.bound?, Fragment.bounds, hbounds]
  obtain ⟨hnodup, hlength, hskipped, hcounted⟩ := hboth
  exact {
    nodup := hnodup
    length := hlength
    skip := ⟨skip, hskipped, hskip⟩
    count := fun _ => ⟨count, hcounted, hcount⟩
    omitted := iff_of_false (by simp [hcounted]) fun h => hform h.1 h.2 }

/-- A page clause that skips rows and returns all others. -/
theorem binds_of_skip (hform : d.pagination = .offsetFetch) (hlimit : limit = none)
    (hbounds : Bound.ofText text = [.skip]) (hpage : page = ⟨text, [.int skip]⟩) :
    d.Binds limit offset page := by
  have hone : page.bounds.Nodup ∧ page.bounds.length = page.params.length ∧
      page.bound? .skip = some (.int skip) ∧ page.bound? .count = none := by
    simp [Fragment.bound?, Fragment.bounds, hbounds, hpage]
  obtain ⟨hnodup, hlength, hskipped, hnone⟩ := hone
  exact {
    nodup := hnodup
    length := hlength
    skip := ⟨skip, hskipped, hskip⟩
    count := fun h => absurd hnone h
    omitted := iff_of_true hnone ⟨hform, hlimit⟩ }

end

/-- Every page clause binds what its limit and its offset say. -/
theorem binds_page (d : Dialect) (limit offset : Option UInt64) (ordered : Bool) :
    d.Binds limit offset (d.page limit offset ordered) := by
  obtain ⟨skip, hskip, hskipped⟩ := countValue_eq ((offset.map UInt64.toNat).getD 0)
  obtain ⟨count, hcount, hcounted⟩ := countValue_eq ((limit.map UInt64.toNat).getD greatestCount)
  -- every form but the last has both numbers; that one leaves the count out without a limit
  cases hform : d.pagination with
  | offsetCount =>
    have hpage : d.page limit offset ordered = ⟨" LIMIT ?,?", [.int skip, .int count]⟩ := by
      rw [page, hform, ← hskip, ← hcount]
    exact binds_of_both hskipped (by simp [hform]) hcounted (Or.inl ⟨by decide, hpage⟩)
  | countOffset =>
    have hpage : d.page limit offset ordered = ⟨" LIMIT ? OFFSET ?", [.int count, .int skip]⟩ := by
      rw [page, hform, ← hskip, ← hcount]
    exact binds_of_both hskipped (by simp [hform]) hcounted (Or.inr ⟨by decide, hpage⟩)
  | offsetFetch =>
    cases limit with
    | none =>
      have hpage : d.page none offset ordered =
          ⟨(if ordered then "" else " ORDER BY (SELECT NULL)") ++ " OFFSET ? ROWS",
            [.int skip]⟩ := by
        rw [page, hform, ← hskip]
        cases ordered <;> rfl
      exact binds_of_skip hskipped hform rfl (by cases ordered <;> decide) hpage
    | some n =>
      have hpage : d.page (some n) offset ordered =
          ⟨(if ordered then "" else " ORDER BY (SELECT NULL)") ++ " OFFSET ? ROWS" ++
            " FETCH NEXT ? ROWS ONLY", [.int skip, .int count]⟩ := by
        rw [page, hform, ← hskip, ← hcount]
        cases ordered <;> rfl
      exact binds_of_both hskipped (fun _ => nofun) hcounted
        (Or.inl ⟨by cases ordered <;> decide, hpage⟩)

end Dialect

/-! ### Levels -/

/-- A level without order, page and lock. -/
def Clauses.unpaged (c : Clauses Query) : Clauses Query :=
  { c with orderBy := [], limit := none, offset := none, lock := false }

namespace Renderer

variable {r : Renderer} {c : Clauses Query}

/-- A level ends with its order, its page and its lock. -/
theorem query_of_unpaged (hraw : c.raw = none) {f : Fragment} (h : r.query (.of c) = .ok f) :
    ∃ front order, r.query (.of c.unpaged) = .ok front ∧ r.orderClause c.orderBy = .ok order ∧
      front ++ ⟨order, []⟩ ++ r.pageClause (c.map r.query) ++
        ⟨r.lockClause (c.map r.query), []⟩ = f := by
  rw [r.query_eq_selectLevel hraw] at h
  obtain ⟨items, hitems, rows, hrows, order, horder, rfl⟩ := r.selectLevel_eq_ok.1 h
  refine ⟨(⟨if c.distinct then "SELECT DISTINCT " else "SELECT ", []⟩ : Fragment) ++ items ++ rows,
    order, ?_, horder, rfl⟩
  rw [r.query_eq_selectLevel (c := c.unpaged) hraw]
  refine r.selectLevel_eq_ok.2 ⟨items, hitems, rows, hrows, "", rfl, ?_⟩
  exact ((Fragment.append_empty _).trans (Fragment.append_empty _)).trans (Fragment.append_empty _)

theorem pageClause_of_unlimited {c : Clauses Rendered} (hlimit : c.limit = none)
    (hoffset : c.offset = none) : r.pageClause c = .empty := by
  rw [pageClause, hlimit, hoffset]
  rfl

theorem pageClause_of_limited {c : Clauses Rendered} (h : c.limit ≠ none ∨ c.offset ≠ none) :
    r.pageClause c = r.dialect.page c.limit c.offset (!c.orderBy.isEmpty) := by
  rw [pageClause, if_pos]
  rwa [Bool.or_eq_true, Option.isSome_iff_ne_none, Option.isSome_iff_ne_none]

/-- The page clause of a level behind its order.  There is one if the level has a limit or an
offset, and where a page needs an order there is one, of the level or for the page. -/
structure EndsWith (r : Renderer) (c : Clauses Query) (order : String) (page : Fragment) :
    Prop where
  unlimited : c.limit = none ∧ c.offset = none → page = .empty
  binds : c.limit ≠ none ∨ c.offset ≠ none → r.dialect.Binds c.limit c.offset page
  ordered : c.limit ≠ none ∨ c.offset ≠ none → r.dialect.pagination = .offsetFetch →
    ∃ keys, c.orderBy.mapM r.orderItem = .ok keys ∧
      order ++ page.text =
        " ORDER BY " ++ (if keys = [] then "(SELECT NULL)" else ", ".intercalate keys) ++
          " OFFSET ? ROWS" ++ if c.limit.isSome then " FETCH NEXT ? ROWS ONLY" else ""

theorem endsWith_pageClause {order : String} (horder : r.orderClause c.orderBy = .ok order) :
    r.EndsWith c order (r.pageClause (c.map r.query)) := by
  have hpage (h : c.limit ≠ none ∨ c.offset ≠ none) : r.pageClause (c.map r.query) =
      r.dialect.page c.limit c.offset (!c.orderBy.isEmpty) := r.pageClause_of_limited h
  refine ⟨fun h => pageClause_of_unlimited h.1 h.2, fun h => ?_, fun h hform => ?_⟩
  · rw [hpage h]
    exact r.dialect.binds_page _ _ _
  · obtain ⟨keys, hkeys, rfl⟩ := Outcome.map_eq_ok.1 horder
    have hlength : c.orderBy.length = keys.length := (Outcome.mapM_eq_ok.1 hkeys).length_eq
    refine ⟨keys, hkeys, ?_⟩
    rw [hpage h, Dialect.page, hform]
    cases keys with
    | nil =>
      rw [List.eq_nil_of_length_eq_zero hlength]
      cases c.limit <;> rfl
    | cons key keys =>
      obtain ⟨item, items, hitems⟩ := List.exists_cons_of_length_eq_add_one hlength
      rw [hitems, if_neg (List.cons_ne_nil key keys)]
      cases c.limit with
      | none => simp [columnList, String.append_assoc]
      | some n => simp [columnList, String.append_assoc]

end Renderer

/-! ### Pages by number -/

theorem toNat_pageOffset (number size : UInt64) :
    (pageOffset number size).toNat = min ((number.toNat - 1) * size.toNat) (2 ^ 64 - 1) := by
  have hlt : min ((number.toNat - 1) * size.toNat) (UInt64.size - 1) < UInt64.size :=
    Nat.lt_of_le_of_lt (Nat.min_le_right _ _) (by decide)
  exact UInt64.toNat_ofNat_of_lt' hlt

/-- A page stays as it is as long as no later step writes the limit or the offset. -/
theorem Query.clauses_page (q : Query) (number size : UInt64) {rest : List Step}
    (hrest : ∀ t ∈ rest, t.writes .limit = false ∧ t.writes .offset = false) :
    (q.build (.page number size :: rest)).clauses.limit = some size ∧
      (q.build (.page number size :: rest)).clauses.offset = some (pageOffset number size) := by
  rw [Query.build_cons]
  exact ⟨(q.apply _).get_build_of_not_writes (k := .limit) fun t ht => (hrest t ht).1,
    (q.apply _).get_build_of_not_writes (k := .offset) fun t ht => (hrest t ht).2⟩

namespace Renderer

section

variable {q : Query} {rest : List Step}
  (hrest : ∀ t ∈ rest, t.writes .limit = false ∧ t.writes .offset = false)
include hrest

/-- What a page binds, without a wrap-around. -/
theorem carries_page (r : Renderer) (number size : UInt64) :
    let page := r.pageClause (r.opened (q.build (.page number size :: rest)))
    page.Carries .skip (min ((max number.toNat 1 - 1) * size.toNat) (2 ^ 63 - 1)) ∧
      page.Carries .count (min size.toNat (2 ^ 63 - 1)) := by
  intro page
  obtain ⟨hlimit, hoffset⟩ := q.clauses_page number size hrest
  have hlimited : r.dialect.Binds (some size) (some (pageOffset number size)) page := by
    rw [← hlimit, ← hoffset, show page = _ from pageClause_of_limited (Or.inl ?_)]
    · exact r.dialect.binds_page _ _ _
    · rw [show (r.opened _).limit = _ from hlimit]
      exact Option.some_ne_none size
  have hcounted : page.bound? .count ≠ none := fun hnone =>
    absurd (hlimited.omitted.1 hnone).2 (Option.some_ne_none size)
  refine ⟨?_, hlimited.count hcounted⟩
  -- what is cut off where the product leaves the words is cut off once more for the placeholder
  have hcut : min (pageOffset number size).toNat (2 ^ 63 - 1) =
      min ((max number.toNat 1 - 1) * size.toNat) (2 ^ 63 - 1) := by
    have hbefore : max number.toNat 1 - 1 = number.toNat - 1 := by omega
    rw [toNat_pageOffset, hbefore]
    omega
  rw [← hcut]
  exact hlimited.skip

/-- The rows of a page, while their numbers can be bound. -/
theorem window_page (r : Renderer) {size : UInt64} {i : Nat} (hi : i + 1 < UInt64.size)
    (h : (i + 1) * size.toNat ≤ 2 ^ 63 - 1) :
    (r.pageClause (r.opened (q.build (.page (UInt64.ofNat (i + 1)) size :: rest)))).window =
      List.range' (i * size.toNat) size.toNat := by
  obtain ⟨hskip, hcount⟩ := carries_page (q := q) hrest r (UInt64.ofNat (i + 1)) size
  rw [Fragment.window_of_carries hskip hcount, UInt64.toNat_ofNat_of_lt' hi]
  rw [Nat.succ_mul] at h
  have hnumber : max (i + 1) 1 - 1 = i := by omega
  rw [hnumber, Nat.min_eq_left (by omega), Nat.min_eq_left (by omega)]

/-- The pages of one size lie side by side. -/
theorem flatMap_window (r : Renderer) {size : UInt64} {n : Nat} (hn : n < UInt64.size)
    (h : n * size.toNat ≤ 2 ^ 63 - 1) :
    (List.range n).flatMap (fun i =>
        (r.pageClause (r.opened (q.build (.page (UInt64.ofNat (i + 1)) size :: rest)))).window) =
      List.range (n * size.toNat) := by
  -- the pages so far cover the rows before the next one
  induction n with
  | zero => rw [Nat.zero_mul]; rfl
  | succ n ih =>
    have hbefore : n * size.toNat ≤ 2 ^ 63 - 1 :=
      Nat.le_trans (Nat.mul_le_mul_right _ n.le_succ) h
    rw [List.range_succ, List.flatMap_append, ih (by omega) hbefore, List.flatMap_singleton,
      window_page hrest r hn h, List.range_eq_range', List.range_eq_range', Nat.succ_mul]
    have hadjacent := List.range'_append_1 (s := 0) (m := n * size.toNat) (n := size.toNat)
    rwa [Nat.zero_add] at hadjacent

end

/-! ### Paging -/

/-- Paging is exact, whatever the limit, the offset and the dialect.  A page clause skips the offset
and returns the limit, both cut off at `2^63 - 1`, and only a clause of the form `offsetFetch`
without a limit returns all the rest.  The page clause of each level of a query that is rendered
stands in the query behind the level without a page, and one of the form `offsetFetch` behind one
order.  A page by its number skips the rows of the pages before it, and pages of one size lie side by
side. -/
theorem paging_exact (r : Renderer) :
    (∀ limit offset ordered, r.dialect.Binds limit offset (r.dialect.page limit offset ordered)) ∧
    (∀ {q : Query} {f : Fragment}, r.query q = .ok f → ∀ {c : Clauses Query}, q.Level c →
      c.raw = none → ∃ front order,
        r.query (.of c.unpaged) = .ok front ∧ r.orderClause c.orderBy = .ok order ∧
        r.EndsWith c order (r.pageClause (c.map r.query)) ∧
        (front ++ ⟨order, []⟩ ++ r.pageClause (c.map r.query) ++
          ⟨r.lockClause (c.map r.query), []⟩).StandsIn f) ∧
    ∀ (q : Query) (size : UInt64) (rest : List Step),
      (∀ t ∈ rest, t.writes .limit = false ∧ t.writes .offset = false) →
      let page (number : UInt64) :=
        r.pageClause (r.opened (q.build (.page number size :: rest)))
      (∀ number, (page number).Carries .skip
          (min ((max number.toNat 1 - 1) * size.toNat) (2 ^ 63 - 1)) ∧
        (page number).Carries .count (min size.toNat (2 ^ 63 - 1))) ∧
      ∀ last : UInt64, last.toNat * size.toNat ≤ 2 ^ 63 - 1 →
        (List.range last.toNat).flatMap (fun i => (page (UInt64.ofNat (i + 1))).window) =
          List.range (last.toNat * size.toNat) := by
  refine ⟨r.dialect.binds_page, fun hq c hc hraw => ?_, fun q size rest hrest => ?_⟩
  · obtain ⟨level, hlevel, hstands⟩ := query_of_level hc hq
    obtain ⟨front, order, hfront, horder, rfl⟩ := query_of_unpaged hraw hlevel
    exact ⟨front, order, hfront, horder, endsWith_pageClause horder, hstands⟩
  · exact ⟨fun number => carries_page hrest r number size,
      fun last h => flatMap_window hrest r last.toNat_lt h⟩

/-- The third ten of the larger amounts. -/
def thirdAmounts : Query := (amountsAbove (.int 5)).build [.page 3 10]

/-- The page needs an order, skips two pages, and is behind them. -/
theorem paging_exact_thirdAmounts :
    (Renderer.mk orders .mssql).query thirdAmounts =
      .ok ⟨"SELECT amount FROM orders WHERE amount > ? ORDER BY (SELECT NULL) OFFSET ? ROWS" ++
        " FETCH NEXT ? ROWS ONLY", [.int 5, .int 20, .int 10]⟩ ∧
    Dialect.mssql.Binds (some 10) (some 20)
      ((Renderer.mk orders .mssql).pageClause ((Renderer.mk orders .mssql).opened thirdAmounts)) ∧
    (List.range 3).flatMap (fun i =>
      ((Renderer.mk orders .mssql).pageClause ((Renderer.mk orders .mssql).opened
        ((amountsAbove (.int 5)).build [.page (UInt64.ofNat (i + 1)) 10]))).window) =
          List.range 30 := by
  obtain ⟨-, hlevels, hpages⟩ := paging_exact (Renderer.mk orders .mssql)
  have hquery : (Renderer.mk orders .mssql).query thirdAmounts =
      .ok ⟨"SELECT amount FROM orders WHERE amount > ? ORDER BY (SELECT NULL) OFFSET ? ROWS" ++
        " FETCH NEXT ? ROWS ONLY", [.int 5, .int 20, .int 10]⟩ := rfl
  obtain ⟨front, order, -, -, hends, -⟩ := hlevels hquery (.outermost _) rfl
  obtain ⟨-, htiled⟩ := hpages (amountsAbove (.int 5)) 10 [] (List.forall_mem_nil _)
  exact ⟨hquery, hends.binds (Or.inl (Option.some_ne_none _)), htiled 3 (by decide)⟩

end Renderer

end EntitySql
