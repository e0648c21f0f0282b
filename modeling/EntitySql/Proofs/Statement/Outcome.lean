import EntitySql.Statement.Basic
import Mathlib.Data.List.Forall2

/-!
# Outcomes that succeed

A computation in steps succeeds iff each of its steps does: one after another (`bind_eq_ok`), with a
result or an error that is changed afterwards (`map_eq_ok`, `mapError_eq_ok`), and for each element
of a list (`mapM_eq_ok`).  Where a step says what comes of it if it succeeds, a list of them does so
(`mapM_eq_ok_iff_map`, `foldlM_eq_ok_iff_foldl`).
-/

namespace EntitySql.Outcome

variable {ε α β : Type}

theorem bind_eq_ok {x : Except ε α} {f : α → Except ε β} {b : β} :
    (x >>= f) = .ok b ↔ ∃ a, x = .ok a ∧ f a = .ok b := by
  cases x <;> simp [bind, Except.bind]

theorem map_eq_ok {x : Except ε α} {f : α → β} {b : β} :
    x.map f = .ok b ↔ ∃ a, x = .ok a ∧ f a = b := by
  cases x <;> simp [Except.map]

theorem mapError_eq_ok {δ : Type} {x : Except δ α} {f : δ → ε} {a : α} :
    x.mapError f = .ok a ↔ x = .ok a := by
  cases x <;> simp [Except.mapError]

theorem pure_eq_ok {a b : α} : (pure a : Except ε α) = .ok b ↔ a = b := by
  simp [pure, Except.pure]

theorem bind_eq_error {x : Except ε α} {f : α → Except ε β} {e : ε} :
    (x >>= f) = .error e ↔ x = .error e ∨ ∃ a, x = .ok a ∧ f a = .error e := by
  cases x <;> simp [bind, Except.bind]

theorem mapError_eq_error {δ : Type} {x : Except δ α} {f : δ → ε} {e : ε} :
    x.mapError f = .error e ↔ ∃ d, x = .error d ∧ f d = e := by
  cases x <;> simp [Except.mapError]

theorem pure_ne_error {a : α} {e : ε} : ¬ (pure a : Except ε α) = .error e := nofun

theorem mapM_eq_ok {f : α → Except ε β} {xs : List α} {ys : List β} :
    xs.mapM f = .ok ys ↔ List.Forall₂ (fun x y => f x = .ok y) xs ys := by
  induction xs generalizing ys with
  | nil => cases ys <;> simp [pure, Except.pure]
  | cons x xs ih =>
    rw [List.mapM_cons, bind_eq_ok, List.forall₂_cons_left_iff]
    constructor
    · rintro ⟨y, hy, hrest⟩
      obtain ⟨ys', hys', h⟩ := bind_eq_ok.1 hrest
      exact ⟨y, ys', hy, ih.1 hys', (pure_eq_ok.1 h).symm⟩
    · rintro ⟨y, ys', hy, hys', rfl⟩
      exact ⟨y, hy, bind_eq_ok.2 ⟨ys', ih.2 hys', rfl⟩⟩

/-- A list of which each element succeeds. -/
theorem exists_mapM {f : α → Except ε β} {xs : List α} (h : ∀ x ∈ xs, ∃ y, f x = .ok y) :
    ∃ ys, xs.mapM f = .ok ys := by
  induction xs with
  | nil => exact ⟨[], rfl⟩
  | cons x xs ih =>
    obtain ⟨y, hy⟩ := h x List.mem_cons_self
    obtain ⟨ys, hys⟩ := ih fun x' hx' => h x' (List.mem_cons_of_mem x hx')
    exact ⟨y :: ys, mapM_eq_ok.2 (.cons hy (mapM_eq_ok.1 hys))⟩

theorem mapM_congr {f g : α → Except ε β} {xs : List α} (h : ∀ x ∈ xs, f x = g x) :
    xs.mapM f = xs.mapM g := by
  induction xs with
  | nil => rfl
  | cons x xs ih =>
    rw [List.mapM_cons, List.mapM_cons, h x List.mem_cons_self,
      ih fun x' hx' => h x' (List.mem_cons_of_mem x hx')]

/-- If each element has one possible result, these are the results of the list. -/
theorem eq_map_of_mapM_eq_ok {f : α → Outcome β} {g : α → β} {xs : List α} {ys : List β}
    (h : xs.mapM f = .ok ys) (hg : ∀ x ∈ xs, ∀ y, f x = .ok y → y = g x) : ys = xs.map g := by
  have hall := mapM_eq_ok.1 h
  clear h
  induction hall with
  | nil => rfl
  | @cons x y xs ys hy _ ih =>
    rw [List.map_cons, hg x List.mem_cons_self y hy,
      ih fun x' hx' => hg x' (List.mem_cons_of_mem x hx')]

/-- In lists that are related element by element, each element is related to one. -/
theorem exists_of_forall₂ {R : α → β → Prop} {xs : List α} {ys : List β} (h : List.Forall₂ R xs ys)
    {x : α} (hx : x ∈ xs) : ∃ y ∈ ys, R x y := by
  induction h with
  | nil => cases hx
  | @cons _ y _ _ hy _ ih =>
    rcases List.mem_cons.1 hx with rfl | hx
    · exact ⟨y, List.mem_cons_self, hy⟩
    · obtain ⟨y', hy', hxy⟩ := ih hx
      exact ⟨y', List.mem_cons_of_mem y hy', hxy⟩

/-- The first element that fails ends a list. -/
theorem mapM_eq_error {f : α → Except ε β} {before after : List α} {x : α} {ys : List β} {e : ε}
    (hbefore : List.Forall₂ (fun x y => f x = .ok y) before ys) (hx : f x = .error e) :
    (before ++ x :: after).mapM f = .error e := by
  rw [List.mapM_append, mapM_eq_ok.2 hbefore, List.mapM_cons, hx]
  rfl

/-- Each element of a list that succeeds does. -/
theorem exists_of_mapM_eq_ok {f : α → Outcome β} {xs : List α} {ys : List β}
    (h : xs.mapM f = .ok ys) {x : α} (hx : x ∈ xs) : ∃ y, f x = .ok y := by
  obtain ⟨y, -, hy⟩ := exists_of_forall₂ (mapM_eq_ok.1 h) hx
  exact ⟨y, hy⟩

/-- Each result of a list is that of one of its elements. -/
theorem exists_of_mem_of_mapM_eq_ok {f : α → Except ε β} {xs : List α} {ys : List β}
    (h : xs.mapM f = .ok ys) {y : β} (hy : y ∈ ys) : ∃ x ∈ xs, f x = .ok y :=
  exists_of_forall₂ (mapM_eq_ok.1 h).flip hy

/-! ### Results that are known -/

/-- Where each element that succeeds has a known result, so has the list. -/
theorem mapM_eq_ok_iff_map {f : α → Except ε β} {P : α → Prop} {g : α → β}
    (h : ∀ x y, f x = .ok y ↔ P x ∧ g x = y) {xs : List α} {ys : List β} :
    xs.mapM f = .ok ys ↔ (∀ x ∈ xs, P x) ∧ xs.map g = ys := by
  induction xs generalizing ys with
  | nil => rw [List.mapM_nil, pure_eq_ok, List.map_nil, and_iff_right (List.forall_mem_nil P)]
  | cons x xs ih =>
    rw [List.mapM_cons, bind_eq_ok, List.forall_mem_cons, List.map_cons]
    constructor
    · rintro ⟨y, hy, hrest⟩
      obtain ⟨ys', hys', hys⟩ := bind_eq_ok.1 hrest
      obtain ⟨hx, rfl⟩ := (h x y).1 hy
      obtain ⟨hxs, rfl⟩ := ih.1 hys'
      exact ⟨⟨hx, hxs⟩, pure_eq_ok.1 hys⟩
    · rintro ⟨⟨hx, hxs⟩, rfl⟩
      exact ⟨g x, (h x _).2 ⟨hx, rfl⟩, bind_eq_ok.2 ⟨xs.map g, ih.2 ⟨hxs, rfl⟩, rfl⟩⟩

/-- Where each step that succeeds has a known result, so has a run. -/
theorem foldlM_eq_ok_iff_foldl {f : β → α → Except ε β} {P : α → Prop} {g : β → α → β}
    (h : ∀ b x b', f b x = .ok b' ↔ P x ∧ g b x = b') {xs : List α} {b b' : β} :
    xs.foldlM f b = .ok b' ↔ (∀ x ∈ xs, P x) ∧ xs.foldl g b = b' := by
  induction xs generalizing b with
  | nil => rw [List.foldlM_nil, pure_eq_ok, List.foldl_nil, and_iff_right (List.forall_mem_nil P)]
  | cons x xs ih =>
    rw [List.foldlM_cons, bind_eq_ok, List.forall_mem_cons, List.foldl_cons]
    constructor
    · rintro ⟨c, hc, hrest⟩
      obtain ⟨hx, rfl⟩ := (h b x c).1 hc
      obtain ⟨hxs, hb'⟩ := ih.1 hrest
      exact ⟨⟨hx, hxs⟩, hb'⟩
    · rintro ⟨⟨hx, hxs⟩, hb'⟩
      exact ⟨g b x, (h b x _).2 ⟨hx, rfl⟩, ih.2 ⟨hxs, hb'⟩⟩

end EntitySql.Outcome
