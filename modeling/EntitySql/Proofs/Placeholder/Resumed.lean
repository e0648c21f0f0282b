import EntitySql.Proofs.Placeholder.Numbering
import Mathlib.Data.List.Forall2

/-!
# Numbering in the middle of a text

A `Placeholder.Place` is where the scanner stands in a text: inside which quote, and behind how many
placeholders.  A part of a text is numbered from the place that it begins at
(`Dialect.numberFrom`), and so a text is numbered part by part (`numberFrom_append`).

Nothing is asked of the parts here, which may leave a quote open.  Of what they read only a `?` can
change.
-/

namespace EntitySql

namespace Placeholder

/-- A place in a text: the quote that is open there, and the number of the last placeholder. -/
structure Place where
  state : State := none
  number : Nat := 0
deriving DecidableEq, Repr, Inhabited

/-- The place behind a text that begins at a place. -/
def Place.behind (p : Place) (s : String) : Place :=
  ⟨after p.state s.toList, p.number + count p.state s.toList⟩

/-! ### Characters that stay -/

theorem isMark_eq_false {state : State} {c : Char} (h : c ≠ '?') : isMark state c = false := by
  rw [isMark, beq_false_of_ne h, Bool.and_false]

theorem mem_number {mark : Nat → List Char} {state : State} {n : Nat} {s : List Char} {c : Char}
    (hc : c ∈ s) (h : c ≠ '?') : c ∈ number mark state n s := by
  induction s generalizing state n with
  | nil => cases hc
  | cons b rest ih =>
    rw [number]
    rcases List.mem_cons.1 hc with rfl | hc
    · rw [isMark_eq_false h, if_neg Bool.false_ne_true]
      exact List.mem_cons_self
    · split
      · exact List.mem_append_right _ (ih hc)
      · exact List.mem_cons_of_mem b (ih hc)

theorem count_eq_zero_of_not_mem {state : State} {s : List Char} (h : '?' ∉ s) :
    count state s = 0 := by
  induction s generalizing state with
  | nil => rfl
  | cons c rest ih =>
    have hc : c ≠ '?' := Ne.symm (List.ne_of_not_mem_cons h)
    exact count_cons_eq_zero.2 ⟨isMark_eq_false hc, ih (List.not_mem_of_not_mem_cons h)⟩

end Placeholder

/-! ### Part by part -/

namespace Dialect

open Placeholder

variable (d : Dialect)

/-- The text with its placeholders in the dialect's form, where it begins at a place. -/
def numberFrom (p : Place) (s : String) : String :=
  if d.numbered then
    String.ofList (Placeholder.number (fun n => (d.placeholder n).toList) p.state p.number s.toList)
  else s

theorem number_eq_numberFrom (s : String) : d.number s = d.numberFrom {} s := rfl

theorem numberFrom_append (p : Place) (s t : String) :
    d.numberFrom p (s ++ t) = d.numberFrom p s ++ d.numberFrom (p.behind s) t := by
  unfold numberFrom
  split
  · rw [String.toList_append, number_append, String.ofList_append]
    rfl
  · rfl

/-- A character that is no placeholder is still there. -/
theorem mem_numberFrom {p : Place} {s : String} {c : Char} (hc : c ∈ s.toList) (h : c ≠ '?') :
    c ∈ (d.numberFrom p s).toList := by
  unfold numberFrom
  split
  · rw [String.toList_ofList]
    exact mem_number hc h
  · exact hc

/-- A text without placeholders stays as it is. -/
theorem numberFrom_of_not_mem {p : Place} {s : String} (h : '?' ∉ s.toList) :
    d.numberFrom p s = s := by
  unfold numberFrom
  split
  · rw [number_of_count_eq_zero _ _ _ (count_eq_zero_of_not_mem h), String.ofList_toList]
  · rfl

/-! ### Texts that are joined -/

/-- Texts with a separator between them are numbered each from its own place. -/
theorem numberFrom_intercalate {sep : String} (hsep : '?' ∉ sep.toList) (p : Place)
    (ts : List String) : ∃ us, d.numberFrom p (sep.intercalate ts) = sep.intercalate us ∧
      List.Forall₂ (fun t u => ∃ q, d.numberFrom q t = u) ts us := by
  induction ts generalizing p with
  | nil => exact ⟨[], d.numberFrom_of_not_mem List.not_mem_nil, .nil⟩
  | cons t rest ih =>
    cases rest with
    | nil =>
      refine ⟨[d.numberFrom p t], ?_, .cons ⟨p, rfl⟩ .nil⟩
      rw [String.intercalate_singleton, String.intercalate_singleton]
    | cons t' rest =>
      obtain ⟨us, hus, hrest⟩ := ih ((p.behind t).behind sep)
      obtain ⟨u, us, -, -, rfl⟩ := List.forall₂_cons_left_iff.1 hrest
      refine ⟨d.numberFrom p t :: u :: us, ?_, .cons ⟨p, rfl⟩ hrest⟩
      rw [String.intercalate_cons_cons, String.intercalate_cons_cons, ← hus, String.append_assoc,
        String.append_assoc, numberFrom_append, numberFrom_append, d.numberFrom_of_not_mem hsep]

end Dialect

end EntitySql
