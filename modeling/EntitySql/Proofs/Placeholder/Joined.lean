import EntitySql.Proofs.Placeholder.Numbering
import Mathlib.Algebra.GroupWithZero.Nat

/-!
# Numbering texts that are joined

Texts that leave the scanner outside quotes are numbered one by one: each of them goes on with the
numbers behind those of the texts before it (`numberEach`), also with a separator between them
(`numberText_intercalate`).  Balanced texts, which have closed quotes and no placeholder, stay as
they are.
-/

namespace EntitySql.Placeholder

section

variable {s : String} (hs : after none s.toList = none) (t : String)
include hs

theorem after_toList_append : after none (s ++ t).toList = after none t.toList := by
  rw [String.toList_append, after_append, hs]

theorem count_toList_append :
    count none (s ++ t).toList = count none s.toList + count none t.toList := by
  rw [String.toList_append, count_append, hs]

end

/-! ### Balanced texts -/

/-- A text with closed quotes and no `?` outside of them. -/
def Balanced (s : String) : Prop := after none s.toList = none ∧ count none s.toList = 0

instance (s : String) : Decidable (Balanced s) := inferInstanceAs (Decidable (_ ∧ _))

theorem Balanced.append {s t : String} (hs : Balanced s) (ht : Balanced t) : Balanced (s ++ t) := by
  constructor
  · rw [after_toList_append hs.1, ht.1]
  · rw [count_toList_append hs.1, hs.2, ht.2]

section

variable {sep : String} (hsep : Balanced sep) {ts : List String}
  (hts : ∀ t ∈ ts, after none t.toList = none)
include hsep hts

theorem after_intercalate : after none (sep.intercalate ts).toList = none := by
  induction ts with
  | nil => rfl
  | cons t rest ih =>
    obtain ⟨ht, hrest⟩ := List.forall_mem_cons.1 hts
    cases rest with
    | nil =>
      rw [String.intercalate_singleton]
      exact ht
    | cons u rest =>
      rw [String.intercalate_cons_cons, String.append_assoc, after_toList_append ht,
        after_toList_append hsep.1, ih hrest]

theorem count_intercalate :
    count none (sep.intercalate ts).toList = (ts.map fun t => count none t.toList).sum := by
  induction ts with
  | nil => rfl
  | cons t rest ih =>
    obtain ⟨ht, hrest⟩ := List.forall_mem_cons.1 hts
    cases rest with
    | nil => rw [String.intercalate_singleton, List.map_singleton, List.sum_singleton]
    | cons u rest =>
      rw [String.intercalate_cons_cons, String.append_assoc, count_toList_append ht,
        count_toList_append hsep.1, hsep.2, ih hrest, Nat.zero_add]
      rfl

end

theorem Balanced.intercalate {sep : String} (hsep : Balanced sep) {ts : List String}
    (hts : ∀ t ∈ ts, Balanced t) : Balanced (sep.intercalate ts) := by
  refine ⟨after_intercalate hsep fun t ht => (hts t ht).1, ?_⟩
  rw [count_intercalate hsep fun t ht => (hts t ht).1, List.sum_eq_zero_iff_forall_eq_nat, List.forall_mem_map]
  exact fun t ht => (hts t ht).2

/-! ### Numbering one after the other -/

variable (mark : Nat → String)

/-- The text with the placeholders after `n`. -/
def numberText (n : Nat) (s : String) : String :=
  String.ofList (number (fun k => (mark k).toList) none n s.toList)

/-- The texts with the placeholders after `n`, from the first one to the last. -/
def numberEach : Nat → List String → List String
  | _, [] => []
  | n, t :: ts => numberText mark n t :: numberEach (n + count none t.toList) ts

theorem number_eq_numberText {d : Dialect} (h : d.numbered = true) (s : String) :
    d.number s = numberText d.placeholder 0 s := by
  rw [Dialect.number, if_pos h]
  rfl

theorem numberText_of_balanced {s : String} (h : Balanced s) (n : Nat) :
    numberText mark n s = s := by
  rw [numberText, number_of_count_eq_zero _ _ _ h.2, String.ofList_toList]

theorem numberText_append {s : String} (hs : after none s.toList = none) (t : String) (n : Nat) :
    numberText mark n (s ++ t) =
      numberText mark n s ++ numberText mark (n + count none s.toList) t := by
  rw [numberText, String.toList_append, number_append, hs, String.ofList_append]
  rfl

/-- The text around a placeholder keeps its number. -/
theorem numberText_intercalate {sep : String} (hsep : Balanced sep) {ts : List String}
    (hts : ∀ t ∈ ts, after none t.toList = none) (n : Nat) :
    numberText mark n (sep.intercalate ts) = sep.intercalate (numberEach mark n ts) := by
  induction ts generalizing n with
  | nil => rfl
  | cons t rest ih =>
    obtain ⟨ht, hrest⟩ := List.forall_mem_cons.1 hts
    cases rest with
    | nil => rw [String.intercalate_singleton, numberEach, numberEach, String.intercalate_singleton]
    | cons u rest =>
      -- the separator is passed over, and the rest goes on with the numbers behind those of `t`
      rw [String.intercalate_cons_cons, String.append_assoc, numberText_append mark ht,
        numberText_append mark hsep.1, numberText_of_balanced mark hsep, hsep.2, ih hrest,
        ← String.append_assoc]
      exact String.intercalate_cons_cons.symm

end EntitySql.Placeholder
