import EntitySql.Fragment

/-!
# Fragments inside of fragments

`a.StandsIn b` says that `b` is `a` with other fragments before and behind it: the text of `a` is a
part of the text of `b`, and the parameters of `a` are a part of the parameters of `b`, in the same
place among the others.

What stands in a part stands in the whole (`StandsIn.trans`), and each of several joined fragments
stands in the join (`standsIn_join`).
-/

namespace EntitySql.Fragment

/-- A fragment is a part of another one, text and parameters. -/
def StandsIn (a b : Fragment) : Prop := ∃ before behind, before ++ a ++ behind = b

variable {a b c : Fragment}

theorem standsIn_refl (a : Fragment) : a.StandsIn a :=
  ⟨.empty, .empty, by rw [empty_append, append_empty]⟩

theorem StandsIn.trans (hab : a.StandsIn b) (hbc : b.StandsIn c) : a.StandsIn c := by
  obtain ⟨before, behind, rfl⟩ := hab
  obtain ⟨before', behind', rfl⟩ := hbc
  exact ⟨before' ++ before, behind ++ behind', by simp only [append_assoc]⟩

theorem StandsIn.append_left (h : a.StandsIn b) (front : Fragment) : a.StandsIn (front ++ b) := by
  obtain ⟨before, behind, rfl⟩ := h
  exact ⟨front ++ before, behind, by simp only [append_assoc]⟩

theorem StandsIn.append_right (h : a.StandsIn b) (rest : Fragment) : a.StandsIn (b ++ rest) := by
  obtain ⟨before, behind, rfl⟩ := h
  exact ⟨before, behind ++ rest, by simp only [append_assoc]⟩

theorem standsIn_parenthesized (a : Fragment) : a.StandsIn a.parenthesized :=
  ⟨⟨"(", []⟩, ⟨")", []⟩, rfl⟩

/-- Each of the joined fragments stands in the whole. -/
theorem standsIn_join (sep : String) {fs : List Fragment} (h : a ∈ fs) :
    a.StandsIn (join sep fs) := by
  induction fs with
  | nil => cases h
  | cons f rest ih =>
    cases rest with
    | nil =>
      obtain rfl := List.mem_singleton.1 h
      exact standsIn_refl a
    | cons g rest =>
      have hjoin : join sep (f :: g :: rest) = f ++ (sep : Fragment) ++ join sep (g :: rest) := rfl
      rw [hjoin]
      rcases List.mem_cons.1 h with rfl | h
      · exact ((standsIn_refl a).append_right _).append_right _
      · exact (ih h).append_left _

end EntitySql.Fragment
