import EntitySql.Value.Basic

/-!
# Fragments of a statement

A `Fragment` is a piece of SQL text together with the parameters of its placeholders, in the order
of the text.  Fragments are put side by side with `++`, which keeps that order: text and parameters
of the first come before those of the second.
-/

namespace EntitySql

/-- SQL text and the parameters of its placeholders. -/
structure Fragment where
  text : String
  params : List Value := []
deriving DecidableEq, Repr, Inhabited

namespace Fragment

/-- No text and no parameters. -/
def empty : Fragment := ⟨"", []⟩

/-- Two fragments side by side. -/
def append (a b : Fragment) : Fragment := ⟨a.text ++ b.text, a.params ++ b.params⟩

instance : Append Fragment := ⟨append⟩

/-- A text without parameters. -/
instance : Coe String Fragment := ⟨fun s => ⟨s, []⟩⟩

/-- A placeholder for a value. -/
def placeholder (v : Value) : Fragment := ⟨"?", [v]⟩

/-- The fragment with its text changed and its parameters kept. -/
def mapText (f : String → String) (a : Fragment) : Fragment := ⟨f a.text, a.params⟩

/-- The fragments with a separator between any two of them. -/
def join (sep : String) : List Fragment → Fragment
  | [] => empty
  | [a] => a
  | a :: rest => a ++ (sep : Fragment) ++ join sep rest

/-- A fragment in parentheses. -/
def parenthesized (a : Fragment) : Fragment := ("(" : Fragment) ++ a ++ (")" : Fragment)

@[simp] theorem text_append (a b : Fragment) : (a ++ b).text = a.text ++ b.text := rfl

@[simp] theorem params_append (a b : Fragment) : (a ++ b).params = a.params ++ b.params := rfl

@[simp] theorem text_empty : empty.text = "" := rfl

@[simp] theorem params_empty : empty.params = [] := rfl

theorem append_assoc (a b c : Fragment) : a ++ b ++ c = a ++ (b ++ c) := by
  show append (append a b) c = append a (append b c)
  simp [append, String.append_assoc]

@[simp] theorem empty_append (a : Fragment) : empty ++ a = a := by
  show append empty a = a
  simp [append, empty]

@[simp] theorem append_empty (a : Fragment) : a ++ empty = a := by
  show append a empty = a
  simp [append, empty]

theorem text_join (sep : String) (fs : List Fragment) :
    (join sep fs).text = sep.intercalate (fs.map (·.text)) := by
  induction fs with
  | nil => rfl
  | cons f rest ih =>
    cases rest with
    | nil => exact String.intercalate_singleton.symm
    | cons g rest =>
      rw [join, text_append, text_append, ih]
      · exact String.intercalate_cons_cons.symm
      · exact List.cons_ne_nil g rest

theorem params_join (sep : String) (fs : List Fragment) :
    (join sep fs).params = fs.flatMap (·.params) := by
  induction fs with
  | nil => rfl
  | cons f rest ih =>
    cases rest with
    | nil => exact (List.append_nil _).symm
    | cons g rest =>
      rw [join, params_append, params_append, ih, List.append_nil]
      · exact List.flatMap_cons.symm
      · exact List.cons_ne_nil g rest

end Fragment

end EntitySql
