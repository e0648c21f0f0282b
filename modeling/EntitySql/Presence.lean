import EntitySql.Value.Scalar

/-!
# Values that may be absent

A `Presence α` is a value with a flag that says whether it was set.  An absent one holds the zero of
its type, is left out of what is written, and is what a null reads as.  A present zero is a value
like any other.

Two of them are compared by value first and by presence second, absent before present.
-/

namespace EntitySql

/-- A value with a presence flag. -/
structure Presence (α : Type) where
  value : α
  present : Bool
deriving DecidableEq, Repr

namespace Presence

variable {α : Type}

/-- A present value. -/
def new (a : α) : Presence α := ⟨a, true⟩

/-- The value if it is present. -/
def get? (p : Presence α) : Option α := if p.present then some p.value else none

/-- Not present. -/
def isAbsent (p : Presence α) : Bool := !p.present

/-- Stores a value and marks it as present. -/
def set (_ : Presence α) (a : α) : Presence α := new a

@[simp] theorem get?_new (a : α) : (new a).get? = some a := rfl

@[simp] theorem get?_set (p : Presence α) (a : α) : (p.set a).get? = some a := rfl

/-! ### Absence -/

/-- No value: the zero of the type, marked as absent. -/
def absent [Initial α] : Presence α := ⟨Initial.zero, false⟩

/-- Present exactly when there is something. -/
def ofOption [Initial α] : Option α → Presence α
  | some a => new a
  | none => absent

/-- Marks the value as absent and stores the zero again. -/
def clear [Initial α] (_ : Presence α) : Presence α := absent

@[simp] theorem get?_absent [Initial α] : (absent : Presence α).get? = none := rfl

@[simp] theorem get?_clear [Initial α] (p : Presence α) : p.clear.get? = none := rfl

@[simp] theorem get?_ofOption [Initial α] (o : Option α) : (ofOption o).get? = o := by
  cases o <;> rfl

/-- A cell as a value that may be absent, by how a cell is read that is not null: null is absent. -/
def ofCell? [Initial α] (read? : Value → Option α) : Value → Option (Presence α)
  | .null => some absent
  | v => (read? v).map new

theorem ofCell?_of_ne_null [Initial α] (read? : Value → Option α) {v : Value} (h : v ≠ .null) :
    ofCell? read? v = (read? v).map new := by
  cases v with
  | null => exact absurd rfl h
  | _ => rfl

/-! ### The zero of what is absent -/

/-- An absent value holds the zero. -/
def Zeroed [Initial α] (p : Presence α) : Prop := p.present = false → p.value = Initial.zero

section

variable [Initial α]

theorem zeroed_new (a : α) : (new a).Zeroed := nofun

theorem zeroed_absent : (absent : Presence α).Zeroed := fun _ => rfl

theorem zeroed_set (p : Presence α) (a : α) : (p.set a).Zeroed := zeroed_new a

theorem zeroed_clear (p : Presence α) : p.clear.Zeroed := zeroed_absent

theorem zeroed_ofOption (o : Option α) : (ofOption o).Zeroed := by
  cases o with
  | none => exact zeroed_absent
  | some a => exact zeroed_new a

theorem zeroed_of_ofCell? {read? : Value → Option α} {v : Value} {p : Presence α}
    (h : ofCell? read? v = some p) : p.Zeroed := by
  by_cases hv : v = .null
  · subst hv
    obtain rfl := Option.some.inj h
    exact zeroed_absent
  · obtain ⟨a, -, rfl⟩ := Option.map_eq_some_iff.1 ((ofCell?_of_ne_null read? hv).symm.trans h)
    exact zeroed_new a

end

/-- A value whose zero is kept while it is absent, as the operations keep it. -/
abbrev Kept (α : Type) [Initial α] : Type := { p : Presence α // p.Zeroed }

/-! ### Scalars -/

/-- A null reads as absent. -/
instance [Scalar α] : Cell (Presence α) := ⟨ofCell? Scalar.ofValue?⟩

/-- An absent value is not written. -/
instance [Scalar α] : Writable (Presence α) := ⟨fun p => p.get?.map Scalar.toValue⟩

end Presence

/-! ### Order -/

/-- A type with the comparisons of its elements; elements may be equal to nothing, as a NaN is. -/
class Comparable (α : Type) where
  equal : α → α → Bool
  order? : α → α → Option Ordering

/-- The comparisons of a total order. -/
@[reducible] def Comparable.ofOrd (α : Type) [DecidableEq α] (cmp : α → α → Ordering) :
    Comparable α :=
  ⟨fun a b => a == b, fun a b => some (cmp a b)⟩

instance : Comparable Int8 := .ofOrd Int8 compare
instance : Comparable Int16 := .ofOrd Int16 compare
instance : Comparable Int32 := .ofOrd Int32 compare
instance : Comparable Int64 := .ofOrd Int64 compare
instance : Comparable UInt8 := .ofOrd UInt8 compare
instance : Comparable UInt16 := .ofOrd UInt16 compare
instance : Comparable UInt32 := .ofOrd UInt32 compare
instance : Comparable UInt64 := .ofOrd UInt64 compare
instance : Comparable Bool := .ofOrd Bool compare
instance : Comparable String := .ofOrd String compare
instance : Comparable Uuid := .ofOrd Uuid fun a b => compare a.bits.toNat b.bits.toNat
instance : Comparable Timestamp := .ofOrd Timestamp fun a b => a.clock.order b.clock
instance : Comparable LocalDateTime := .ofOrd LocalDateTime LocalDateTime.order
instance : Comparable Date := .ofOrd Date fun a b => compare a.dayNumber b.dayNumber

instance : Comparable Double := ⟨fun a b => a.compare? b == some .eq, Double.compare?⟩
instance : Comparable Single := ⟨fun a b => a.compare? b == some .eq, Single.compare?⟩

namespace Presence

variable {α : Type} [Comparable α]

/-- Equal values of equal presence. -/
def equal (p q : Presence α) : Bool :=
  Comparable.equal p.value q.value && p.present == q.present

/-- The order by value, then by presence. -/
def order? (p q : Presence α) : Option Ordering :=
  match Comparable.order? p.value q.value with
  | some .eq => some (compare p.present q.present)
  | o => o

end Presence

end EntitySql
