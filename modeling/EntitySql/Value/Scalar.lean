import EntitySql.Value.Basic

/-!
# Scalars

A `Scalar` is a type whose elements are written as one value and read from one cell: the integers
of up to 63 value bits, both float formats, truth values, texts, UUIDs and timestamps.  A cell is
read only as its own kind of value, so that no number is taken for a text or the other way round;
what was written reads back (`ofValue?_toValue` of each instance).

A `Cell` type may stand for a missing value too: `Option` reads a null as nothing.  `Initial` types
have an element that is held before anything is written.
-/

namespace EntitySql

/-- A type with the element that is held before anything is written. -/
class Initial (α : Type) where
  zero : α

instance : Initial Int8 := ⟨0⟩
instance : Initial Int16 := ⟨0⟩
instance : Initial Int32 := ⟨0⟩
instance : Initial Int64 := ⟨0⟩
instance : Initial UInt8 := ⟨0⟩
instance : Initial UInt16 := ⟨0⟩
instance : Initial UInt32 := ⟨0⟩
instance : Initial UInt64 := ⟨0⟩
instance : Initial Single := ⟨.zero⟩
instance : Initial Double := ⟨.zero⟩
instance : Initial Bool := ⟨false⟩
instance : Initial String := ⟨""⟩
instance : Initial Uuid := ⟨.nil⟩
instance : Initial Date := ⟨.epoch⟩
instance : Initial LocalDateTime := ⟨.epoch⟩
instance : Initial Timestamp := ⟨.epoch⟩

/-- A type of scalars. -/
class Scalar (α : Type) extends Initial α where
  toValue : α → Value
  ofValue? : Value → Option α

namespace Scalar

/-- An integer in a range of 64-bit integers, read from a cell. -/
def ofRange? {α : Type} (least greatest : Int) (make : Int → α) : Value → Option α
  | .int n => if least ≤ n.toInt ∧ n.toInt ≤ greatest then some (make n.toInt) else none
  | _ => none

instance : Scalar Int8 where
  toValue n := .int n.toInt64
  ofValue? := ofRange? (-128) 127 Int8.ofInt

instance : Scalar Int16 where
  toValue n := .int n.toInt64
  ofValue? := ofRange? (-32768) 32767 Int16.ofInt

instance : Scalar Int32 where
  toValue n := .int n.toInt64
  ofValue? := ofRange? (-2147483648) 2147483647 Int32.ofInt

instance : Scalar Int64 where
  toValue := .int
  ofValue?
    | .int n => some n
    | _ => none

instance : Scalar UInt8 where
  toValue n := .int (Int64.ofInt n.toNat)
  ofValue? := ofRange? 0 255 (UInt8.ofNat ·.toNat)

instance : Scalar UInt16 where
  toValue n := .int (Int64.ofInt n.toNat)
  ofValue? := ofRange? 0 65535 (UInt16.ofNat ·.toNat)

instance : Scalar UInt32 where
  toValue n := .int (Int64.ofInt n.toNat)
  ofValue? := ofRange? 0 4294967295 (UInt32.ofNat ·.toNat)

/-- A 32-bit float is written as the 64-bit float of the same value. -/
instance : Scalar Single where
  toValue x := .float x.toDouble
  ofValue?
    | .float x => some x.toSingle
    | _ => none

instance : Scalar Double where
  toValue := .float
  ofValue?
    | .float x => some x
    | _ => none

instance : Scalar Bool where
  toValue := .bool
  ofValue?
    | .bool b => some b
    | _ => none

instance : Scalar String where
  toValue := .text
  ofValue?
    | .text s => some s
    | _ => none

instance : Scalar Uuid where
  toValue := .uuid
  ofValue?
    | .uuid u => some u
    | _ => none

instance : Scalar Timestamp where
  toValue := .timestamp
  ofValue?
    | .timestamp t => some t
    | _ => none

end Scalar

/-! ### Missing values -/

/-- The value of an optional scalar: nothing is null. -/
def Value.ofOption {α : Type} [Scalar α] : Option α → Value
  | none => .null
  | some a => Scalar.toValue a

/-- A type that a cell can be read as. -/
class Cell (α : Type) where
  read? : Value → Option α

instance {α : Type} [Scalar α] : Cell α := ⟨Scalar.ofValue?⟩

/-- A cell as a value that may be missing, by how a cell is read that is not null: null is nothing. -/
def Value.readOption? {α : Type} (read? : Value → Option α) : Value → Option (Option α)
  | .null => some none
  | v => (read? v).map some

theorem Value.readOption?_of_ne_null {α : Type} (read? : Value → Option α) {v : Value}
    (h : v ≠ .null) : v.readOption? read? = (read? v).map some := by
  cases v with
  | null => exact absurd rfl h
  | _ => rfl

/-- A null reads as nothing. -/
instance {α : Type} [Scalar α] : Cell (Option α) := ⟨Value.readOption? Scalar.ofValue?⟩

/-- A type whose elements say what they write to a column, and whether they write at all. -/
class Writable (α : Type) where
  written : α → Option Value

/-- A scalar is always written. -/
instance {α : Type} [Scalar α] : Writable α := ⟨fun a => some (Scalar.toValue a)⟩

/-- A missing value is written as null. -/
instance {α : Type} [Scalar α] : Writable (Option α) := ⟨fun a => some (Value.ofOption a)⟩

end EntitySql
