import EntitySql.Presence

/-!
# Types of mapped fields

A mapped field holds a scalar, an optional scalar or a scalar with a presence flag.  `FieldType`
names these types, `FieldType.Carrier` is the type itself, and `zero`, `read?` and `written` are its
zero, how a cell is read and what is written to a column.

A field that is not set writes nothing; only a scalar with a presence flag can be in that state, and
it holds the zero of the scalar then.  Null is read as nothing and as not set.  How any other cell is
read is up to the database: a `CellReader` says so for each type of scalars.
-/

namespace EntitySql

/-- The types of scalars. -/
inductive ScalarType where
  | int8 | int16 | int32 | int64
  | uint8 | uint16 | uint32
  | single | double
  | bool | text | uuid | timestamp
deriving DecidableEq, Repr, Inhabited

namespace ScalarType

/-- The scalars of a type. -/
@[reducible] def Carrier : ScalarType → Type
  | .int8 => Int8
  | .int16 => Int16
  | .int32 => Int32
  | .int64 => Int64
  | .uint8 => UInt8
  | .uint16 => UInt16
  | .uint32 => UInt32
  | .single => Single
  | .double => Double
  | .bool => Bool
  | .text => String
  | .uuid => Uuid
  | .timestamp => Timestamp

/-- How the scalars of a type are written and read. -/
instance scalar : (t : ScalarType) → Scalar t.Carrier
  | .int8 => inferInstanceAs (Scalar Int8)
  | .int16 => inferInstanceAs (Scalar Int16)
  | .int32 => inferInstanceAs (Scalar Int32)
  | .int64 => inferInstanceAs (Scalar Int64)
  | .uint8 => inferInstanceAs (Scalar UInt8)
  | .uint16 => inferInstanceAs (Scalar UInt16)
  | .uint32 => inferInstanceAs (Scalar UInt32)
  | .single => inferInstanceAs (Scalar Single)
  | .double => inferInstanceAs (Scalar Double)
  | .bool => inferInstanceAs (Scalar Bool)
  | .text => inferInstanceAs (Scalar String)
  | .uuid => inferInstanceAs (Scalar Uuid)
  | .timestamp => inferInstanceAs (Scalar Timestamp)

end ScalarType

/-- How a database gives back what it has stored. -/
structure CellReader where
  /-- What a cell is read as; optional fields and fields with a presence flag take null themselves. -/
  read? : (t : ScalarType) → Value → Option t.Carrier
  /-- The identifier in the row that an insert gives back. -/
  identifier? : Value → Option Int64 := read? .int64

/-- The reader that takes each cell only as the kind of value that it holds. -/
def CellReader.exact : CellReader where
  read? t := Scalar.ofValue? (α := t.Carrier)

/-- The types of mapped fields. -/
inductive FieldType where
  | plain (t : ScalarType)
  | optional (t : ScalarType)
  | presence (t : ScalarType)
deriving DecidableEq, Repr, Inhabited

namespace FieldType

/-- What a field of a type holds. -/
@[reducible] def Carrier : FieldType → Type
  | .plain t => t.Carrier
  | .optional t => Option t.Carrier
  | .presence t => Presence.Kept t.Carrier

/-- The zero of a type. -/
def zero : (t : FieldType) → t.Carrier
  | .plain _ => Initial.zero
  | .optional _ => none
  | .presence _ => ⟨Presence.absent, Presence.zeroed_absent⟩

/-- A cell as what the field holds, if it can be read. -/
def read? (reader : CellReader) : (t : FieldType) → Value → Option t.Carrier
  | .plain t, v => reader.read? t v
  | .optional t, v => Value.readOption? (reader.read? t) v
  | .presence t, v =>
    (Presence.ofCell? (reader.read? t) v).attachWith _ fun _ => Presence.zeroed_of_ofCell?

/-- What is written for what a field holds; nothing for a field that is not set. -/
def written : (t : FieldType) → t.Carrier → Option Value
  | .plain t => Writable.written (α := t.Carrier)
  | .optional t => Writable.written (α := Option t.Carrier)
  | .presence _ => fun p => Writable.written p.val

end FieldType

end EntitySql
