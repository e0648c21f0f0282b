import EntitySql.Declaration.Mapping
import EntitySql.Entity.FieldType

/-!
# Records

An `EntityType` is a mapped type whose fields have `FieldType`s, together with what its fields hold
at first and whatever its ignored fields hold.  A `Record` of it has a value of the right type for
every mapped field.

`Record.values` lists what the fields write, in order of declaration, and `Record.set` changes one
field and no other (`get_set_same`, `get_set_other`).
-/

namespace EntitySql

/-- What the mapped fields of a type hold at first. -/
class Defaults (mapping : Mapping FieldType) where
  initial : (i : Fin mapping.fields.length) → mapping.fields[i].type.Carrier

/-- The zeros of the types of the fields, unless a type says something else. -/
instance Defaults.zeros (mapping : Mapping FieldType) : Defaults mapping :=
  ⟨fun i => mapping.fields[i].type.zero⟩

/-- A mapped type. -/
structure EntityType where
  modulePath : String
  mapping : Mapping FieldType
  [defaults : Defaults mapping]
  /-- What the ignored fields hold together. -/
  Unmapped : Type := Unit
  unmapped : Unmapped

namespace EntityType

/-- The mapped fields. -/
abbrev fields (e : EntityType) : List (MappedField FieldType) := e.mapping.fields

/-- The places of the mapped fields. -/
abbrev Place (e : EntityType) : Type := Fin e.fields.length

/-- The field at a place. -/
def field (e : EntityType) (i : e.Place) : MappedField FieldType := e.fields[i]

/-- The schema. -/
def schema (e : EntityType) : Schema := e.mapping.schema e.modulePath

/-- The key that the type is registered under. -/
def key (e : EntityType) : EntityKey := e.schema.key

/-- The place of the first field with a name. -/
def place? (e : EntityType) (name : String) : Option e.Place :=
  (List.finRange e.fields.length).find? fun i => (e.field i).name == name

/-- What the field at a place holds at first. -/
def initial (e : EntityType) (i : e.Place) : (e.field i).type.Carrier := e.defaults.initial i

end EntityType

/-- A value for every field of a mapped type. -/
structure Record (e : EntityType) where
  get : (i : e.Place) → (e.field i).type.Carrier
  unmapped : e.Unmapped

namespace Record

variable {e : EntityType}

/-- The first value of every field. -/
def initial (e : EntityType) : Record e := ⟨e.initial, e.unmapped⟩

/-- The record with another value at one place. -/
def set (r : Record e) (i : e.Place) (a : (e.field i).type.Carrier) : Record e where
  get j := if h : i = j then h ▸ a else r.get j
  unmapped := r.unmapped

@[simp] theorem get_set_same (r : Record e) (i : e.Place) (a : (e.field i).type.Carrier) :
    (r.set i a).get i = a := by
  simp [set]

theorem get_set_other (r : Record e) {i j : e.Place} (a : (e.field i).type.Carrier)
    (h : i ≠ j) : (r.set i a).get j = r.get j := by
  simp [set, h]

/-- What the field at a place writes. -/
def value? (r : Record e) (i : e.Place) : Option Value := (e.field i).type.written (r.get i)

/-- What the fields write, in order of declaration. -/
def values (r : Record e) : List (String × Option Value) :=
  (List.finRange e.fields.length).map fun i => ((e.field i).name, r.value? i)

/-- The record with a field set from a value; nothing if there is no such field or the value is not
of its kind. -/
def setNamed? (r : Record e) (name : String) (v : Value) : Option (Record e) := do
  let i ← e.place? name
  let a ← (e.field i).type.read? .exact v
  return r.set i a

end Record

end EntitySql
