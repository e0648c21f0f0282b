import EntitySql.Declaration.Basic
import EntitySql.Schema.Basic

/-!
# Mappings

`Declaration.mapping` makes a mapping of a declaration to a table, or says why there is none.  A
mapped field has the name of its column and its tags, and a constant that stands for it in queries:
its name in upper snake case.  Two fields never have the same constant.

What is refused is refused in this order: parameters, a body that is no record, an attribute of the
type, an attribute of a field, a constant used twice; last, a constant that is no identifier.
-/

namespace EntitySql

/-- A mistake in an attribute item. -/
inductive AttributeError where
  /-- A key that types do not have. -/
  | unknownTypeKey
  /-- A key that fields do not have. -/
  | unknownFieldKey
  /-- A key that needs a text and has nothing. -/
  | equalsSignNeeded
  /-- A key that needs a text and has another literal. -/
  | textNeeded
  /-- A key that takes nothing and has something. -/
  | commaNeeded
deriving DecidableEq, Repr, Inhabited

/-- The wording of a mistake in an attribute item. -/
def AttributeError.message : AttributeError → String
  | .unknownTypeKey => "unsupported weft container attribute, expected \x60table\x60"
  | .unknownFieldKey => "unsupported weft field attribute"
  | .equalsSignNeeded => "expected \x60=\x60"
  | .textNeeded => "expected string literal"
  | .commaNeeded => "expected \x60,\x60"

/-- Why a declaration has no mapping. -/
inductive DeclarationError where
  /-- The declaration has names that are none. -/
  | malformed
  | generic
  | notRecord
  | fieldsUnnamed
  | attribute (e : AttributeError)
  /-- Two fields, by their identifiers, with one constant. -/
  | sharedConstant (first second constant : String)
  /-- A field whose constant is no identifier. -/
  | unnameable (constant : String)
deriving DecidableEq, Repr, Inhabited

/-- The wording of a refusal of a declaration. -/
def DeclarationError.message : DeclarationError → String
  | .malformed => "not a declaration"
  | .generic => "Weft Entity does not support generic structs"
  | .notRecord => "Weft Entity only supports structs"
  | .fieldsUnnamed => "Weft Entity only supports structs with named fields"
  | .attribute e => e.message
  | .sharedConstant first second constant =>
    "fields \x60" ++ first ++ "\x60 and \x60" ++ second ++ "\x60 both map to the constant \x60" ++
      constant ++ "\x60"
  | .unnameable constant => "no identifier: \x60" ++ constant ++ "\x60"

/-- A field that is mapped to a column. -/
structure MappedField (τ : Type) where
  identifier : String
  type : τ
  /-- The identifier without its mark. -/
  name : String
  column : Option String := none
  tags : String := ""
deriving DecidableEq, Repr, Inhabited

namespace MappedField

variable {τ : Type}

/-- The constant that stands for the field. -/
def constant (f : MappedField τ) : String := Naming.shouty f.name

/-- The column of the field. -/
def columnDef (f : MappedField τ) : ColumnDef := ⟨f.name, f.column, f.tags⟩

end MappedField

/-- A type mapped to a table. -/
structure Mapping (τ : Type) where
  typeName : String
  table : Option String := none
  fields : List (MappedField τ) := []
deriving DecidableEq, Repr, Inhabited

namespace Mapping

variable {τ : Type}

/-- The schema of the type, whose key is its name after that of the module it is declared in. -/
def schema (m : Mapping τ) (modulePath : String) : Schema where
  key := modulePath ++ "::" ++ m.typeName
  typeName := m.typeName
  table := m.table
  columns := m.fields.map (·.columnDef)

/-- The constants with the handles that they stand for. -/
def handles (m : Mapping τ) (modulePath : String) : List (String × Field) :=
  m.fields.map fun f => (f.constant, ⟨(m.schema modulePath).key, f.name⟩)

end Mapping

/-! ### Attributes -/

namespace AttributeItem

/-- The text given for a key that needs one. -/
def text (i : AttributeItem) : Except AttributeError String :=
  match i.given with
  | .nothing => .error .equalsSignNeeded
  | .text s => .ok s
  | .other => .error .textNeeded

/-- The check of a key that takes nothing. -/
def bare (i : AttributeItem) : Except AttributeError Unit :=
  match i.given with
  | .nothing => .ok ()
  | .text _ | .other => .error .commaNeeded

/-- The table after one more item of the type. -/
def addToTable (_ : Option String) (i : AttributeItem) : Except AttributeError (Option String) :=
  if i.key = "table" then i.text.map some else .error .unknownTypeKey

end AttributeItem

/-- What the attributes of a field say. -/
structure FieldMarks where
  column : Option String := none
  tags : String := ""
  ignored : Bool := false
deriving DecidableEq, Repr, Inhabited

/-- The marks after one more item of the field. -/
def FieldMarks.add (marks : FieldMarks) (i : AttributeItem) : Except AttributeError FieldMarks :=
  if i.key = "column" then i.text.map fun s => { marks with column := some s }
  else if i.key = "tag" then i.text.map fun s => { marks with tags := s }
  else if i.key = "ignore" then i.bare.map fun _ => { marks with ignored := true }
  else .error .unknownFieldKey

namespace DeclaredField

variable {τ : Type}

/-- What the attributes say. -/
def marks (f : DeclaredField τ) : Except AttributeError FieldMarks :=
  (Attribute.mappingItems f.attributes).foldlM FieldMarks.add {}

/-- The mapped field, unless the field is ignored. -/
def mapped? (f : DeclaredField τ) : Except AttributeError (Option (MappedField τ)) :=
  f.marks.map fun marks =>
    if marks.ignored then none
    else some ⟨f.identifier, f.type, Naming.plain f.identifier, marks.column, marks.tags⟩

end DeclaredField

/-! ### The mapping -/

namespace Declaration

variable {τ : Type}

/-- The first two fields with one constant, where the second one comes as early as can be. -/
def clash? : List (MappedField τ) → List (MappedField τ) → Option (MappedField τ × MappedField τ)
  | _, [] => none
  | seen, f :: rest =>
    match seen.find? (·.constant == f.constant) with
    | some earlier => some (earlier, f)
    | none => clash? (seen ++ [f]) rest

/-- The table that the attributes of the type give. -/
def table (d : Declaration τ) : Except AttributeError (Option String) :=
  (Attribute.mappingItems d.attributes).foldlM AttributeItem.addToTable none

/-- The fields of a record without parameters. -/
def recordFields (d : Declaration τ) : Except DeclarationError (List (DeclaredField τ)) :=
  if d.generic then .error .generic
  else match d.body with
    | .record fields => .ok fields
    | .tuple _ | .unit => .error .fieldsUnnamed
    | .enumeration | .union _ => .error .notRecord

/-- The mapped fields, each with a constant of its own. -/
def mappedFields (fields : List (DeclaredField τ)) :
    Except DeclarationError (List (MappedField τ)) := do
  let marked ← (fields.mapM DeclaredField.mapped?).mapError .attribute
  let mapped := marked.filterMap id
  match clash? [] mapped with
  | some (first, second) =>
    throw (.sharedConstant first.identifier second.identifier second.constant)
  | none => return mapped

/-- The mapping of a declaration, or why there is none. -/
def mapping (d : Declaration τ) : Except DeclarationError (Mapping τ) := do
  if !d.isWellFormed then throw .malformed
  let fields ← d.recordFields
  let table ← d.table.mapError .attribute
  let mapped ← mappedFields fields
  match mapped.find? fun f => !Identifier.isWord f.constant.toList with
  | some f => throw (.unnameable f.constant)
  | none => return ⟨Naming.plain d.identifier, table, mapped⟩

end Declaration

end EntitySql
