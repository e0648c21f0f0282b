import EntitySql.Text.Blank
import EntitySql.Text.Identifier

/-!
# Declarations

A `Declaration τ` is the definition of a type as it is written: its name, its parameters, its body
and its attributes, where the types of the fields are of type `τ`.  Only a record with named fields
and without parameters can be mapped to a table.  Attributes of the path `Attribute.mappingPath` say
how, and all other attributes are passed over.
-/

namespace EntitySql

/-- What is given behind the key of an attribute item. -/
inductive Given where
  /-- The key alone. -/
  | nothing
  /-- A text in quotes. -/
  | text (s : String)
  /-- Any other literal. -/
  | other
deriving DecidableEq, Repr, Inhabited

/-- One key of an attribute with what is given for it. -/
structure AttributeItem where
  key : String
  given : Given := .nothing
deriving DecidableEq, Repr, Inhabited

/-- An attribute: its path and its items. -/
structure Attribute where
  path : String
  items : List AttributeItem := []
deriving DecidableEq, Repr, Inhabited

/-- The path of the attributes that speak about the mapping. -/
def Attribute.mappingPath : String := "weft"

/-- The items of all attributes that speak about the mapping, in order. -/
def Attribute.mappingItems (attributes : List Attribute) : List AttributeItem :=
  (attributes.filter (·.path == mappingPath)).flatMap (·.items)

/-- A named field of a declaration. -/
structure DeclaredField (τ : Type) where
  identifier : String
  type : τ
  attributes : List Attribute := []
deriving DecidableEq, Repr, Inhabited

/-- The kinds of type definitions. -/
inductive Body (τ : Type) where
  | record (fields : List (DeclaredField τ))
  | tuple (types : List τ)
  | unit
  | enumeration
  | union (fields : List (DeclaredField τ))
deriving DecidableEq, Repr, Inhabited

/-- A type definition. -/
structure Declaration (τ : Type) where
  identifier : String
  /-- Whether the type has parameters. -/
  generic : Bool := false
  attributes : List Attribute := []
  body : Body τ
deriving DecidableEq, Repr, Inhabited

namespace Declaration

variable {τ : Type}

/-- Whether a parameter list as it is written, with any conditions behind it, has a parameter: what
follows its opening bracket is not its closing bracket. -/
def hasParameters (written : String) : Bool :=
  match Blank.trimStart written.toList with
  | '<' :: rest => (Blank.trimStart rest).head? != some '>'
  | _ => false

/-- The declared fields, where they have names. -/
def namedFields (d : Declaration τ) : List (DeclaredField τ) :=
  match d.body with
  | .record fields | .union fields => fields
  | .tuple _ | .unit | .enumeration => []

/-- Whether the names are names; a field may be called `_`. -/
def isWellFormed (d : Declaration τ) : Bool :=
  Identifier.isName d.identifier &&
    d.namedFields.all fun f => f.identifier == "_" || Identifier.isName f.identifier

end Declaration

end EntitySql
