import EntitySql.Number.Numeral
import EntitySql.Text.Quoted
import EntitySql.Time.Timestamp
import EntitySql.Uuid

/-!
# Values

A `Value` is what is bound to one placeholder of a statement, and what one cell of a result row
holds.  Equality is equality of contents; two floats are equal when their bits are.
-/

namespace EntitySql

/-- A scalar bound to a placeholder or read from a cell. -/
inductive Value where
  | null
  | bool (b : Bool)
  | int (n : Int64)
  | float (x : Double)
  | text (s : String)
  | uuid (u : Uuid)
  | timestamp (t : Timestamp)
deriving DecidableEq, Repr, Inhabited

namespace Value

/-- The SQL null. -/
def isNull : Value → Bool
  | .null => true
  | _ => false

/-- A floating-point number. -/
def isFloat : Value → Bool
  | .float _ => true
  | _ => false

/-- The text `%`, which a pattern holds in its own text instead of binding it. -/
def isWildcard : Value → Bool
  | .text s => s == "%"
  | _ => false

/-- The value as it is shown in a message. -/
def describe : Value → String
  | .null => "Null"
  | .bool b => "Bool(" ++ (if b then "true" else "false") ++ ")"
  | .int n => "I64(" ++ toString n.toInt ++ ")"
  | .float x => "F64(" ++ Numeral.described.ofDouble x ++ ")"
  | .text s => "String(" ++ Quoted.describe s ++ ")"
  | .uuid u => "Uuid(" ++ u.text ++ ")"
  | .timestamp t => "DateTime(" ++ t.text ++ ")"

end Value

end EntitySql
