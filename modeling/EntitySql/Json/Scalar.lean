import EntitySql.Json.Number
import EntitySql.Json.Text
import EntitySql.Number.Numeral
import EntitySql.Presence
import EntitySql.Time.Reader

/-!
# Scalars in JSON

A `JsonScalar` has a JSON text, which is never `null`, and is read from one.  Integers take the
integers of their range and no float, floats take both; texts, UUIDs, dates and times stand in
quotes.  Only a float that is infinite or no number has no text.

A `Presence` of them adds `null`: that is the text of what is absent, and reads as absent
(`Presence.toJson`, `Presence.ofJson?`).
-/

namespace EntitySql

/-- Why a value has no JSON text. -/
inductive EncodeError where
  /-- A float that is infinite or no number, by its described text. -/
  | nonFinite (text : String)
deriving DecidableEq, Repr, Inhabited

/-- The wording of the reason. -/
def EncodeError.message : EncodeError → String
  | .nonFinite text => "cannot encode non-finite float " ++ text

/-- A type of scalars with JSON texts. -/
class JsonScalar (α : Type) extends Initial α where
  /-- The text of a scalar. -/
  encode : α → Except EncodeError (List Char)
  /-- The scalar whose text stands at the start, and what comes after it. -/
  decode? : List Char → Option (α × List Char)

namespace Json

/-- What was read with its value mapped, if it can be. -/
def mapRead? {α β : Type} (f : α → Option β) (r : Option (α × List Char)) :
    Option (β × List Char) :=
  r.bind fun (a, rest) => (f a).map (·, rest)

/-! ### Integers -/

/-- The digits of an integer. -/
def integerChars (n : Int) : List Char :=
  if n < 0 then '-' :: Nat.toDigits 10 n.natAbs else Nat.toDigits 10 n.natAbs

/-- An integer of a range. -/
def ofRange? {α : Type} (least greatest : Int) (make : Int → α) : Numeric → Option α
  | .integer n => if least ≤ n ∧ n ≤ greatest then some (make n) else none
  | .float _ => none

/-- The integers of a range as scalars. -/
@[reducible] def integerScalar {α : Type} [Initial α] (least greatest : Int) (make : Int → α)
    (toInt : α → Int) : JsonScalar α where
  encode a := .ok (integerChars (toInt a))
  decode? s := mapRead? (ofRange? least greatest make) (readNumeric s)

instance : JsonScalar Int8 := integerScalar (-128) 127 Int8.ofInt Int8.toInt
instance : JsonScalar Int16 := integerScalar (-32768) 32767 Int16.ofInt Int16.toInt
instance : JsonScalar Int32 := integerScalar (-2147483648) 2147483647 Int32.ofInt Int32.toInt

instance : JsonScalar Int64 :=
  integerScalar (-9223372036854775808) 9223372036854775807 Int64.ofInt Int64.toInt

instance : JsonScalar UInt8 := integerScalar 0 255 (UInt8.ofNat ·.toNat) (·.toNat)
instance : JsonScalar UInt16 := integerScalar 0 65535 (UInt16.ofNat ·.toNat) (·.toNat)
instance : JsonScalar UInt32 := integerScalar 0 4294967295 (UInt32.ofNat ·.toNat) (·.toNat)

instance : JsonScalar UInt64 :=
  integerScalar 0 18446744073709551615 (UInt64.ofNat ·.toNat) (·.toNat)

/-! ### Floats -/

/-- A number as a 64-bit float. -/
def toDouble : Numeric → Double
  | .integer n => Double.ofRatio (decide (n < 0)) n.natAbs 1
  | .float x => x

/-- A number as a 32-bit float; a float is rounded a second time. -/
def toSingle : Numeric → Single
  | .integer n => Single.ofRatio (decide (n < 0)) n.natAbs 1
  | .float x => x.toSingle

instance : JsonScalar Double where
  encode x :=
    if x.isFinite then .ok (Numeral.jsonDouble.ofDouble x).toList
    else .error (.nonFinite (Numeral.described.ofDouble x))
  decode? s := (readNumeric s).map fun (n, rest) => (toDouble n, rest)

instance : JsonScalar Single where
  encode x :=
    if x.isFinite then .ok (Numeral.jsonSingle.ofSingle x).toList
    else .error (.nonFinite (Numeral.described.ofSingle x))
  decode? s := (readNumeric s).map fun (n, rest) => (toSingle n, rest)

/-! ### Words and texts -/

/-- A given word at the start. -/
def word? (w s : List Char) : Option (List Char) :=
  if w.isPrefixOf s then some (s.drop w.length) else none

instance : JsonScalar Bool where
  encode b := .ok (if b then "true".toList else "false".toList)
  decode? s :=
    match word? "true".toList s with
    | some rest => some (true, rest)
    | none => (word? "false".toList s).map (false, ·)

/-- Scalars that are written as texts in quotes. -/
@[reducible] def textScalar {α : Type} [Initial α] (text : α → String)
    (ofText? : String → Option α) : JsonScalar α where
  encode a := .ok (textChars (text a).toList)
  decode? s := mapRead? (fun cs => ofText? (String.ofList cs)) (readText s)

instance : JsonScalar String := textScalar id some
instance : JsonScalar Uuid := textScalar Uuid.text Uuid.ofText?
instance : JsonScalar Timestamp := textScalar Timestamp.text TimeReader.readTimestamp?
instance : JsonScalar LocalDateTime := textScalar LocalDateTime.text TimeReader.readLocal?
instance : JsonScalar Date := textScalar Date.text TimeReader.readDate?

/-! ### White space -/

/-- White space of JSON. -/
def isSpace (c : Char) : Bool := c == ' ' || c == '\n' || c == '\t' || c.toNat == 13

/-- The characters without the white space before them. -/
def skipSpace (s : List Char) : List Char := s.dropWhile isSpace

end Json

/-! ### Values that may be absent -/

namespace Presence

variable {α : Type} [JsonScalar α]

/-- The JSON text: that of the value, or `null`. -/
def toJson (p : Presence α) : Except EncodeError String :=
  match p.get? with
  | none => .ok "null"
  | some a => (JsonScalar.encode a).map String.ofList

/-- What is read from the characters of a whole text. -/
def ofJsonChars? (s : List Char) : Option (Presence α) :=
  let s := Json.skipSpace s
  let read : Option (Presence α × List Char) :=
    match s with
    | 'n' :: _ => (Json.word? "null".toList s).map (absent, ·)
    | _ => (JsonScalar.decode? s).map fun (a, rest) => (new a, rest)
  read.bind fun (p, rest) => if (Json.skipSpace rest).isEmpty then some p else none

/-- What a JSON text stands for. -/
def ofJson? (s : String) : Option (Presence α) := ofJsonChars? s.toList

/-- Whether the JSON text of what is there stands for it; nothing if there is no text, or if it
cannot be read. -/
def roundTrips? [Comparable α] (p : Presence α) : Option Bool :=
  match p.toJson with
  | .error _ => none
  | .ok text => (ofJson? text).map fun q => q.equal p

end Presence

end EntitySql
