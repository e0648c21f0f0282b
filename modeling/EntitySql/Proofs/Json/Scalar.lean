import EntitySql.Entity.FieldType
import EntitySql.Proofs.Json.Number
import EntitySql.Proofs.Json.Text
import EntitySql.Proofs.Time.Reader
import EntitySql.Proofs.Uuid

/-!
# Scalars in JSON and back

`JsonType` names the types of scalars with JSON texts: those of mapped fields and three more.  A
scalar has no text only if it is a float that is infinite or no number (`JsonType.encode_eq_error`).
The text of any other scalar that is no float is read as that scalar, and does not begin as `null`
does (`JsonType.exists_reads`).

The types come in families, one for each way to write a scalar, and each family has one lemma:
integers by their range (`JsonScalar.reads_integerScalar`), scalars in quotes by the reader of their
texts (`JsonScalar.reads_textScalar`).
-/

namespace EntitySql

/-! ### Types -/

/-- The types of scalars with JSON texts. -/
inductive JsonType where
  | field (t : ScalarType)
  | uint64
  | localDateTime
  | date
deriving DecidableEq, Repr, Inhabited

/-- How the scalars of mapped fields are written in JSON and read. -/
@[reducible] def ScalarType.jsonScalar : (t : ScalarType) → JsonScalar t.Carrier
  | .int8 => inferInstanceAs (JsonScalar Int8)
  | .int16 => inferInstanceAs (JsonScalar Int16)
  | .int32 => inferInstanceAs (JsonScalar Int32)
  | .int64 => inferInstanceAs (JsonScalar Int64)
  | .uint8 => inferInstanceAs (JsonScalar UInt8)
  | .uint16 => inferInstanceAs (JsonScalar UInt16)
  | .uint32 => inferInstanceAs (JsonScalar UInt32)
  | .single => inferInstanceAs (JsonScalar Single)
  | .double => inferInstanceAs (JsonScalar Double)
  | .bool => inferInstanceAs (JsonScalar Bool)
  | .text => inferInstanceAs (JsonScalar String)
  | .uuid => inferInstanceAs (JsonScalar Uuid)
  | .timestamp => inferInstanceAs (JsonScalar Timestamp)

/-- How the scalars of mapped fields are compared. -/
@[reducible] def ScalarType.comparable : (t : ScalarType) → Comparable t.Carrier
  | .int8 => inferInstanceAs (Comparable Int8)
  | .int16 => inferInstanceAs (Comparable Int16)
  | .int32 => inferInstanceAs (Comparable Int32)
  | .int64 => inferInstanceAs (Comparable Int64)
  | .uint8 => inferInstanceAs (Comparable UInt8)
  | .uint16 => inferInstanceAs (Comparable UInt16)
  | .uint32 => inferInstanceAs (Comparable UInt32)
  | .single => inferInstanceAs (Comparable Single)
  | .double => inferInstanceAs (Comparable Double)
  | .bool => inferInstanceAs (Comparable Bool)
  | .text => inferInstanceAs (Comparable String)
  | .uuid => inferInstanceAs (Comparable Uuid)
  | .timestamp => inferInstanceAs (Comparable Timestamp)

namespace JsonType

/-- The scalars of a type. -/
@[reducible] def Carrier : JsonType → Type
  | .field t => t.Carrier
  | .uint64 => UInt64
  | .localDateTime => LocalDateTime
  | .date => Date

instance jsonScalar : (t : JsonType) → JsonScalar t.Carrier
  | .field t => t.jsonScalar
  | .uint64 => inferInstanceAs (JsonScalar UInt64)
  | .localDateTime => inferInstanceAs (JsonScalar LocalDateTime)
  | .date => inferInstanceAs (JsonScalar Date)

instance comparable : (t : JsonType) → Comparable t.Carrier
  | .field t => t.comparable
  | .uint64 => inferInstanceAs (Comparable UInt64)
  | .localDateTime => inferInstanceAs (Comparable LocalDateTime)
  | .date => inferInstanceAs (Comparable Date)

/-- Whether the scalars are floats. -/
def isFloat : JsonType → Bool
  | .field .single | .field .double => true
  | _ => false

/-- A float that is infinite or no number. -/
def NonFinite : (t : JsonType) → t.Carrier → Prop
  | .field .single, x => x.isFinite = false
  | .field .double, x => x.isFinite = false
  | _, _ => False

/-! ### Comparisons -/

/-- The zero of each type equals itself. -/
theorem equal_zero (t : JsonType) :
    Comparable.equal (Initial.zero : t.Carrier) Initial.zero = true := by
  cases t with
  | field t => cases t <;> decide
  | _ => decide

/-- Any scalar but a float equals itself. -/
theorem equal_self {t : JsonType} (h : t.isFloat = false) (a : t.Carrier) :
    Comparable.equal a a = true := by
  cases t with
  | field t =>
    cases t with
    | single | double => exact absurd h (by decide)
    | _ => exact beq_self_eq_true a
  | _ => exact beq_self_eq_true a

/-! ### Writing -/

/-- A choice between a result and a failure fails exactly where the condition does. -/
theorem exists_ite_eq_error {ε β : Type} (c : Bool) (b : β) (e : ε) :
    (∃ e', (if c then .ok b else .error e : Except ε β) = .error e') ↔ c = false := by
  cases c <;> simp

/-- Only a float that is infinite or no number has no text. -/
theorem encode_eq_error (t : JsonType) (a : t.Carrier) :
    (∃ e, JsonScalar.encode a = .error e) ↔ t.NonFinite a := by
  cases t with
  | field t =>
    cases t with
    | single | double => exact exists_ite_eq_error _ _ _
    | _ => exact ⟨nofun, nofun⟩
  | _ => exact ⟨nofun, nofun⟩

end JsonType

/-! ### Reading what was written -/

namespace JsonScalar

/-- A text of a scalar that is read as the scalar, up to its end, and begins neither with white
space nor as `null` does. -/
structure Reads {α : Type} [JsonScalar α] (a : α) (s : List Char) : Prop where
  encode : JsonScalar.encode a = .ok s
  decode : JsonScalar.decode? s = some (a, [])
  head : ∀ c ∈ s.head?, Json.isSpace c = false ∧ c ≠ 'n'

/-- The characters at the start of an integer. -/
theorem head_integerChars {n : Int} {c : Char} (h : c ∈ (Json.integerChars n).head?) :
    Json.isSpace c = false ∧ c ≠ 'n' := by
  have hc : c = '-' ∨ c.isDigit = true := by
    by_cases hneg : n < 0
    · rw [Json.integerChars, if_pos hneg] at h
      exact Or.inl (Option.some.inj h).symm
    · rw [Json.integerChars, if_neg hneg] at h
      exact Or.inr (Json.isDigit_of_mem_toDigits (List.mem_of_mem_head? h))
  rcases hc with rfl | hc
  · decide
  · refine ⟨Bool.eq_false_iff.2 fun hspace => ?_, by rintro rfl; exact absurd hc (by decide)⟩
    have hchar : c = ' ' ∨ c = '\n' ∨ c = '\t' ∨ c = Char.ofNat 13 := by
      simpa [Json.isSpace, or_assoc, ← Char.toNat_inj] using hspace
    rcases hchar with rfl | rfl | rfl | rfl <;> exact absurd hc (by decide)

section

variable {α : Type} [Initial α]

/-- An integer is read from its digits as the scalar that it was, if the range of the type has it
and the type makes the scalar of it again. -/
theorem reads_integerScalar {least greatest : Int} {make : Int → α} {toInt : α → Int} {a : α}
    (hleast : Int64.minValue.toInt ≤ least) (hgreatest : greatest < UInt64.size)
    (hle : least ≤ toInt a) (hlt : toInt a < greatest + 1) (hmake : make (toInt a) = a) :
    @Reads α (Json.integerScalar least greatest make toInt) a (Json.integerChars (toInt a)) := by
  have hrange : least ≤ toInt a ∧ toInt a ≤ greatest := ⟨hle, Int.le_of_lt_add_one hlt⟩
  have hfits : Json.Fits (toInt a) :=
    ⟨hleast.trans hrange.1, hrange.2.trans_lt hgreatest⟩
  refine @Reads.mk α (_) _ _ rfl ?_ fun _ => head_integerChars
  show Json.mapRead? (Json.ofRange? least greatest make)
    (Json.readNumeric (Json.integerChars (toInt a))) = some (a, [])
  rw [Json.readNumeric_integerChars hfits]
  simp [Json.mapRead?, Json.ofRange?, hrange, hmake]

/-- An integer without sign is read from its digits. -/
theorem reads_unsigned (greatest : Nat) {ofNat : Nat → α} {toNat : α → Nat} {a : α}
    (hgreatest : (greatest : Int) < UInt64.size) (hlt : toNat a < greatest + 1)
    (hmake : ofNat (toNat a) = a) :
    @Reads α (Json.integerScalar 0 greatest (ofNat ·.toNat) (toNat ·)) a
      (Json.integerChars (toNat a)) :=
  @reads_integerScalar α _ 0 greatest (ofNat ·.toNat) (toNat ·) a (by decide) hgreatest
    (Int.natCast_nonneg _) (Int.ofNat_lt.2 hlt) hmake

/-- A scalar in quotes is read as the scalar that it was if its text is. -/
theorem reads_textScalar {text : α → String} {ofText? : String → Option α} {a : α}
    (h : ofText? (text a) = some a) :
    @Reads α (Json.textScalar text ofText?) a (Json.textChars (text a).toList) := by
  have hread := Json.readText_textChars (text a).toList []
  rw [List.append_nil] at hread
  refine @Reads.mk α (_) _ _ rfl ?_ (by rintro c ⟨⟩; decide)
  show Json.mapRead? (fun cs => ofText? (String.ofList cs))
    (Json.readText (Json.textChars (text a).toList)) = some (a, [])
  rw [hread]
  simp [Json.mapRead?, h]

end

/-- A truth value is read from its word. -/
theorem reads_bool (b : Bool) : Reads b (if b then "true".toList else "false".toList) where
  encode := rfl
  decode := by cases b <;> decide
  head := by
    cases b
    all_goals
      rintro c ⟨⟩
      decide

end JsonScalar

namespace JsonType

open JsonScalar

/-- A scalar that is no float is read from its text. -/
theorem exists_reads {t : JsonType} (hfloat : t.isFloat = false) (a : t.Carrier) :
    ∃ s, Reads a s := by
  -- integers lie in the ranges of their types; the other types have their texts in quotes
  cases t with
  | field t =>
    cases t with
    | single | double => exact absurd hfloat (by decide)
    | int8 =>
      exact ⟨_, reads_integerScalar (by decide) (by decide) (Int8.le_toInt a)
        (Int8.toInt_lt a) (Int8.ofInt_toInt a)⟩
    | int16 =>
      exact ⟨_, reads_integerScalar (by decide) (by decide) (Int16.le_toInt a)
        (Int16.toInt_lt a) (Int16.ofInt_toInt a)⟩
    | int32 =>
      exact ⟨_, reads_integerScalar (by decide) (by decide) (Int32.le_toInt a)
        (Int32.toInt_lt a) (Int32.ofInt_toInt a)⟩
    | int64 =>
      exact ⟨_, reads_integerScalar (by decide) (by decide) (Int64.le_toInt a)
        (Int64.toInt_lt a) (Int64.ofInt_toInt a)⟩
    | uint8 =>
      exact ⟨_, reads_unsigned 255 (by decide) (UInt8.toNat_lt a) UInt8.ofNat_toNat⟩
    | uint16 =>
      exact ⟨_, reads_unsigned 65535 (by decide) (UInt16.toNat_lt a) UInt16.ofNat_toNat⟩
    | uint32 =>
      exact ⟨_, reads_unsigned 4294967295 (by decide) (UInt32.toNat_lt a) UInt32.ofNat_toNat⟩
    | bool => exact ⟨_, reads_bool a⟩
    | text => exact ⟨_, @reads_textScalar String _ id some a rfl⟩
    | uuid => exact ⟨_, reads_textScalar (Uuid.ofText?_text a)⟩
    | timestamp => exact ⟨_, reads_textScalar (TimeReader.readTimestamp?_text a)⟩
  | uint64 =>
    exact ⟨_, reads_unsigned 18446744073709551615 (by decide) (UInt64.toNat_lt a)
      UInt64.ofNat_toNat⟩
  | localDateTime => exact ⟨_, reads_textScalar (TimeReader.readLocal?_text a)⟩
  | date => exact ⟨_, reads_textScalar (TimeReader.readDate?_text a)⟩

end JsonType

end EntitySql
