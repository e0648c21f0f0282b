import EntitySql.Proofs.Json.Scalar

/-!
# Presence through runs and through JSON

A `Presence` is made by a `Source` and changed by `Call`s; what any run of them leads to is
`Presence.Reached`.  The invariant of a run is that an absent value holds the zero of its type
(`Presence.Reached.zeroed`): each source gives such a value, and each call keeps it, one that fails
to read its source by changing nothing.

The theorem `JsonType.presence_kept` says what follows for every type of scalars.  The stored value
of what is absent carries no information, so two values are equal just when what they hold is.
Writing fails only for a present float that is infinite or no number.  The text of anything else that
is no float is read as the value that it was written for, and is `null` just where that is absent.
-/

namespace EntitySql

/-- The equality of what may be missing: nothing equals nothing, and scalars are compared. -/
def Comparable.equalOption {α : Type} [Comparable α] : Option α → Option α → Bool
  | none, none => true
  | some a, some b => equal a b
  | _, _ => false

namespace Presence

/-! ### Runs -/

/-- A way to make a value that may be absent. -/
inductive Source (α : Type) where
  | new (a : α)
  | absent
  | ofOption (o : Option α)
  | json (text : String)
  /-- A cell of a row, with the reader that its database has for scalars of the type. -/
  | cell (read? : Value → Option α) (v : Value)

/-- A change of a value that may be absent. -/
inductive Call (α : Type) where
  | set (a : α)
  | clear
  /-- A new value is made, and taken if it can be. -/
  | assign (s : Source α)

section

variable {α : Type} [JsonScalar α]

/-- What is made, if the text or the cell can be read. -/
def Source.make? : Source α → Option (Presence α)
  | .new a => some (Presence.new a)
  | .absent => some Presence.absent
  | .ofOption o => some (Presence.ofOption o)
  | .json text => ofJson? text
  | .cell read? v => ofCell? read? v

/-- What a value is after a call. -/
def apply (p : Presence α) : Call α → Presence α
  | .set a => p.set a
  | .clear => p.clear
  | .assign s => s.make?.getD p

/-- What a run of calls leads to from a value that was made. -/
inductive Reached : Presence α → Prop where
  | make {s : Source α} {p : Presence α} (h : s.make? = some p) : Reached p
  | apply {p : Presence α} (c : Call α) (h : Reached p) : Reached (p.apply c)

/-! ### The zero of what is absent -/

/-- What a JSON text stands for is absent or a present scalar. -/
theorem eq_absent_or_new_of_ofJson? {text : String} {p : Presence α} (h : ofJson? text = some p) :
    p = absent ∨ ∃ a, p = new a := by
  rw [ofJson?, ofJsonChars?, Option.bind_eq_some_iff] at h
  obtain ⟨⟨q, rest⟩, hread, hend⟩ := h
  obtain rfl : q = p := by
    simp only [Option.ite_none_right_eq_some, Option.some.injEq] at hend
    exact hend.2
  split at hread
  · obtain ⟨rest', -, heq⟩ := Option.map_eq_some_iff.1 hread
    exact Or.inl (Prod.mk.inj heq).1.symm
  · obtain ⟨⟨a, rest'⟩, -, heq⟩ := Option.map_eq_some_iff.1 hread
    exact Or.inr ⟨a, (Prod.mk.inj heq).1.symm⟩

theorem zeroed_of_make? {s : Source α} {p : Presence α} (h : s.make? = some p) : p.Zeroed := by
  cases s with
  | new a =>
    obtain rfl := Option.some.inj h
    exact zeroed_new a
  | absent =>
    obtain rfl := Option.some.inj h
    exact zeroed_absent
  | ofOption o =>
    obtain rfl := Option.some.inj h
    exact zeroed_ofOption o
  | json text =>
    rcases eq_absent_or_new_of_ofJson? h with rfl | ⟨a, rfl⟩
    · exact zeroed_absent
    · exact zeroed_new a
  | cell read? v => exact zeroed_of_ofCell? h

theorem Zeroed.apply {p : Presence α} (hp : p.Zeroed) (c : Call α) : (p.apply c).Zeroed := by
  cases c with
  | set a => exact zeroed_set p a
  | clear => exact zeroed_clear p
  | assign s =>
    show (s.make?.getD p).Zeroed
    -- an assignment that fails leaves the value as it was
    cases h : s.make? with
    | none => exact hp
    | some q => exact zeroed_of_make? h

/-- Whatever a run leads to holds the zero if it is absent. -/
theorem Reached.zeroed {p : Presence α} (h : p.Reached) : p.Zeroed := by
  induction h with
  | make h => exact zeroed_of_make? h
  | apply c _ ih => exact ih.apply c

/-! ### Equality -/

/-- Where absent values hold the zero, values are equal just when what they hold is. -/
theorem equal_eq_equalOption [Comparable α]
    (hzero : Comparable.equal (Initial.zero : α) Initial.zero = true) {p q : Presence α}
    (hp : p.Zeroed) (hq : q.Zeroed) : p.equal q = Comparable.equalOption p.get? q.get? := by
  -- the four combinations; where both are absent, both hold the zero
  obtain ⟨a, present⟩ := p
  obtain ⟨b, present'⟩ := q
  cases present with
  | true => cases present' <;> simp [equal, get?, Comparable.equalOption]
  | false =>
    obtain rfl : a = Initial.zero := hp rfl
    cases present' with
    | true => simp [equal, get?, Comparable.equalOption]
    | false =>
      obtain rfl : b = Initial.zero := hq rfl
      simp [equal, get?, Comparable.equalOption, hzero]

/-! ### JSON -/

/-- A value has no text just when it is present and its scalar has none. -/
theorem toJson_eq_error {p : Presence α} :
    (∃ e, p.toJson = .error e) ↔
      ∃ a, p.get? = some a ∧ ∃ e, JsonScalar.encode a = .error e := by
  cases h : p.get? with
  | none => simp [toJson, h]
  | some a => cases ha : JsonScalar.encode a <;> simp [toJson, h, ha, Except.map]

theorem ofJson?_null : ofJson? "null" = some (absent : Presence α) := rfl

/-- A text that is read as a scalar is read as that scalar, present. -/
theorem ofJson?_of_reads {a : α} {s : List Char} (h : JsonScalar.Reads a s) :
    ofJson? (String.ofList s) = some (new a) := by
  -- the text begins without white space and is not the word for no value
  have hskip : Json.skipSpace s = s := by
    cases s with
    | nil => rfl
    | cons c rest => exact List.dropWhile_cons_of_neg (by simp [(h.head c rfl).1])
  have hdecode := h.decode
  rw [ofJson?, String.toList_ofList, ofJsonChars?, hskip]
  split
  · exact absurd rfl (h.head 'n' rfl).2
  · rw [hdecode]
    rfl

/-- No text of a scalar is `null`. -/
theorem ne_null_of_reads {a : α} {s : List Char} (h : JsonScalar.Reads a s) :
    String.ofList s ≠ "null" := by
  intro heq
  have hhead := h.head 'n' (by rw [← String.toList_ofList (l := s), heq]; rfl)
  exact hhead.2 rfl

end

end Presence

namespace JsonType

open Presence

/-- **A value that may be absent, through every run and through JSON.**  Whatever a run leads to
holds the zero of its type if it is absent, and equals another such value just when what the two
hold is equal.  It has no JSON text just when it is present and a float that is infinite or no
number.  Anything else that is no float has a text that is read as the value itself, and that is
`null` just when the value is absent. -/
theorem presence_kept (t : JsonType) {p : Presence t.Carrier} (hp : p.Reached) :
    (p.isAbsent = true → p.value = Initial.zero) ∧
    (∀ q : Presence t.Carrier, q.Reached →
      p.equal q = Comparable.equalOption p.get? q.get?) ∧
    ((∃ e, p.toJson = .error e) ↔ ∃ a, p.get? = some a ∧ t.NonFinite a) ∧
    (t.isFloat = false →
      ∃ text, p.toJson = .ok text ∧ ofJson? text = some p ∧ p.equal p = true ∧
        (p.isAbsent = true ↔ text = "null")) := by
  refine ⟨fun habsent => hp.zeroed (by simpa [isAbsent] using habsent),
    fun q hq => equal_eq_equalOption t.equal_zero hp.zeroed hq.zeroed, ?_, ?_⟩
  · simp only [toJson_eq_error, t.encode_eq_error]
  · intro hfloat
    have hself : p.equal p = true := by
      rw [equal, equal_self hfloat, Bool.true_and, beq_self_eq_true]
    obtain ⟨a, present⟩ := p
    -- an absent value is written as no value at all, and a present one as its scalar
    cases present with
    | false =>
      obtain rfl : a = Initial.zero := hp.zeroed rfl
      exact ⟨"null", rfl, ofJson?_null, hself, iff_of_true rfl rfl⟩
    | true =>
      obtain ⟨s, hreads⟩ := exists_reads hfloat a
      have htext : toJson (new a) = .ok (String.ofList s) := by
        show (JsonScalar.encode a).map String.ofList = .ok (String.ofList s)
        rw [hreads.encode]
        rfl
      exact ⟨String.ofList s, htext, ofJson?_of_reads hreads, hself,
        iff_of_false Bool.false_ne_true (ne_null_of_reads hreads)⟩

/-- The last second of 2016, which had a leap second after it, half a second into that. -/
def leapSecond : Timestamp where
  clock := ⟨⟨17166, by decide⟩, ⟨86399, 1500000000, by decide⟩⟩

/-- A time within a leap second that is set after a text that is none was tried has a JSON text that
is read as that time. -/
theorem presence_kept_leap_second :
    ∃ text, (Presence.new leapSecond).toJson = .ok text ∧
      ofJson? text = some (Presence.new leapSecond) ∧ text ≠ "null" := by
  have hmade : (Source.absent : Source Timestamp).make? = some absent := rfl
  have hreached : Reached (Presence.new leapSecond) :=
    ((Reached.make hmade).apply (.assign (.json "now"))).apply (.set _)
  obtain ⟨text, htext, hread, -, hnull⟩ := (presence_kept (.field .timestamp) hreached).2.2.2 rfl
  exact ⟨text, htext, hread, fun heq => absurd (hnull.2 heq) (by decide)⟩

end JsonType

end EntitySql
