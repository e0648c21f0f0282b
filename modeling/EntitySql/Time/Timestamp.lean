import EntitySql.Time.Date

/-!
# Points in time

A `LocalDateTime` is what a clock shows without a place: a `Date` and a `TimeOfDay`.  A `Timestamp`
is what a clock shows that keeps universal time.

A leap second has no number of its own: it is the second before it with a billion nanoseconds more,
and is written as second 60.  Only the last second of a minute can have one after it.

Texts are `2024-01-02T03:04:05`, with 0, 3, 6 or 9 digits of fraction, the fewest that are exact.
-/

namespace EntitySql

/-! ### Times of day -/

/-- The nanoseconds of a second. -/
def nanosPerSecond : Nat := 1000000000

/-- Seconds since midnight and nanoseconds that a clock can show. -/
structure TimeOfDay.Valid (second nano : Nat) : Prop where
  second_lt : second < 86400
  nano_lt : nano < 2 * nanosPerSecond
  leap : nanosPerSecond ≤ nano → second % 60 = 59

instance (second nano : Nat) : Decidable (TimeOfDay.Valid second nano) :=
  decidable_of_iff (second < 86400 ∧ nano < 2 * nanosPerSecond ∧
      (nanosPerSecond ≤ nano → second % 60 = 59))
    ⟨fun h => ⟨h.1, h.2.1, h.2.2⟩, fun h => ⟨h.second_lt, h.nano_lt, h.leap⟩⟩

/-- Seconds since midnight and nanoseconds, a billion of which mark a leap second. -/
structure TimeOfDay where
  second : Nat
  nano : Nat
  valid : TimeOfDay.Valid second nano
deriving DecidableEq, Repr

namespace TimeOfDay

/-- The start of a day. -/
def midnight : TimeOfDay := ⟨0, 0, by decide⟩

instance : Inhabited TimeOfDay := ⟨midnight⟩

/-- The time of day with the given seconds since midnight and nanoseconds, if there is one. -/
def ofSecond? (second nano : Nat) : Option TimeOfDay :=
  if h : Valid second nano then some ⟨second, nano, h⟩ else none

theorem ofSecond?_second (t : TimeOfDay) : ofSecond? t.second t.nano = some t := dif_pos t.valid

/-- The time of day with the given hour, minute, second and nanoseconds; second 60 is a leap
second. -/
def ofClock? (hour minute second nano : Nat) : Option TimeOfDay :=
  if 23 < hour ∨ 59 < minute ∨ 60 < second then none
  else if second = 60 then ofSecond? (hour * 3600 + minute * 60 + 59) (nanosPerSecond + nano)
  else ofSecond? (hour * 3600 + minute * 60 + second) nano

/-- The digits of the fraction with the point before them; nothing for a whole second. -/
def fractionChars (nano : Nat) : List Char :=
  if nano = 0 then []
  else if nano % 1000000 = 0 then '.' :: Date.padded 3 (nano / 1000000)
  else if nano % 1000 = 0 then '.' :: Date.padded 6 (nano / 1000)
  else '.' :: Date.padded 9 nano

/-- The characters of the text. -/
def chars (t : TimeOfDay) : List Char :=
  let leap := if nanosPerSecond ≤ t.nano then 1 else 0
  Date.padded 2 (t.second / 3600) ++ ':' :: (Date.padded 2 (t.second / 60 % 60) ++ ':' ::
    (Date.padded 2 (t.second % 60 + leap) ++ fractionChars (t.nano % nanosPerSecond)))

end TimeOfDay

/-! ### Dates with a time of day -/

/-- A date and time of day without a place. -/
structure LocalDateTime where
  date : Date
  time : TimeOfDay
deriving DecidableEq, Repr, Inhabited

namespace LocalDateTime

/-- The start of 1970. -/
def epoch : LocalDateTime := ⟨.epoch, .midnight⟩

/-- The characters of `text`. -/
def chars (t : LocalDateTime) : List Char := t.date.chars ++ 'T' :: t.time.chars

/-- The text without a zone. -/
def text (t : LocalDateTime) : String := String.ofList t.chars

/-- Earlier dates come first, then earlier seconds, then fewer nanoseconds. -/
def order (s t : LocalDateTime) : Ordering :=
  (compare s.date.dayNumber t.date.dayNumber).then
    ((compare s.time.second t.time.second).then (compare s.time.nano t.time.nano))

end LocalDateTime

/-- A point in time, by what a clock shows then that keeps universal time. -/
structure Timestamp where
  clock : LocalDateTime
deriving DecidableEq, Repr, Inhabited

namespace Timestamp

/-- The start of 1970. -/
def epoch : Timestamp := ⟨.epoch⟩

/-- The point in time at which a clock shows a date and time of day that is the given number of
seconds ahead of universal time. -/
def ofLocal? (t : LocalDateTime) (ahead : Int) : Option Timestamp := do
  let second := t.date.dayNumber * 86400 + t.time.second - ahead
  let date ← Date.ofNumber? (second / 86400)
  let time ← TimeOfDay.ofSecond? (second % 86400).toNat t.time.nano
  return ⟨date, time⟩

/-- The text with `Z` for universal time. -/
def text (t : Timestamp) : String := String.ofList (t.clock.chars ++ ['Z'])

/-- The text with the offset of universal time written out. -/
def textWithOffset (t : Timestamp) : String := String.ofList (t.clock.chars ++ "+00:00".toList)

end Timestamp

end EntitySql
