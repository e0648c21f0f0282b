import EntitySql.Proofs.Time.Calendar
import EntitySql.Time.Reader
import Mathlib.Data.List.TakeWhile

/-!
# Reading the texts of dates and times

Dates and times are read from their own texts: `TimeReader.readDate?_text`,
`TimeReader.readLocal?_text`, `TimeReader.readTimestamp?_text`.  A leap second is written as second
60, which is read as one; this is where it counts that a `TimeOfDay` has leap seconds only after the
last second of a minute.

Each part of a text is written with a fixed number of digits, or with a sign before them, and is
followed by a character that is no digit.  So each reader takes its own part and leaves the others,
and the text is taken apart from the left.
-/

namespace EntitySql

/-! ### Padded numbers -/

namespace Date

theorem isDigit_of_mem_padded {width n : Nat} {c : Char} (h : c ∈ padded width n) :
    c.isDigit = true := by
  rcases List.mem_append.1 h with hzero | hdigit
  · rw [List.eq_of_mem_replicate hzero]
    decide
  · exact Nat.isDigit_of_mem_toDigits (by decide) (by decide) hdigit

theorem length_padded {width n : Nat} (hpos : 0 < width) (h : n < 10 ^ width) :
    (padded width n).length = width := by
  have hlength : (Nat.toDigits 10 n).length ≤ width :=
    (Nat.length_toDigits_le_iff (by decide) hpos).2 h
  rw [padded, List.leftpad, List.length_append, List.length_replicate]
  omega

theorem padded_ne_nil (width n : Nat) : padded width n ≠ [] :=
  List.append_ne_nil_of_right_ne_nil _ Nat.toDigits_ne_nil

/-- A padded number begins with a digit. -/
theorem padded_eq_cons (width n : Nat) :
    ∃ c cs, padded width n = c :: cs ∧ c.isDigit = true := by
  obtain ⟨c, cs, heq⟩ := List.exists_cons_of_ne_nil (padded_ne_nil width n)
  exact ⟨c, cs, heq, isDigit_of_mem_padded (heq ▸ List.mem_cons_self)⟩

end Date

namespace TimeReader

open Date (padded)

theorem digitsValue_padded (width n : Nat) : digitsValue (padded width n) = n := by
  show Nat.ofDigitChars 10 (List.replicate _ '0' ++ Nat.toDigits 10 n) 0 = n
  rw [Nat.ofDigitChars_append, Nat.ofDigitChars_replicate_zero, Nat.mul_zero,
    Nat.ofDigitChars_ten_toDigits]

/-! ### Digits and separators -/

/-- Digits are no white space. -/
theorem isBlank_of_isDigit {c : Char} (h : c.isDigit = true) : Blank.isBlank c = false := by
  rw [Char.isDigit, Bool.and_eq_true, decide_eq_true_iff, decide_eq_true_iff] at h
  have hleast : 48 ≤ c.toNat := h.1
  have hgreatest : c.toNat ≤ 57 := h.2
  simp [Blank.isBlank]
  omega

theorem trimStart_cons {c : Char} (h : Blank.isBlank c = false) (s : List Char) :
    Blank.trimStart (c :: s) = c :: s := by
  rw [Blank.trimStart, List.dropWhile_cons_of_neg (by simp [h])]

/-- There is no white space before a number. -/
theorem trimStart_padded (width n : Nat) (rest : List Char) :
    Blank.trimStart (padded width n ++ rest) = padded width n ++ rest := by
  obtain ⟨c, cs, heq, hc⟩ := Date.padded_eq_cons width n
  rw [heq, List.cons_append, trimStart_cons (isBlank_of_isDigit hc)]

theorem separator_cons {c : Char} (h : Blank.isBlank c = false) (s : List Char) :
    separator c (c :: s) = some s := by
  rw [separator, trimStart_cons h, exactly, if_pos rfl]

/-- What does not begin with a digit, so that a number before it ends there. -/
def Ends (rest : List Char) : Prop := ∀ c ∈ rest.head?, c.isDigit = false

theorem takeWhile_padded (width n : Nat) {rest : List Char} (h : Ends rest) :
    (padded width n ++ rest).takeWhile Char.isDigit = padded width n := by
  rw [List.takeWhile_append_of_pos fun _ => Date.isDigit_of_mem_padded]
  cases rest with
  | nil => simp
  | cons c rest => rw [List.takeWhile_cons_of_neg (by simp [h c rfl]), List.append_nil]

/-- A number is read if it has the digits that are looked at. -/
theorem digits_padded {width n : Nat} (hpos : 0 < width) (h : n < 10 ^ width)
    (rest : List Char) : digits width (padded width n ++ rest) = some (n, rest) := by
  have hlength : (padded width n).length = width := Date.length_padded hpos h
  have htake : ((padded width n ++ rest).take width).takeWhile Char.isDigit = padded width n := by
    rw [List.take_left' hlength]
    exact List.takeWhile_eq_self_iff.2 fun _ => Date.isDigit_of_mem_padded
  simp only [digits, htake, List.isEmpty_iff, Date.padded_ne_nil, ↓reduceIte, digitsValue_padded,
    List.drop_left]

/-- A number is read up to what is no digit. -/
theorem digits_length_padded (width n : Nat) {rest : List Char} (h : Ends rest) :
    digits (padded width n ++ rest).length (padded width n ++ rest) = some (n, rest) := by
  simp only [digits, List.take_length, takeWhile_padded width n h, List.isEmpty_iff,
    Date.padded_ne_nil, ↓reduceIte, digitsValue_padded, List.drop_left]

theorem twoDigits_padded {n : Nat} (h : n < 100) (rest : List Char) :
    twoDigits (padded 2 n ++ rest) = some (n, rest) := by
  rw [twoDigits, trimStart_padded, digits_padded (by decide) h]

/-! ### Dates -/

/-- A year without a sign has four digits. -/
theorem year_padded {n : Nat} (h : n < 10000) (rest : List Char) :
    year (padded 4 n ++ rest) = some ((n : Int), rest) := by
  have hread : digits 4 (padded 4 n ++ rest) = some (n, rest) := digits_padded (by decide) h rest
  obtain ⟨c, cs, heq, hc⟩ := Date.padded_eq_cons 4 n
  rw [year, trimStart_padded, heq, List.cons_append]
  rw [heq, List.cons_append] at hread
  -- a digit is no sign, so the year is not taken for a longer one
  split
  · next heq' =>
    rw [(List.cons.inj heq').1] at hc
    exact absurd hc (by decide)
  · next heq' =>
    rw [(List.cons.inj heq').1] at hc
    exact absurd hc (by decide)
  · rw [hread, Option.map_some]

/-- A year is read up to what is no digit. -/
theorem year_yearText (y : Int) {rest : List Char} (h : Ends rest) :
    year (Date.yearText y ++ rest) = some (y, rest) := by
  have hread := digits_length_padded 4 y.natAbs h
  -- four digits, or a sign and as many as there are
  by_cases hfour : 0 ≤ y ∧ y ≤ 9999
  · rw [Date.yearText, if_pos hfour, year_padded (by omega), Int.toNat_of_nonneg hfour.1]
  · rw [Date.yearText, if_neg hfour]
    by_cases hneg : y < 0
    · rw [if_pos hneg, List.cons_append, year, trimStart_cons (by decide)]
      simp only [hread, Option.map_some]
      rw [Int.ofNat_natAbs_of_nonpos (by omega), Int.neg_neg]
    · rw [if_neg hneg, List.cons_append, year, trimStart_cons (by decide)]
      simp only [hread, Option.map_some]
      rw [Int.natAbs_of_nonneg (by omega)]

/-- A date is read from its text. -/
theorem date_chars (d : Date) (rest : List Char) : date (d.chars ++ rest) = some (d, rest) := by
  obtain ⟨hmonth, hday⟩ := d.civil_lt
  have hcivil := d.ofCivil?_civil
  obtain ⟨y, m, day, hparts⟩ : ∃ y m day, d.civil = (y, m, day) := ⟨_, _, _, rfl⟩
  rw [hparts] at hmonth hday hcivil
  have hyear : year (Date.yearText y ++ '-' :: (padded 2 m ++ '-' :: (padded 2 day ++ rest))) =
      some (y, '-' :: (padded 2 m ++ '-' :: (padded 2 day ++ rest))) :=
    year_yearText y (by rintro c ⟨⟩; decide)
  simp only [Date.chars, hparts, date, List.append_assoc, List.cons_append, hyear,
    Option.bind_eq_bind, Option.bind_some, separator_cons (c := '-') (by decide),
    twoDigits_padded hmonth, twoDigits_padded hday, hcivil]
  rfl

/-- A date is what its text stands for. -/
theorem readDate?_text (d : Date) : readDate? d.text = some d := by
  have hread := date_chars d []
  rw [List.append_nil] at hread
  rw [readDate?, Date.text, String.toList_ofList, hread]
  rfl

/-! ### Times of day -/

/-- Up to nine digits behind a point are a fraction of a second. -/
theorem fraction_padded {width n nano : Nat} (hpos : 0 < width) (hnine : width ≤ 9)
    (h : n < 10 ^ width) (hnano : n * powerOfTen (9 - width) = nano) {rest : List Char}
    (hends : Ends rest) : fraction ('.' :: (padded width n ++ rest)) = some (nano, rest) := by
  have hlength : (padded width n).length = width := Date.length_padded hpos h
  have hkept : (padded width n).take 9 = padded width n :=
    List.take_of_length_le (hlength.symm ▸ hnine)
  simp only [fraction, takeWhile_padded width n hends, hkept, hlength, List.isEmpty_iff,
    Date.padded_ne_nil, ↓reduceIte, digitsValue_padded, List.drop_left' hlength, hnano]

/-- What begins neither with a digit nor with a point, so that a time before it ends there. -/
def EndsTime (rest : List Char) : Prop := Ends rest ∧ rest.head? ≠ some '.'

theorem fraction_fractionChars {nano : Nat} (h : nano < nanosPerSecond)
    {rest : List Char} (hends : EndsTime rest) :
    fraction (TimeOfDay.fractionChars nano ++ rest) = some (nano, rest) := by
  have hlt : nano < 1000000000 := h
  rw [TimeOfDay.fractionChars]
  by_cases hzero : nano = 0
  · rw [if_pos hzero, List.nil_append, hzero]
    cases rest with
    | nil => rfl
    | cons c rest =>
      have hpoint : c ≠ '.' := fun hc => hends.2 (congrArg some hc)
      simp [fraction, hpoint]
  -- of the three widths the shortest that loses nothing is written
  by_cases hmilli : nano % 1000000 = 0
  · rw [if_neg hzero, if_pos hmilli]
    have hback : nano / 1000000 * 1000000 = nano :=
      Nat.div_mul_cancel (Nat.dvd_of_mod_eq_zero hmilli)
    exact fraction_padded (by decide) (by decide) (by omega) hback hends.1
  by_cases hmicro : nano % 1000 = 0
  · rw [if_neg hzero, if_neg hmilli, if_pos hmicro]
    have hback : nano / 1000 * 1000 = nano := Nat.div_mul_cancel (Nat.dvd_of_mod_eq_zero hmicro)
    exact fraction_padded (by decide) (by decide) (by omega) hback hends.1
  · rw [if_neg hzero, if_neg hmilli, if_neg hmicro]
    exact fraction_padded (by decide) (by decide) (by omega) (Nat.mul_one nano) hends.1

/-- Hours, minutes, seconds and the fraction behind them are read. -/
theorem clock_padded {h m sec nano : Nat} (hh : h < 100) (hm : m < 100) (hsec : sec < 100)
    (hnano : nano < nanosPerSecond) {rest : List Char} (hends : EndsTime rest) :
    clock (padded 2 h ++ ':' :: (padded 2 m ++ ':' ::
        (padded 2 sec ++ (TimeOfDay.fractionChars nano ++ rest)))) =
      (TimeOfDay.ofClock? h m sec nano).map (·, rest) := by
  simp only [clock, twoDigits_padded hh, Option.bind_eq_bind, Option.bind_some,
    separator_cons (c := ':') (by decide), twoDigits_padded hm, twoDigits_padded hsec,
    fraction_fractionChars hnano hends]
  cases TimeOfDay.ofClock? h m sec nano <;> rfl

end TimeReader

namespace TimeOfDay

/-- The hour, minute and second that a time of day is written with make that time of day. -/
theorem ofClock?_parts (t : TimeOfDay) :
    ofClock? (t.second / 3600) (t.second / 60 % 60)
      (t.second % 60 + if nanosPerSecond ≤ t.nano then 1 else 0) (t.nano % nanosPerSecond) =
        some t := by
  have hlt := t.valid.second_lt
  have hsplit : t.second / 3600 * 3600 + t.second / 60 % 60 * 60 + t.second % 60 = t.second := by
    omega
  by_cases hnano : nanosPerSecond ≤ t.nano
  · -- a leap second, which only a second 59 can have after it
    have hlast := t.valid.leap hnano
    have hrest : nanosPerSecond + t.nano % nanosPerSecond = t.nano := by
      have hbound := t.valid.nano_lt
      rw [Nat.mod_eq_sub_mod hnano, Nat.mod_eq_of_lt (by omega)]
      omega
    rw [if_pos hnano, hlast, ofClock?, if_neg (by omega), if_pos rfl, hrest]
    rw [hlast] at hsplit
    rw [hsplit, ofSecond?_second]
  · rw [if_neg hnano, Nat.add_zero, ofClock?, if_neg (by omega), if_neg (by omega), hsplit,
      Nat.mod_eq_of_lt (Nat.not_le.1 hnano), ofSecond?_second]

end TimeOfDay

/-- What a clock that keeps universal time shows is the point in time. -/
theorem Timestamp.ofLocal?_clock (t : Timestamp) : ofLocal? t.clock 0 = some t := by
  obtain ⟨date, time⟩ := t
  have hlt := time.valid.second_lt
  have hday : (date.dayNumber * 86400 + time.second - 0) / 86400 = date.dayNumber := by omega
  have hsecond : ((date.dayNumber * 86400 + time.second - 0) % 86400).toNat = time.second := by
    omega
  simp only [ofLocal?, hday, hsecond, Date.ofNumber?_dayNumber, TimeOfDay.ofSecond?_second]
  rfl

namespace TimeReader

/-- A time of day is read from its text. -/
theorem clock_chars (t : TimeOfDay) {rest : List Char} (hends : EndsTime rest) :
    clock (t.chars ++ rest) = some (t, rest) := by
  have hlt := t.valid.second_lt
  have hsec : t.second % 60 + (if nanosPerSecond ≤ t.nano then 1 else 0) < 100 := by
    split <;> omega
  have hnano : t.nano % nanosPerSecond < nanosPerSecond := Nat.mod_lt _ (by decide)
  simp only [TimeOfDay.chars, List.append_assoc, List.cons_append]
  rw [clock_padded (by omega) (by omega) hsec hnano hends, t.ofClock?_parts, Option.map_some]

/-- What a clock shows is what its text stands for. -/
theorem readLocal?_text (t : LocalDateTime) : readLocal? t.text = some t := by
  have hends : EndsTime [] := ⟨by rintro c ⟨⟩, by decide⟩
  have hclock := clock_chars t.time hends
  rw [List.append_nil] at hclock
  rw [readLocal?, LocalDateTime.text, String.toList_ofList, LocalDateTime.chars, date_chars]
  simp only [Option.bind_eq_bind, Option.bind_some, separator_cons (c := 'T') (by decide), hclock]
  rfl

/-- A point in time is what its text stands for. -/
theorem readTimestamp?_text (t : Timestamp) : readTimestamp? t.text = some t := by
  have hends : EndsTime ['Z'] := ⟨by rintro c ⟨⟩; decide, by decide⟩
  have hclock := clock_chars t.clock.time hends
  have hzone : zone (Blank.trimStart ['Z']) = some (0, []) := by decide
  rw [readTimestamp?, Timestamp.text, String.toList_ofList, LocalDateTime.chars, List.append_assoc,
    List.cons_append, date_chars]
  simp only [Option.bind_eq_bind, Option.bind_some, timeMark, hclock, hzone]
  exact (if_pos (by decide)).trans t.ofLocal?_clock

end TimeReader

end EntitySql
