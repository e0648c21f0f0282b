/-!
# Calendar dates

A `Date` is a day of the proleptic Gregorian calendar, held as its number from 1 January 1970.
`Date.ofCivil?` numbers a year, month and day and refuses days that do not exist; `Date.civil` gives
them back.  Years count through zero, and only the days of the years from `leastYear` to
`greatestYear` are dates.

Both directions count in years that begin on 1 March, so that the leap day is the last day of its
year, and in cycles of 400 years, after which the calendar repeats.  A day that exists lies in its
year (`Date.numberOf_bounds`), so what `Date.ofCivil?` numbers is a date.
-/

namespace EntitySql

namespace Date

/-- The first year that has dates. -/
def leastYear : Int := -262143

/-- The last year that has dates. -/
def greatestYear : Int := 262142

/-- Every fourth year is a leap year, but of the full centuries only every fourth. -/
def isLeapYear (year : Int) : Bool :=
  year % 4 == 0 && (year % 100 != 0 || year % 400 == 0)

/-- The number of days of a month, zero for what is no month. -/
def daysInMonth (year : Int) (month : Nat) : Nat :=
  if month = 2 then (if isLeapYear year then 29 else 28)
  else if month ∈ [4, 6, 9, 11] then 30
  else if month ∈ [1, 3, 5, 7, 8, 10, 12] then 31
  else 0

/-- The number of a day, whether it exists or not. -/
def numberOf (year : Int) (month day : Nat) : Int :=
  let marchYear := if month ≤ 2 then year - 1 else year
  let cycle := marchYear / 400
  let yearOfCycle := marchYear % 400
  let dayOfYear : Int := (153 * ((month + 9) % 12) + 2) / 5 + day - 1
  let dayOfCycle := yearOfCycle * 365 + yearOfCycle / 4 - yearOfCycle / 100 + dayOfYear
  cycle * 146097 + dayOfCycle - 719468

/-- The number of the first day of a year. -/
def yearStart (year : Int) : Int := numberOf year 1 1

/-! ### Days of a year -/

/-- The days from year 0 to a year, where years begin in March. -/
def daysBefore (year : Int) : Int := 365 * year + year / 4 - year / 100 + year / 400

theorem numberOf_eq (year : Int) (month day : Nat) :
    numberOf year month day = daysBefore (if month ≤ 2 then year - 1 else year) +
      ((153 * ((month + 9) % 12) + 2) / 5 + day - 1) - 719468 := by
  generalize hyear : (if month ≤ 2 then year - 1 else year) = marchYear
  simp only [numberOf, hyear, daysBefore]
  omega

theorem yearStart_eq (year : Int) : yearStart year = daysBefore (year - 1) + 306 - 719468 := by
  rw [yearStart, numberOf_eq, if_pos (by decide)]
  omega

theorem daysBefore_mono {x y : Int} (h : x ≤ y) : daysBefore x ≤ daysBefore y := by
  rw [daysBefore, daysBefore]
  omega

theorem daysBefore_succ (y : Int) : daysBefore y + 365 ≤ daysBefore (y + 1) := by
  rw [daysBefore, daysBefore]
  omega

theorem yearStart_mono {x y : Int} (h : x ≤ y) : yearStart x ≤ yearStart y := by
  have hbefore := daysBefore_mono (Int.sub_le_sub_right h 1)
  rw [yearStart_eq, yearStart_eq]
  omega

/-- A month with a day is one of the twelve, and no day of it is after the 31st. -/
theorem month_and_day_le {year : Int} {month day : Nat} (hday : 1 ≤ day)
    (h : day ≤ daysInMonth year month) : 1 ≤ month ∧ month ≤ 12 ∧ day ≤ 31 := by
  simp only [daysInMonth, List.mem_cons, List.not_mem_nil, or_false] at h
  split at h
  · split at h <;> omega
  · split at h
    · omega
    · split at h <;> omega

/-- A day that exists lies in its year. -/
theorem numberOf_bounds {year : Int} {month day : Nat} (hday : 1 ≤ day)
    (h : day ≤ daysInMonth year month) :
    yearStart year ≤ numberOf year month day ∧ numberOf year month day < yearStart (year + 1) := by
  obtain ⟨hleast, hgreatest, hlast⟩ := month_and_day_le hday h
  have hyear := daysBefore_succ (year - 1)
  rw [Int.sub_add_cancel] at hyear
  rw [yearStart_eq, yearStart_eq, numberOf_eq, Int.add_sub_cancel]
  -- January and February belong to the year that began in the March before
  split <;> omega

/-! ### Dates -/

/-- A number is that of a day in the years that have dates.  It is irreducible, so that case splits
on values that hold a date leave the bounds alone. -/
@[irreducible] def Valid (n : Int) : Prop :=
  yearStart leastYear ≤ n ∧ n < yearStart (greatestYear + 1)

theorem valid_iff {n : Int} :
    Valid n ↔ yearStart leastYear ≤ n ∧ n < yearStart (greatestYear + 1) := by
  rw [Valid]

instance (n : Int) : Decidable (Valid n) := decidable_of_iff _ valid_iff.symm

end Date

/-- A day, by its number from 1 January 1970, in the years that have dates. -/
structure Date where
  dayNumber : Int
  valid : Date.Valid dayNumber
deriving DecidableEq, Repr

namespace Date

/-- 1 January 1970. -/
def epoch : Date := ⟨0, by decide⟩

instance : Inhabited Date := ⟨epoch⟩

/-- The date with a number, if it lies in the years that have dates. -/
def ofNumber? (n : Int) : Option Date := if h : Valid n then some ⟨n, h⟩ else none

theorem ofNumber?_dayNumber (d : Date) : ofNumber? d.dayNumber = some d := dif_pos d.valid

/-- The date of a year, month and day, if that day exists. -/
def ofCivil? (year : Int) (month day : Nat) : Option Date :=
  if h : leastYear ≤ year ∧ year ≤ greatestYear ∧ 1 ≤ day ∧ day ≤ daysInMonth year month then
    have hbounds := numberOf_bounds h.2.2.1 h.2.2.2
    some ⟨numberOf year month day, valid_iff.2 ⟨Int.le_trans (yearStart_mono h.1) hbounds.1,
      Int.lt_of_lt_of_le hbounds.2 (yearStart_mono (Int.add_le_add_right h.2.1 1))⟩⟩
  else none

/-- The year, month and day of a date. -/
def civil (d : Date) : Int × Nat × Nat :=
  let shifted := d.dayNumber + 719468
  let cycle := shifted / 146097
  let dayOfCycle := shifted % 146097
  let yearOfCycle :=
    (dayOfCycle - dayOfCycle / 1460 + dayOfCycle / 36524 - dayOfCycle / 146096) / 365
  let dayOfYear := dayOfCycle - (365 * yearOfCycle + yearOfCycle / 4 - yearOfCycle / 100)
  let marchMonth := (5 * dayOfYear + 2) / 153
  let day := dayOfYear - (153 * marchMonth + 2) / 5 + 1
  let month := if marchMonth < 10 then marchMonth + 3 else marchMonth - 9
  let year := yearOfCycle + cycle * 400 + (if month ≤ 2 then 1 else 0)
  (year, month.toNat, day.toNat)

/-- `n` in decimal, with zeros before it up to the given width. -/
def padded (width n : Nat) : List Char := (Nat.toDigits 10 n).leftpad width '0'

/-- The text of a year: four digits, with a sign when it is before 0 or after 9999. -/
def yearText (year : Int) : List Char :=
  if 0 ≤ year ∧ year ≤ 9999 then padded 4 year.toNat
  else (if year < 0 then '-' else '+') :: padded 4 year.natAbs

/-- The characters of `text`. -/
def chars (d : Date) : List Char :=
  let (year, month, day) := d.civil
  yearText year ++ '-' :: (padded 2 month ++ '-' :: padded 2 day)

/-- The text `2024-02-29`. -/
def text (d : Date) : String := String.ofList d.chars

end Date

end EntitySql
