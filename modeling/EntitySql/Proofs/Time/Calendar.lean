import EntitySql.Time.Date
import Mathlib.Tactic.IntervalCases

/-!
# The calendar

The year, month and day of a date number that date again (`Date.ofCivil?_civil`).

A day of a cycle of 400 years is `t` days into the year `y` of the cycle.  A century of them has
36524 days and four years have 1461; only the last century has one day more, and only the last of
four years, where that is a leap day (`Date.exists_century`, `Date.exists_year`).  The formula by
which a date finds its year gives this `y` (`Date.yearOfCycle_eq`), and the leap day is there only
if the year that begins in the following January is a leap year (`Date.exists_yearOfCycle`).
-/

namespace EntitySql.Date

/-! ### Years of a cycle -/

theorem isLeapYear_iff (year : Int) : isLeapYear year = true ↔
    year % 4 = 0 ∧ (year % 100 ≠ 0 ∨ year % 400 = 0) := by
  rw [isLeapYear, Bool.and_eq_true, Bool.or_eq_true, beq_iff_eq, bne_iff_ne, beq_iff_eq]

/-- A day of a cycle is a day of one of its four centuries, of which the last has the leap day of
the cycle. -/
theorem exists_century {n : Int} (hn : 0 ≤ n) (hlt : n < 146097) :
    ∃ c r : Int, 0 ≤ c ∧ c ≤ 3 ∧ 0 ≤ r ∧ n = 36524 * c + r ∧
      (r < 36524 ∨ c = 3 ∧ r = 36524) := by
  -- the last day of the cycle would begin a fifth century
  by_cases hlast : n = 146096
  · exact ⟨3, 36524, by omega⟩
  · exact ⟨n / 36524, n % 36524, by omega⟩

/-- A day of a century is a day of one of the years of its groups of four, of which the last has the
leap day of the group, but in the last group only where the century has one. -/
theorem exists_year {r : Int} (hr : 0 ≤ r) (hle : r ≤ 36524) :
    ∃ q k t : Int, 0 ≤ q ∧ q ≤ 24 ∧ 0 ≤ k ∧ k ≤ 3 ∧ 0 ≤ t ∧ r = 1461 * q + 365 * k + t ∧
      (t < 365 ∨ k = 3 ∧ t = 365 ∧ (q < 24 ∨ r = 36524)) := by
  -- the leap day of a group would begin a fifth year
  by_cases hlast : r % 1461 = 1460
  · exact ⟨r / 1461, 3, 365, by omega⟩
  · exact ⟨r / 1461, r % 1461 / 365, r % 1461 % 365, by omega⟩

section

variable {c q k t n : Int} (hc : 0 ≤ c) (hc3 : c ≤ 3) (hq : 0 ≤ q) (hq24 : q ≤ 24)
  (hk : 0 ≤ k) (hk3 : k ≤ 3) (ht : 0 ≤ t)
include hc hc3 hq hq24 hk hk3 ht

/-- The year that is found for a day of a cycle. -/
theorem yearOfCycle_eq (hlast : t < 365 ∨ k = 3 ∧ t = 365)
    (hn : n = 36524 * c + (1461 * q + 365 * k + t)) (hcentury : n / 36524 - n / 146096 = c) :
    (n - n / 1460 + n / 36524 - n / 146096) / 365 = 100 * c + 4 * q + k := by
  -- `u` are the leap days before the day, with what is left of the group of four years
  have hsplit : n = 1460 * (25 * c + q) + (24 * c + q + 365 * k + t) := by omega
  generalize hu : 24 * c + q + 365 * k + t = u at hsplit
  have hgroups : n / 1460 = 25 * c + q + u / 1460 := by
    rw [hsplit, Int.mul_add_ediv_left _ _ (by decide)]
  have hdays : 0 ≤ t - u / 1460 ∧ t - u / 1460 < 365 := by
    rcases hlast with hlast | ⟨rfl, rfl⟩
    · have hsmall : u / 1460 ≤ 1 := by omega
      omega
    · omega
  have hyears : n - n / 1460 + n / 36524 - n / 146096 =
      365 * (100 * c + 4 * q + k) + (t - u / 1460) := by omega
  rw [hyears, Int.mul_add_ediv_left _ _ (by decide), Int.ediv_eq_zero_of_lt hdays.1 hdays.2,
    Int.add_zero]

end

/-- The days of the years before a year of a cycle. -/
theorem daysBefore_eq {c q k : Int} (hq : 0 ≤ q) (hq24 : q ≤ 24) (hk : 0 ≤ k) (hk3 : k ≤ 3) :
    (100 * c + 4 * q + k) * 365 + (100 * c + 4 * q + k) / 4 - (100 * c + 4 * q + k) / 100 =
      36524 * c + (1461 * q + 365 * k) := by
  have hfour : (100 * c + 4 * q + k) / 4 = 25 * c + q := by omega
  have hhundred : (100 * c + 4 * q + k) / 100 = c := by omega
  rw [hfour, hhundred]
  omega

/-- A day of a cycle of years is a day of the year that is found for it, and the 366th day only if
the leap day that ends such a year exists. -/
theorem exists_yearOfCycle {n : Int} (hn : 0 ≤ n) (hlt : n < 146097) :
    ∃ y t : Int, 0 ≤ y ∧ y < 400 ∧ 0 ≤ t ∧ (t < 365 ∨ t = 365 ∧ isLeapYear (y + 1) = true) ∧
      n = y * 365 + y / 4 - y / 100 + t ∧
      (n - n / 1460 + n / 36524 - n / 146096) / 365 = y := by
  obtain ⟨c, r, hc, hc3, hr, hcr, hcentury⟩ := exists_century hn hlt
  obtain ⟨q, k, t, hq, hq24, hk, hk3, ht, hqkt, hyear⟩ := exists_year (r := r) hr (by omega)
  have hbefore := daysBefore_eq (c := c) hq hq24 hk hk3
  have hcenturies : n / 36524 - n / 146096 = c := by
    rcases hcentury with hcentury | ⟨rfl, rfl⟩ <;> omega
  have hlast : t < 365 ∨ k = 3 ∧ t = 365 := hyear.imp_right fun h => ⟨h.1, h.2.1⟩
  refine ⟨100 * c + 4 * q + k, t, by omega, by omega, ht, ?_, by omega,
    yearOfCycle_eq hc hc3 hq hq24 hk hk3 ht hlast (by omega) hcenturies⟩
  rcases hyear with hyear | ⟨rfl, rfl, hgroup⟩
  · exact Or.inl hyear
  · have hfour : (100 * c + 4 * q + 3 + 1) % 4 = 0 := by omega
    have hcycle : (100 * c + 4 * q + 3 + 1) % 100 ≠ 0 ∨ (100 * c + 4 * q + 3 + 1) % 400 = 0 := by
      rcases hgroup with hgroup | rfl
      · omega
      · -- the last group of a century has its leap day in the last century only
        obtain rfl : c = 3 := by omega
        omega
    exact Or.inr ⟨rfl, (isLeapYear_iff _).2 ⟨hfour, hcycle⟩⟩

/-- Leap years repeat with the cycle. -/
theorem isLeapYear_add_cycles (year cycle : Int) :
    isLeapYear (year + cycle * 400) = isLeapYear year := by
  have hfour : (year + cycle * 400) % 4 = year % 4 := by omega
  have hhundred : (year + cycle * 400) % 100 = year % 100 := by omega
  have hcycle : (year + cycle * 400) % 400 = year % 400 := by omega
  rw [isLeapYear, isLeapYear, hfour, hhundred, hcycle]

/-! ### Days of years that begin in March -/

/-- A day by its cycle, the year of the cycle and the day of that year, which begins on 1 March. -/
structure MarchDay where
  cycle : Int
  year : Int
  day : Int
  year_nonneg : 0 ≤ year
  year_lt : year < 400
  day_nonneg : 0 ≤ day
  day_lt : day < 365 ∨ day = 365 ∧ isLeapYear (year + 1) = true

namespace MarchDay

variable (p : MarchDay)

/-- The month, counted from March. -/
def month : Int := (5 * p.day + 2) / 153

/-- The number of the day from 1 January 1970. -/
def number : Int :=
  p.cycle * 146097 + (p.year * 365 + p.year / 4 - p.year / 100 + p.day) - 719468

/-- The year of the calendar, which is the next one from January on. -/
def civilYear : Int := (if p.month < 10 then p.year else p.year + 1) + p.cycle * 400

/-- The month of the calendar. -/
def civilMonth : Nat := (if p.month < 10 then p.month + 3 else p.month - 9).toNat

/-- The day of the month. -/
def civilDay : Nat := (p.day - (153 * p.month + 2) / 5 + 1).toNat

theorem month_bounds : 0 ≤ p.month ∧ p.month ≤ 11 := by
  have hday := p.day_nonneg
  have hlast := p.day_lt
  rw [month]
  omega

/-- A new year begins with the first month. -/
theorem civilYear_eq : p.civilYear = p.year + p.cycle * 400 +
    (if (if p.month < 10 then p.month + 3 else p.month - 9) ≤ 2 then 1 else 0) := by
  obtain ⟨hleast, hgreatest⟩ := p.month_bounds
  rw [civilYear]
  by_cases hmarch : p.month < 10
  · rw [if_pos hmarch, if_pos hmarch, if_neg (by omega), Int.add_zero]
  · rw [if_neg hmarch, if_neg hmarch, if_pos (by omega)]
    omega

theorem one_le_civilDay : 1 ≤ p.civilDay := by
  have hday := p.day_nonneg
  rw [civilDay, month]
  omega

/-- The day of the month exists. -/
theorem civilDay_le : p.civilDay ≤ daysInMonth p.civilYear p.civilMonth := by
  have hday := p.day_nonneg
  have hlast := p.day_lt
  obtain ⟨hleast, hgreatest⟩ := p.month_bounds
  have hmonth : p.month = (5 * p.day + 2) / 153 := rfl
  rw [civilDay, civilYear, civilMonth]
  generalize p.month = m at *
  interval_cases m
  case «11» =>
    -- February, at the end of the year
    rcases hlast with hlast | ⟨hlast, hleap⟩
    · have hfebruary : 28 ≤ daysInMonth (p.year + 1 + p.cycle * 400) 2 := by
        rw [daysInMonth, if_pos rfl]
        split <;> omega
      exact le_trans (by omega) hfebruary
    · rw [← isLeapYear_add_cycles _ p.cycle] at hleap
      simp [daysInMonth, hleap, hlast]
  all_goals
    simp [daysInMonth]
    omega

/-- The number of the day of the calendar is the number of the day. -/
theorem numberOf_civil : numberOf p.civilYear p.civilMonth p.civilDay = p.number := by
  have hyear := p.year_nonneg
  have hlt := p.year_lt
  have hday := p.day_nonneg
  obtain ⟨hleast, hgreatest⟩ := p.month_bounds
  -- January and February belong to the year that began in the March before
  have hmarch : (if p.civilMonth ≤ 2 then p.civilYear - 1 else p.civilYear) =
      p.year + p.cycle * 400 := by
    rw [civilMonth, civilYear]
    split <;> split <;> omega
  have hmonth : ((p.civilMonth : Int) + 9) % 12 = p.month := by
    rw [civilMonth]
    split <;> omega
  have hdayOfYear : (153 * p.month + 2) / 5 + (p.civilDay : Int) - 1 = p.day := by
    have hone := p.one_le_civilDay
    rw [civilDay] at hone ⊢
    omega
  have hcycle : (p.year + p.cycle * 400) / 400 = p.cycle := by omega
  have hyearOfCycle : (p.year + p.cycle * 400) % 400 = p.year := by omega
  simp only [numberOf, hmarch, hmonth, hdayOfYear, hcycle, hyearOfCycle]
  rfl

end MarchDay

/-! ### Dates -/

/-- A date is a day of a year that begins in March, and its year, month and day are those of that
day. -/
theorem exists_marchDay (d : Date) : ∃ p : MarchDay,
    p.number = d.dayNumber ∧ d.civil = (p.civilYear, p.civilMonth, p.civilDay) := by
  obtain ⟨y, t, hy, hlt, ht, hlast, hn, hfound⟩ :=
    exists_yearOfCycle (n := (d.dayNumber + 719468) % 146097) (by omega) (by omega)
  obtain ⟨p, hcycle, hyear, htime⟩ : ∃ p : MarchDay,
      p.cycle = (d.dayNumber + 719468) / 146097 ∧ p.year = y ∧ p.day = t :=
    ⟨⟨_, y, t, hy, hlt, ht, hlast⟩, rfl, rfl, rfl⟩
  refine ⟨p, ?_, ?_⟩
  · rw [MarchDay.number, hcycle, hyear, htime]
    omega
  · have hday : (d.dayNumber + 719468) % 146097 - (365 * y + y / 4 - y / 100) = t := by omega
    rw [p.civilYear_eq]
    simp only [civil, hfound, hday, MarchDay.civilMonth, MarchDay.civilDay, MarchDay.month, hcycle,
      hyear, htime]

/-- A year with a date in it is one of the years that have dates. -/
theorem year_bounds {d : Date} {year : Int} (hstart : yearStart year ≤ d.dayNumber)
    (hend : d.dayNumber < yearStart (year + 1)) : leastYear ≤ year ∧ year ≤ greatestYear := by
  obtain ⟨hfirst, hlast⟩ := valid_iff.1 d.valid
  constructor
  · by_contra hbefore
    have hmono : yearStart (year + 1) ≤ yearStart leastYear := yearStart_mono (by omega)
    exact absurd hfirst (not_le.2 (hend.trans_le hmono))
  · by_contra hafter
    have hmono : yearStart (greatestYear + 1) ≤ yearStart year := yearStart_mono (by omega)
    exact absurd hlast (not_lt.2 (hmono.trans hstart))

/-- The year, month and day of a date number that date. -/
theorem ofCivil?_civil (d : Date) : ofCivil? d.civil.1 d.civil.2.1 d.civil.2.2 = some d := by
  obtain ⟨p, hnumber, hcivil⟩ := exists_marchDay d
  have hnumberOf := p.numberOf_civil.trans hnumber
  -- the day lies in the year that was found for it, so this year has dates
  obtain ⟨hstart, hend⟩ := numberOf_bounds p.one_le_civilDay p.civilDay_le
  rw [hnumberOf] at hstart hend
  obtain ⟨hleast, hgreatest⟩ := year_bounds hstart hend
  rw [hcivil, ofCivil?, dif_pos ⟨hleast, hgreatest, p.one_le_civilDay, p.civilDay_le⟩]
  exact congrArg some (Date.mk.injEq .. ▸ hnumberOf)

/-- Months and days of the month have two digits. -/
theorem civil_lt (d : Date) : d.civil.2.1 < 100 ∧ d.civil.2.2 < 100 := by
  obtain ⟨p, -, hcivil⟩ := exists_marchDay d
  have hday : daysInMonth p.civilYear p.civilMonth ≤ 31 := by
    rw [daysInMonth]
    split_ifs <;> omega
  have hmonth : p.civilMonth < 100 := by
    obtain ⟨hleast, hgreatest⟩ := p.month_bounds
    rw [MarchDay.civilMonth]
    split <;> omega
  rw [hcivil]
  exact ⟨hmonth, (p.civilDay_le.trans hday).trans_lt (by decide)⟩

end EntitySql.Date
