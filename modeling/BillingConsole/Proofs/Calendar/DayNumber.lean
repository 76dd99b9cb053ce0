import BillingConsole.Proofs.Calendar.Order
import Mathlib.Tactic.IntervalCases

/-!
# Days counted

A day number is put together from the eras of 400 years before a day, the days of its era before its
year and the days of its year before it, where years begin in March.  It is taken apart by divisions
again, although years differ in length by a leap day, and months by up to three days.

## What is here

* `IsDayOfYear`, `dayOfEra`, `yearOfEra` — the days of an era; `IsDayOfYear.yearOfEra_dayOfEra` —
  the year of a day is found again.
* `daysBefore`, `daysInMonth_eq` — months that follow each other in a year that ends in February.
* `CivilDay.InMonth.isDayOfYear`, `CivilDay.InMonth.monthOf_dayOfYear` — a day in its year; its
  month is found again.
* `Date.ofDayNumber?_dayNumber` — **a date is found again by its number.**
* `Date.dayNumber_monthStart` — after the last day of a month comes the first of the next.
-/

set_option autoImplicit false

namespace BillingConsole

/-! ## The years of an era -/

/-- The number of a day in its era, by the year of the era and the day of the year. -/
def dayOfEra (year day : ℤ) : ℤ := year * 365 + year / 4 - year / 100 + day

/-- The year of an era that a day belongs to. -/
def yearOfEra (day : ℤ) : ℤ := (day - day / 1460 + day / 36524 - day / 146096) / 365

/-- A day of a year of an era.  Years end in February, so the day with the number 365 is a leap
day. -/
structure IsDayOfYear (year day : ℤ) : Prop where
  year_nonneg : 0 ≤ year
  year_lt : year < 400
  day_nonneg : 0 ≤ day
  day_le : day ≤ 365
  leap : day = 365 → year % 4 = 3 ∧ (year % 100 ≠ 99 ∨ year = 399)

namespace IsDayOfYear

variable {year day : ℤ}

theorem dayOfEra_bounds (h : IsDayOfYear year day) :
    0 ≤ dayOfEra year day ∧ dayOfEra year day < 146097 := by
  obtain ⟨hyear, hyear', hday, hday', hleap⟩ := h
  rw [dayOfEra]
  omega

/-- A century has 36524 days, and the last one of an era has a leap day more. -/
theorem century (h : IsDayOfYear year day) :
    dayOfEra year day / 36524 - dayOfEra year day / 146096 = year / 100 := by
  have hbounds := h.dayOfEra_bounds
  obtain ⟨hyear, hyear', hday, hday', hleap⟩ := h
  have hdays : dayOfEra year day =
      36524 * (year / 100) + (365 * (year % 100) + year % 100 / 4 + day) := by
    rw [dayOfEra]
    omega
  rcases lt_or_ge (dayOfEra year day) 146096 with hlt | hge
  · have hcentury : dayOfEra year day / 36524 = year / 100 := by omega
    omega
  · omega

/-- **The year of a day is found again.**  With a leap day taken out for every 1460 days all years
have 365 days; a leap day that is taken out too early leaves the day in its year, for it is late in
that year. -/
theorem yearOfEra_dayOfEra (h : IsDayOfYear year day) : yearOfEra (dayOfEra year day) = year := by
  rw [yearOfEra, add_sub_assoc, h.century]
  obtain ⟨hyear, hyear', hday, hday', hleap⟩ := h
  have hdays : dayOfEra year day =
      1460 * (year / 4) + (365 * (year % 4) + year / 4 - year / 100 + day) := by
    rw [dayOfEra]
    omega
  have hfour : dayOfEra year day / 1460 =
      year / 4 + if 365 * (year % 4) + year / 4 - year / 100 + day < 1460 then 0 else 1 := by
    rw [hdays]
    split <;> omega
  split at hfour <;> omega

end IsDayOfYear

/-! ## The months of a year -/

theorem isLeapYear_iff (year : ℤ) :
    isLeapYear year = true ↔ year % 4 = 0 ∧ (year % 100 ≠ 0 ∨ year % 400 = 0) := by
  simp [isLeapYear]

theorem daysInMonth_two (year : ℤ) :
    daysInMonth year 2 = if isLeapYear year then 29 else 28 := rfl

/-- The days before a month, counted from March as the month is. -/
def daysBefore (month : ℤ) : ℤ := (153 * month + 2) / 5

/-- But for February every month lasts until the next. -/
theorem daysInMonth_eq (year : ℤ) {month : ℕ} (h : 1 ≤ month ∧ month ≤ 12) (hne : month ≠ 2) :
    (daysInMonth year month : ℤ) =
      daysBefore ((month + 9 : ℕ) % 12 + 1) - daysBefore ((month + 9 : ℕ) % 12) := by
  obtain ⟨hlow, hhigh⟩ := h
  interval_cases month <;> simp [daysInMonth, daysBefore] at *

namespace CivilDay

/-- The month has the day. -/
def InMonth (d : CivilDay) : Prop := 1 ≤ d.day ∧ d.day ≤ daysInMonth d.year d.month

/-- The year that began in the last March. -/
def marchYear (d : CivilDay) : ℤ := if d.month ≤ 2 then d.year - 1 else d.year

/-- The months since March. -/
def marchMonth (d : CivilDay) : ℤ := (d.month + 9 : ℕ) % 12

/-- The days since the first of March. -/
def dayOfYear (d : CivilDay) : ℤ := daysBefore d.marchMonth + d.day - 1

theorem dayNumber_eq (d : CivilDay) : d.dayNumber =
    d.marchYear / 400 * 146097 + dayOfEra (d.marchYear % 400) d.dayOfYear - 719468 := rfl

namespace InMonth

variable {d : CivilDay}

theorem month_bounds (h : d.InMonth) : 1 ≤ d.month ∧ d.month ≤ 12 :=
  month_of_daysInMonth (h.1.trans h.2)

/-- A day comes before the next month, and one of February before the next year. -/
theorem dayOfYear_lt (h : d.InMonth) :
    d.dayOfYear < daysBefore (d.marchMonth + 1) ∧
      (d.month = 2 → d.dayOfYear ≤ if isLeapYear d.year then 365 else 364) := by
  have hmonth := h.month_bounds
  obtain ⟨hday, hlast⟩ := h
  by_cases htwo : d.month = 2
  · have hbefore : daysBefore 11 = 337 ∧ daysBefore (11 + 1) = 367 := by decide
    have heleven : d.marchMonth = 11 := by
      rw [marchMonth]
      omega
    rw [htwo, daysInMonth_two] at hlast
    rw [dayOfYear, heleven]
    split at hlast
    · rw [if_pos (by assumption)]
      omega
    · rw [if_neg (by assumption)]
      omega
  · have hlength := daysInMonth_eq d.year hmonth htwo
    rw [dayOfYear, marchMonth]
    omega

/-- A day in its year. -/
theorem isDayOfYear (h : d.InMonth) : IsDayOfYear (d.marchYear % 400) d.dayOfYear := by
  have hmonth := h.month_bounds
  obtain ⟨hlt, htwo⟩ := h.dayOfYear_lt
  have hmarch : 0 ≤ d.marchMonth ∧ d.marchMonth ≤ 11 := by
    rw [marchMonth]
    omega
  have hfirst : 0 ≤ d.dayOfYear := by
    have hday := h.1
    rw [dayOfYear, daysBefore]
    omega
  -- only February reaches beyond the three hundred and thirty-seventh day
  have hearly : d.month ≠ 2 → d.dayOfYear < 337 := by
    intro hne
    have hten : d.marchMonth ≤ 10 := by
      rw [marchMonth]
      omega
    rw [daysBefore] at hlt
    omega
  refine ⟨by omega, by omega, hfirst, ?_, ?_⟩
  · by_cases hfebruary : d.month = 2
    · have hle := htwo hfebruary
      split at hle <;> omega
    · have hsmall := hearly hfebruary
      omega
  · intro hlast
    have hfebruary : d.month = 2 := by
      by_contra hne
      have hsmall := hearly hne
      omega
    have hle := htwo hfebruary
    rw [marchYear, if_pos (by omega)]
    split at hle
    · have hleap := (isLeapYear_iff d.year).1 (by assumption)
      omega
    · omega

/-- The month of a day is found again. -/
theorem monthOf_dayOfYear (h : d.InMonth) : (5 * d.dayOfYear + 2) / 153 = d.marchMonth := by
  have hlt := h.dayOfYear_lt.1
  have hday := h.1
  rw [dayOfYear, daysBefore] at *
  rw [daysBefore] at hlt
  omega

end InMonth

/-! ## Days found again -/

/-- The day of a year, month and day, counted from March. -/
def ofMarch (year month day : ℤ) : CivilDay :=
  let civilMonth := if month < 10 then month + 3 else month - 9
  ⟨if civilMonth ≤ 2 then year + 1 else year, civilMonth.toNat, day.toNat⟩

theorem ofMarch_parts {d : CivilDay} (h : 1 ≤ d.month ∧ d.month ≤ 12) :
    ofMarch d.marchYear d.marchMonth d.day = d := by
  obtain ⟨year, month, day⟩ := d
  obtain ⟨hlow, hhigh⟩ := h
  dsimp only at hlow hhigh
  interval_cases month <;> simp [ofMarch, marchYear, marchMonth]

theorem ofDayNumber_eq (number : ℤ) :
    ofDayNumber number =
      let day := (number + 719468) % 146097
      let year := yearOfEra day
      let dayOfYear := day - (365 * year + year / 4 - year / 100)
      let month := (5 * dayOfYear + 2) / 153
      ofMarch (year + (number + 719468) / 146097 * 400) month
        (dayOfYear - daysBefore month + 1) := rfl

/-- **A day is found again by its number.** -/
theorem ofDayNumber_dayNumber {d : CivilDay} (h : d.InMonth) : ofDayNumber d.dayNumber = d := by
  have hbounds := h.isDayOfYear.dayOfEra_bounds
  have hera : (d.dayNumber + 719468) / 146097 = d.marchYear / 400 := by
    rw [dayNumber_eq]
    omega
  have hday : (d.dayNumber + 719468) % 146097 = dayOfEra (d.marchYear % 400) d.dayOfYear := by
    rw [dayNumber_eq]
    omega
  have hrest : dayOfEra (d.marchYear % 400) d.dayOfYear -
      (365 * (d.marchYear % 400) + d.marchYear % 400 / 4 - d.marchYear % 400 / 100) =
        d.dayOfYear := by
    rw [dayOfEra]
    omega
  have hyear : d.marchYear % 400 + d.marchYear / 400 * 400 = d.marchYear := by omega
  have hdays : d.dayOfYear - daysBefore d.marchMonth + 1 = d.day := by
    rw [dayOfYear]
    omega
  rw [ofDayNumber_eq, hera, hday]
  simp only [h.isDayOfYear.yearOfEra_dayOfEra, hrest, h.monthOf_dayOfYear, hyear, hdays]
  exact ofMarch_parts h.month_bounds

end CivilDay

namespace Date

variable {d e : Date}

theorem inMonth_toCivilDay (d : Date) : d.toCivilDay.InMonth := ⟨d.one_le_day, d.day_le⟩

/-- **A date is found again by its number.** -/
theorem ofDayNumber?_dayNumber (d : Date) : ofDayNumber? d.dayNumber = some d := by
  rw [ofDayNumber?, dayNumber, CivilDay.ofDayNumber_dayNumber d.inMonth_toCivilDay]
  exact ofYmd?_eq_some_iff.2 ⟨rfl, rfl, rfl⟩

/-- The days before a year, years being counted through all eras. -/
theorem dayNumber_eq (d : Date) : d.dayNumber =
    365 * d.toCivilDay.marchYear + d.toCivilDay.marchYear / 4 - d.toCivilDay.marchYear / 100 +
      d.toCivilDay.marchYear / 400 + d.toCivilDay.dayOfYear - 719468 := by
  rw [dayNumber, CivilDay.dayNumber_eq, dayOfEra]
  omega

/-- The year that began in the last March, and the months since then: in March a year ends, and the
other months lie in the same year as the month before. -/
theorem march_of_monthNumber (h : e.monthNumber = d.monthNumber + 1) :
    if d.month = 2 then
      e.toCivilDay.marchYear = d.year ∧ d.toCivilDay.marchYear = d.year - 1 ∧
        e.toCivilDay.marchMonth = 0 ∧ d.toCivilDay.marchMonth = 11
    else
      e.toCivilDay.marchYear = d.toCivilDay.marchYear ∧
        e.toCivilDay.marchMonth = d.toCivilDay.marchMonth + 1 := by
  have hd := d.month_bounds
  have he := e.month_bounds
  simp only [monthNumber] at h
  simp only [CivilDay.marchYear, CivilDay.marchMonth, toCivilDay]
  split_ifs <;> omega

/-- The first of a month is the day after the last one of the month before. -/
theorem dayNumber_monthStart (h : e.monthNumber = d.monthNumber + 1) :
    e.monthStart.dayNumber = d.monthEnd.dayNumber + 1 := by
  have hstart : e.monthStart.toCivilDay.dayOfYear = daysBefore e.toCivilDay.marchMonth := by
    show daysBefore e.toCivilDay.marchMonth + (1 : ℕ) - 1 = _
    omega
  have hend : d.monthEnd.toCivilDay.dayOfYear =
      daysBefore d.toCivilDay.marchMonth + daysInMonth d.year d.month - 1 := rfl
  have hyears : e.monthStart.toCivilDay.marchYear = e.toCivilDay.marchYear ∧
      d.monthEnd.toCivilDay.marchYear = d.toCivilDay.marchYear := ⟨rfl, rfl⟩
  have hmarch := march_of_monthNumber h
  rw [dayNumber_eq, dayNumber_eq, hstart, hend, hyears.1, hyears.2]
  by_cases htwo : d.month = 2
  · rw [if_pos htwo] at hmarch
    obtain ⟨heyear, hdyear, hemonth, hdmonth⟩ := hmarch
    have hbefore : daysBefore 0 = 0 ∧ daysBefore 11 = 337 := by decide
    rw [heyear, hdyear, hemonth, hdmonth, htwo, daysInMonth_two]
    by_cases hleap : isLeapYear d.year = true
    · have hdivides := (isLeapYear_iff d.year).1 hleap
      rw [if_pos hleap]
      omega
    · have hdivides := mt (isLeapYear_iff d.year).2 hleap
      rw [if_neg hleap]
      omega
  · rw [if_neg htwo] at hmarch
    have hlength : (daysInMonth d.year d.month : ℤ) = daysBefore (d.toCivilDay.marchMonth + 1) -
        daysBefore d.toCivilDay.marchMonth := daysInMonth_eq d.year d.month_bounds htwo
    rw [hmarch.1, hmarch.2, hlength]
    omega

/-- The day before the first of a month is the last of the month before. -/
theorem subDays?_monthStart (h : e.monthNumber = d.monthNumber + 1) :
    e.monthStart.subDays? 1 = some d.monthEnd := by
  have hnumber : e.monthStart.dayNumber - (1 : ℕ) = d.monthEnd.dayNumber := by
    have hnext := dayNumber_monthStart h
    omega
  rw [subDays?, hnumber, ofDayNumber?_dayNumber]

end Date

end BillingConsole
