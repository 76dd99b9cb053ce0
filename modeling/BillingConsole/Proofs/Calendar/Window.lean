import BillingConsole.Load.SpendPanel
import BillingConsole.Proofs.Calendar.Months
import Mathlib.Data.Int.ConditionallyCompleteOrder
import Mathlib.Data.Int.Interval
import Mathlib.Data.Set.Card

/-!
# The days of a window

Day numbers count the dates of the calendar one by one, so the number of dates between two dates is
found by subtraction, whatever months, leap days and years lie between.  The report opens on the
last thirty days and today, if the calendar has them.

## What is here

* `yearOfEra_bounds`, `CivilDay.dayNumber_ofDayNumber` — **a number is found again by its day.**
* `Date.subDays?_eq_some_iff` — the date some days earlier.
* `Date.dayNumber_strictMono`, `Date.exists_dayNumber_between` — day numbers follow the order of
  dates, without a gap; `Date.encard_Icc` — how many dates lie between two.
* `defaultWindow_covers` — **the report opens on thirty-one days**, but in the first thirty days of
  the calendar it does not open.
-/

set_option autoImplicit false

namespace BillingConsole

/-! ## Numbers found again -/

/-- The year of an era is one of its years, and the day lies in it. -/
theorem yearOfEra_bounds {day : ℤ} (h : 0 ≤ day ∧ day < 146097) :
    (0 ≤ yearOfEra day ∧ yearOfEra day < 400) ∧
      dayOfEra (yearOfEra day) 0 ≤ day ∧ day ≤ dayOfEra (yearOfEra day) 365 := by
  -- the centuries before the day; the last one of an era has a leap day more
  obtain ⟨c, hc⟩ : ∃ c, day / 36524 - day / 146096 = c := ⟨_, rfl⟩
  have hyear : yearOfEra day = (day - day / 1460 + c) / 365 := by
    rw [yearOfEra, add_sub_assoc, hc]
  have hdays : 36524 * c ≤ day ∧ day ≤ 36524 * c + 36524 := by omega
  have hrange : 0 ≤ c ∧ c ≤ 3 := by omega
  have hlast : day = 36524 * c + 36524 → c = 3 := by omega
  clear hc
  obtain ⟨r, rfl⟩ : ∃ r, day = 36524 * c + r := ⟨day - 36524 * c, by omega⟩
  have hcentury : yearOfEra (36524 * c + r) = 100 * c + (r - (24 * c + r) / 1460) / 365 := by omega
  have hcount : (100 * c + (r - (24 * c + r) / 1460) / 365) / 100 = c := by omega
  rw [dayOfEra, dayOfEra, hcentury, hcount]
  refine ⟨by omega, ?_, ?_⟩
  · omega
  · omega

namespace CivilDay

/-- The parts of a day that is put together from them. -/
theorem march_ofMarch {month day : ℤ} (year : ℤ) (hmonth : 0 ≤ month ∧ month < 12)
    (hday : 0 ≤ day) :
    (ofMarch year month day).marchYear = year ∧ (ofMarch year month day).marchMonth = month ∧
      ((ofMarch year month day).day : ℤ) = day := by
  obtain ⟨hlow, hhigh⟩ := hmonth
  refine ⟨?_, ?_, Int.toNat_of_nonneg hday⟩
  · interval_cases month <;> simp [ofMarch, marchYear]
  · interval_cases month <;> simp [ofMarch, marchMonth]

/-- **A number is found again by its day.** -/
theorem dayNumber_ofDayNumber (number : ℤ) : (ofDayNumber number).dayNumber = number := by
  obtain ⟨day, hday⟩ : ∃ day, (number + 719468) % 146097 = day := ⟨_, rfl⟩
  have hrange : 0 ≤ day ∧ day < 146097 := by omega
  obtain ⟨⟨hyear, hyear'⟩, hfirst, hlast⟩ := yearOfEra_bounds hrange
  obtain ⟨dayOfYear, hrest⟩ : ∃ dayOfYear, day - (365 * yearOfEra day + yearOfEra day / 4 -
    yearOfEra day / 100) = dayOfYear := ⟨_, rfl⟩
  rw [dayOfEra] at hfirst hlast
  have hmonth : 0 ≤ (5 * dayOfYear + 2) / 153 ∧ (5 * dayOfYear + 2) / 153 < 12 := by omega
  have hbefore : daysBefore ((5 * dayOfYear + 2) / 153) ≤ dayOfYear := by
    rw [daysBefore]
    omega
  rw [ofDayNumber_eq, hday]
  simp only [hrest]
  obtain ⟨hmarchYear, hmarchMonth, hmarchDay⟩ := march_ofMarch
    (yearOfEra day + (number + 719468) / 146097 * 400) hmonth
    (show 0 ≤ dayOfYear - daysBefore ((5 * dayOfYear + 2) / 153) + 1 by omega)
  have hera : (yearOfEra day + (number + 719468) / 146097 * 400) / 400 =
      (number + 719468) / 146097 := by omega
  have hyears : (yearOfEra day + (number + 719468) / 146097 * 400) % 400 = yearOfEra day := by omega
  rw [dayNumber_eq, CivilDay.dayOfYear, hmarchYear, hmarchMonth, hmarchDay, hera, hyears, dayOfEra]
  omega

end CivilDay

namespace Date

variable {d e : Date}

/-- The date with a number is the one that is numbered so. -/
theorem ofDayNumber?_eq_some_iff {number : ℤ} :
    ofDayNumber? number = some d ↔ d.dayNumber = number := by
  constructor
  · intro h
    obtain ⟨hyear, hmonth, hday⟩ := ofYmd?_eq_some_iff.1 h
    have hsame : d.toCivilDay = CivilDay.ofDayNumber number := by
      rw [toCivilDay, hyear, hmonth, hday]
    rw [dayNumber, hsame, CivilDay.dayNumber_ofDayNumber]
  · rintro rfl
    exact ofDayNumber?_dayNumber d

theorem subDays?_eq_some_iff {days : ℕ} :
    d.subDays? days = some e ↔ e.dayNumber = d.dayNumber - days :=
  ofDayNumber?_eq_some_iff

/-! ## Dates counted -/

/-- In a month the numbers differ as the days do. -/
theorem dayNumber_sub_of_monthNumber (h : d.monthNumber = e.monthNumber) :
    e.dayNumber - d.dayNumber = (e.day : ℤ) - d.day := by
  obtain ⟨hyear, hmonth⟩ := monthNumber_eq_iff.1 h
  have hmarch : e.toCivilDay.marchYear = d.toCivilDay.marchYear ∧
      e.toCivilDay.marchMonth = d.toCivilDay.marchMonth := by
    simp only [CivilDay.marchYear, CivilDay.marchMonth, toCivilDay]
    split_ifs <;> omega
  rw [dayNumber_eq, dayNumber_eq, CivilDay.dayOfYear, CivilDay.dayOfYear, hmarch.1, hmarch.2]
  simp only [toCivilDay]
  omega

/-- The numbers of a month come before those of the next. -/
theorem dayNumber_lt_of_next (h : e.monthNumber = d.monthNumber + 1) :
    d.dayNumber < e.dayNumber := by
  have hnext := dayNumber_monthStart h
  have hlast := dayNumber_sub_of_monthNumber (monthNumber_monthEnd d).symm
  have hfirst := dayNumber_sub_of_monthNumber (monthNumber_monthStart e)
  have hday : (d.day : ℤ) ≤ d.monthEnd.day := Int.ofNat_le.2 d.day_le
  have hone : (e.monthStart.day : ℤ) ≤ e.day := Int.ofNat_le.2 e.one_le_day
  omega

/-- The numbers of a month come before those of any later one. -/
theorem dayNumber_lt_of_later (months : ℕ) (h : e.monthNumber = d.monthNumber + (months + 1)) :
    d.dayNumber < e.dayNumber := by
  induction months generalizing e with
  | zero => exact dayNumber_lt_of_next (by simpa using h)
  | succ months ih =>
    push_cast at h
    obtain ⟨f, hf⟩ : ∃ f : Date, f.monthNumber = d.monthNumber + (months + 1) :=
      exists_monthNumber_between (d := d) (e := e) (by omega) (by omega)
    exact (ih hf).trans (dayNumber_lt_of_next (by omega))

/-- **Day numbers follow the order of dates.** -/
theorem dayNumber_strictMono : StrictMono dayNumber := by
  intro d e h
  rcases lt_iff_monthNumber.1 h with hmonth | ⟨hmonth, hday⟩
  · exact dayNumber_lt_of_later (e.monthNumber - d.monthNumber - 1).toNat (by omega)
  · have hdays := dayNumber_sub_of_monthNumber hmonth
    omega

/-- A date that another follows has a next one. -/
theorem exists_dayNumber_next (h : d < e) : ∃ f : Date, f.dayNumber = d.dayNumber + 1 := by
  by_cases hlast : d.day < daysInMonth d.year d.month
  · let f : Date := ⟨d.year, d.month, d.day + 1, d.valid.1, d.valid.2.1, by omega, hlast⟩
    have hdays : f.dayNumber - d.dayNumber = ((d.day + 1 : ℕ) : ℤ) - d.day :=
      dayNumber_sub_of_monthNumber (d := d) (e := f) rfl
    exact ⟨f, by omega⟩
  · -- the date is the last of its month, so the other lies in a later one
    have hlater : d.monthNumber + 1 ≤ e.monthNumber := by
      by_contra hle
      have hsame : e.monthNumber = d.monthNumber ∧ d.day < e.day := by
        rcases lt_iff_monthNumber.1 h with hlt | hsame <;> omega
      have hparts := monthNumber_eq_iff.1 hsame.1
      have hday := e.day_le
      rw [hparts.1, hparts.2] at hday
      omega
    obtain ⟨f, hf⟩ := exists_monthNumber_between (d := d) (by omega) hlater
    have hdays := dayNumber_sub_of_monthNumber (monthNumber_monthEnd d).symm
    have hend : (d.monthEnd.day : ℤ) = d.day := by
      have hday := d.day_le
      show (daysInMonth d.year d.month : ℤ) = d.day
      omega
    exact ⟨f.monthStart, by rw [dayNumber_monthStart hf]; omega⟩

/-- Between the numbers of two dates every number is that of a date. -/
theorem exists_dayNumber_between {number : ℤ} (hd : d.dayNumber ≤ number)
    (he : number ≤ e.dayNumber) : ∃ f : Date, f.dayNumber = number := by
  induction number, hd using Int.leInduction with
  | base => exact ⟨d, rfl⟩
  | succ number _ ih =>
    obtain ⟨f, rfl⟩ := ih (by omega)
    have hlt : f.dayNumber < e.dayNumber := by omega
    exact exists_dayNumber_next (dayNumber_strictMono.lt_iff_lt.1 hlt)

/-- The numbers of the dates between two. -/
theorem image_dayNumber_Icc (d e : Date) :
    dayNumber '' Set.Icc d e = Set.Icc d.dayNumber e.dayNumber := by
  ext number
  constructor
  · rintro ⟨f, ⟨hd, he⟩, rfl⟩
    exact ⟨dayNumber_strictMono.monotone hd, dayNumber_strictMono.monotone he⟩
  · rintro ⟨hd, he⟩
    obtain ⟨f, rfl⟩ := exists_dayNumber_between hd he
    exact ⟨f, ⟨dayNumber_strictMono.le_iff_le.1 hd, dayNumber_strictMono.le_iff_le.1 he⟩, rfl⟩

/-- **How many dates lie between two**, both counted. -/
theorem encard_Icc (d e : Date) :
    (Set.Icc d e).encard = (e.dayNumber + 1 - d.dayNumber).toNat := by
  rw [← dayNumber_strictMono.injective.encard_image, image_dayNumber_Icc, ← Finset.coe_Icc,
    Set.encard_coe_eq_coe_finsetCard, Int.card_Icc]

/-- No date comes before the first. -/
theorem firstDate_le (d : Date) : firstDate ≤ d := by
  have hday := d.one_le_day
  have hmonth := d.month_bounds.1
  have hyear := d.valid.1
  rw [← not_lt, lt_iff]
  simp only [firstDate]
  omega

/-- How many dates there are through a date. -/
theorem encard_Iic (d : Date) :
    (Set.Iic d).encard = (d.dayNumber + 1 - firstDate.dayNumber).toNat := by
  have hall : Set.Iic d = Set.Icc firstDate d := by
    ext e
    simp [firstDate_le]
  rw [hall, encard_Icc]

end Date

/-! ## The window -/

/-- The default window starts thirty days earlier. -/
theorem defaultWindow_eq_some_iff {today : Date} {window : Date × Date} :
    defaultWindow today = some window ↔
      window.1.dayNumber = today.dayNumber - 30 ∧ window.2 = today := by
  rw [defaultWindow, Option.map_eq_some_iff]
  simp only [Date.subDays?_eq_some_iff, defaultWindowDays]
  constructor
  · rintro ⟨first, hfirst, rfl⟩
    exact ⟨hfirst, rfl⟩
  · rintro ⟨hfirst, rfl⟩
    exact ⟨window.1, hfirst, rfl⟩

/-- There is a date thirty days earlier exactly behind the first thirty dates of the calendar. -/
theorem exists_dayNumber_iff {today : Date} :
    (∃ first : Date, first.dayNumber = today.dayNumber - 30) ↔ 30 < (Set.Iic today).encard := by
  have hcount : 30 < (Set.Iic today).encard ↔
      firstDate.dayNumber ≤ today.dayNumber - 30 := by
    rw [Date.encard_Iic, Nat.ofNat_lt_cast]
    omega
  rw [hcount]
  constructor
  · rintro ⟨first, hfirst⟩
    rw [← hfirst]
    exact Date.dayNumber_strictMono.monotone (Date.firstDate_le first)
  · intro hfirst
    exact Date.exists_dayNumber_between (e := today) hfirst (by omega)

/-- The button for the last thirty days asks for the default window. -/
theorem answer_lastThirtyDays {today : Date} {range : DateRange} {clock : Clock}
    (h : clock.today? = some today) :
    DateRangeEvent.lastThirtyDays.answer range clock =
      match defaultWindow today with
      | some (first, last) => .range (some first, some last)
      | none => .outOfCalendar := by
  show (match clock.today?.bind defaultWindow with
    | some (first, last) => RangeAnswer.range (some first, some last)
    | none => .outOfCalendar) = _
  rw [h, Option.bind_some]

/-- **The report opens on thirty-one days.**  Through any of the first thirty dates of the calendar
there is no window, and the report does not open; otherwise the window ends today and has thirty-one
dates.  The button for the last thirty days asks for the same window. -/
theorem defaultWindow_covers (today : Date) :
    ((Set.Iic today).encard ≤ 30 →
      defaultWindow today = none ∧ SpendPanel.start? today = none ∧
        ∀ (range : DateRange) (clock : Clock), clock.today? = some today →
          DateRangeEvent.lastThirtyDays.answer range clock = .outOfCalendar) ∧
    (30 < (Set.Iic today).encard →
      ∃ first, (Set.Icc first today).encard = 31 ∧ defaultWindow today = some (first, today) ∧
        SpendPanel.start? today = some (.ofRange first today) ∧
        ∀ (range : DateRange) (clock : Clock), clock.today? = some today →
          DateRangeEvent.lastThirtyDays.answer range clock = .range (some first, some today)) := by
  constructor
  · intro hfew
    have hnone : defaultWindow today = none := by
      refine Option.eq_none_iff_forall_ne_some.2 fun window hwindow => ?_
      have hfirst := (defaultWindow_eq_some_iff.1 hwindow).1
      exact absurd (exists_dayNumber_iff.1 ⟨window.1, hfirst⟩) (not_lt.2 hfew)
    refine ⟨hnone, ?_, fun range clock htoday => ?_⟩
    · rw [SpendPanel.start?, hnone, Option.map_none]
    · rw [answer_lastThirtyDays htoday, hnone]
  · intro hmany
    obtain ⟨first, hfirst⟩ := exists_dayNumber_iff.2 hmany
    have hwindow : defaultWindow today = some (first, today) :=
      defaultWindow_eq_some_iff.2 ⟨hfirst, rfl⟩
    have hcount : (Set.Icc first today).encard = 31 := by
      rw [Date.encard_Icc, show today.dayNumber + 1 - first.dayNumber = 31 by omega]
      rfl
    refine ⟨first, hcount, hwindow, ?_, fun range clock htoday => ?_⟩
    · rw [SpendPanel.start?, hwindow, Option.map_some]
    · rw [answer_lastThirtyDays htoday, hwindow]

/-- The thirtieth date of the calendar. -/
def thirtiethDate : Date := ⟨firstYear, 1, 30, by decide⟩

/-- The first of March in the year 0, which is a leap year. -/
def firstOfMarch : Date := ⟨0, 3, 1, by decide⟩

/-- The window through the first of March of a leap year starts on the last of January. -/
theorem defaultWindow_covers_yearZero :
    ((Set.Iic thirtiethDate).encard ≤ 30 ∧ SpendPanel.start? thirtiethDate = none) ∧
    (30 < (Set.Iic firstOfMarch).encard ∧
      defaultWindow firstOfMarch = some (⟨0, 1, 31, by decide⟩, firstOfMarch) ∧
      (Set.Icc ⟨0, 1, 31, by decide⟩ firstOfMarch).encard = 31) := by
  have hfew : (Set.Iic thirtiethDate).encard ≤ 30 := by
    rw [Date.encard_Iic]
    decide
  have hmany : 30 < (Set.Iic firstOfMarch).encard := by
    rw [Date.encard_Iic]
    decide
  have hstart : defaultWindow firstOfMarch = some (⟨0, 1, 31, by decide⟩, firstOfMarch) := by
    decide
  obtain ⟨first, hcount, hwindow, -⟩ := (defaultWindow_covers firstOfMarch).2 hmany
  obtain rfl : (⟨0, 1, 31, by decide⟩ : Date) = first :=
    congrArg Prod.fst (Option.some_inj.1 (hstart.symm.trans hwindow))
  exact ⟨⟨hfew, ((defaultWindow_covers thirtiethDate).1 hfew).2.1⟩, hmany, hstart, hcount⟩

end BillingConsole
