import BillingConsole.Calendar.Date
import Mathlib.Data.Prod.Lex
import Mathlib.Order.Cover

/-!
# Dates in order

Dates are ordered by year, month and day.  Months are numbered through all years, so that a month
and the next one differ by one, at the end of a year too.

## What is here

* the order of dates, and `Date.lt_iff` — the first of the three parts that differs decides.
* `Date.monthNumber` — the number of the month of a date; `Date.exists_monthNumber_iff` — the
  numbers of the months that have dates.
* `Date.monthStart`, `Date.monthEnd` — the first and the last day of the month of a date;
  `Date.mem_month_iff` — **between them lie the dates of the month**; `Date.monthEnd_covBy` — nothing
  lies between a month and the next.
-/

set_option autoImplicit false

namespace BillingConsole

/-- Only months have days. -/
theorem month_of_daysInMonth {year : ℤ} {month : ℕ} (h : 0 < daysInMonth year month) :
    1 ≤ month ∧ month ≤ 12 := by
  rw [daysInMonth.eq_def] at h
  split at h <;> omega

/-- Every month has a twenty-eighth day, and none a thirty-second. -/
theorem daysInMonth_bounds (year : ℤ) {month : ℕ} (h : 1 ≤ month ∧ month ≤ 12) :
    28 ≤ daysInMonth year month ∧ daysInMonth year month ≤ 31 := by
  rw [daysInMonth.eq_def]
  split <;> grind

namespace Date

variable {d e : Date}

/-- There is a date with a year, month and day only if these are its parts. -/
theorem ofYmd?_eq_some_iff {year : ℤ} {month day : ℕ} :
    ofYmd? year month day = some d ↔ d.year = year ∧ d.month = month ∧ d.day = day := by
  rw [ofYmd?]
  constructor
  · intro h
    split at h
    · rw [Option.some_inj] at h
      simp [← h]
    · simp at h
  · rintro ⟨rfl, rfl, rfl⟩
    rw [dif_pos d.valid]

theorem one_le_day (d : Date) : 1 ≤ d.day := d.valid.2.2.1

theorem day_le (d : Date) : d.day ≤ daysInMonth d.year d.month := d.valid.2.2.2

theorem month_bounds (d : Date) : 1 ≤ d.month ∧ d.month ≤ 12 :=
  month_of_daysInMonth (d.one_le_day.trans d.day_le)

/-! ## The order -/

/-- Year, month and day, compared in this order. -/
def key (d : Date) : ℤ ×ₗ ℕ ×ₗ ℕ := toLex (d.year, toLex (d.month, d.day))

theorem key_injective : Function.Injective key := by
  intro d e h
  cases d
  cases e
  simpa [key] using h

instance : LinearOrder Date := LinearOrder.lift' key key_injective

theorem lt_iff : d < e ↔
    d.year < e.year ∨ d.year = e.year ∧ (d.month < e.month ∨ d.month = e.month ∧ d.day < e.day) := by
  show key d < key e ↔ _
  simp [key, Prod.Lex.toLex_lt_toLex]

/-! ## Months -/

/-- The number of the month of a date, counted through all years. -/
def monthNumber (d : Date) : ℤ := 12 * d.year + d.month - 1

/-- The month decides unless it is the same. -/
theorem lt_iff_monthNumber :
    d < e ↔ d.monthNumber < e.monthNumber ∨ d.monthNumber = e.monthNumber ∧ d.day < e.day := by
  have hd := d.month_bounds
  have he := e.month_bounds
  rw [lt_iff, monthNumber, monthNumber]
  omega

theorem le_iff_monthNumber :
    d ≤ e ↔ d.monthNumber < e.monthNumber ∨ d.monthNumber = e.monthNumber ∧ d.day ≤ e.day := by
  rw [← not_lt, lt_iff_monthNumber]
  omega

theorem monthNumber_eq_iff :
    d.monthNumber = e.monthNumber ↔ d.year = e.year ∧ d.month = e.month := by
  have hd := d.month_bounds
  have he := e.month_bounds
  rw [monthNumber, monthNumber]
  omega

/-- The months that have dates are those of the years that have dates. -/
theorem exists_monthNumber_iff (n : ℤ) :
    (∃ d : Date, d.monthNumber = n) ↔ 12 * firstYear ≤ n ∧ n < 12 * (lastYear + 1) := by
  constructor
  · rintro ⟨d, rfl⟩
    have hmonth := d.month_bounds
    have hfirst := d.valid.1
    have hlast := d.valid.2.1
    rw [monthNumber]
    omega
  · rintro ⟨hfirst, hlast⟩
    have hmonth : 1 ≤ (n % 12).toNat + 1 ∧ (n % 12).toNat + 1 ≤ 12 := by omega
    have hdays := (daysInMonth_bounds (n / 12) hmonth).1
    have hyear : firstYear ≤ n / 12 ∧ n / 12 ≤ lastYear := by omega
    refine ⟨⟨n / 12, (n % 12).toNat + 1, 1, hyear.1, hyear.2, le_rfl, by omega⟩, ?_⟩
    show 12 * (n / 12) + ((n % 12).toNat + 1 : ℕ) - 1 = n
    omega

/-- The months between two months that have dates have dates, too. -/
theorem exists_monthNumber_between {n : ℤ} (hd : d.monthNumber ≤ n) (he : n ≤ e.monthNumber) :
    ∃ f : Date, f.monthNumber = n := by
  have hfirst := (exists_monthNumber_iff _).1 ⟨d, rfl⟩
  have hlast := (exists_monthNumber_iff _).1 ⟨e, rfl⟩
  rw [exists_monthNumber_iff]
  omega

/-- The first day of the month of a date. -/
def monthStart (d : Date) : Date :=
  ⟨d.year, d.month, 1, d.valid.1, d.valid.2.1, le_rfl, d.one_le_day.trans d.day_le⟩

/-- The last day of the month of a date. -/
def monthEnd (d : Date) : Date :=
  ⟨d.year, d.month, daysInMonth d.year d.month, d.valid.1, d.valid.2.1,
    d.one_le_day.trans d.day_le, le_rfl⟩

@[simp] theorem monthNumber_monthStart (d : Date) : d.monthStart.monthNumber = d.monthNumber := rfl

@[simp] theorem monthNumber_monthEnd (d : Date) : d.monthEnd.monthNumber = d.monthNumber := rfl

/-- The first day of a month is the first day of its month. -/
theorem monthStart_eq_self (h : d.day = 1) : d.monthStart = d := by
  obtain ⟨year, month, day, valid⟩ := d
  obtain rfl : day = 1 := h
  rfl

/-- **Between the first and the last day of a month lie its dates.** -/
theorem mem_month_iff : d.monthStart ≤ e ∧ e ≤ d.monthEnd ↔ e.monthNumber = d.monthNumber := by
  rw [le_iff_monthNumber, le_iff_monthNumber, monthNumber_monthStart, monthNumber_monthEnd]
  constructor
  · omega
  · intro h
    have hsame := monthNumber_eq_iff.1 h
    have hlast : e.day ≤ d.monthEnd.day := by
      show e.day ≤ daysInMonth d.year d.month
      rw [← hsame.1, ← hsame.2]
      exact e.day_le
    exact ⟨.inr ⟨h.symm, e.one_le_day⟩, .inr ⟨h, hlast⟩⟩

/-- Nothing lies between a month and the next. -/
theorem monthEnd_covBy (h : e.monthNumber = d.monthNumber + 1) : d.monthEnd ⋖ e.monthStart := by
  constructor
  · rw [lt_iff_monthNumber, monthNumber_monthStart, monthNumber_monthEnd]
    omega
  · intro between hafter hbefore
    rw [lt_iff_monthNumber, monthNumber_monthEnd] at hafter
    rw [lt_iff_monthNumber, monthNumber_monthStart] at hbefore
    have hfirst : ¬between.day < e.monthStart.day := not_lt.2 between.one_le_day
    have hsame : between.monthNumber = d.monthNumber := by omega
    have hlast : d.monthEnd.day < between.day := by omega
    exact absurd (mem_month_iff.2 hsame).2 (not_le.2 (lt_iff_monthNumber.2 (.inr ⟨hsame.symm, hlast⟩)))

end Date

end BillingConsole
