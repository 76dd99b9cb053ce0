import BillingConsole.Proofs.Calendar.DayNumber
import BillingConsole.Widget.DateRange
import Mathlib.Logic.Function.Iterate

/-!
# Months

The bounds of a month are its first and its last day.  The button for the month before starts from
the first date in the fields, so pressing it again walks back through the calendar.

## What is here

* `monthBounds_eq` — the bounds of a month that is followed by another; `monthBounds_eq_none`,
  `monthBounds_eq_none_of_last` — the months without.
* `previousMonthBounds_eq`, `previousMonthBounds_eq_none` — one step back, and where there is none.
* `stepsBack`, `DateRange.monthBefore` — the range after several steps, and a press of the button.
* `stepsBack_eq`, `stepsBack_eq_none` — the month that several steps lead to.
* `stepsBack_tiles` — **the ranges are the months before a date**, each ending where the one after
  it begins.
-/

set_option autoImplicit false

namespace BillingConsole

variable {d e : Date}

/-! ## The bounds of a month -/

/-- The next month starts on the first day of the month with the next number. -/
theorem nextMonthStart?_eq_some_iff :
    nextMonthStart? d.year d.month = some e ↔ e.monthNumber = d.monthNumber + 1 ∧ e.day = 1 := by
  have hd := d.month_bounds
  have he := e.month_bounds
  rw [nextMonthStart?, Date.monthNumber, Date.monthNumber]
  split <;> rw [Date.ofYmd?_eq_some_iff] <;> omega

/-- The bounds of a month that is followed by another. -/
theorem monthBounds_eq (h : e.monthNumber = d.monthNumber + 1) :
    monthBounds d.year d.month = some (d.monthStart, d.monthEnd) := by
  have hfirst : Date.ofYmd? d.year d.month 1 = some d.monthStart :=
    Date.ofYmd?_eq_some_iff.2 ⟨rfl, rfl, rfl⟩
  have hnext : nextMonthStart? d.year d.month = some e.monthStart :=
    nextMonthStart?_eq_some_iff.2 ⟨h, rfl⟩
  simp [monthBounds, hfirst, hnext, Date.subDays?_monthStart h]

/-- A month without dates has no bounds. -/
theorem monthBounds_eq_none {year : ℤ} {month : ℕ}
    (h : ¬∃ d : Date, d.year = year ∧ d.month = month) : monthBounds year month = none := by
  have hfirst : Date.ofYmd? year month 1 = none := by
    refine Option.eq_none_iff_forall_ne_some.2 fun d hd => h ⟨d, ?_⟩
    obtain ⟨hyear, hmonth, -⟩ := Date.ofYmd?_eq_some_iff.1 hd
    exact ⟨hyear, hmonth⟩
  simp [monthBounds, hfirst]

/-- A month that no other follows has no bounds. -/
theorem monthBounds_eq_none_of_last (h : ¬∃ e : Date, e.monthNumber = d.monthNumber + 1) :
    monthBounds d.year d.month = none := by
  have hnext : nextMonthStart? d.year d.month = none :=
    Option.eq_none_iff_forall_ne_some.2 fun e he =>
      h ⟨e, (nextMonthStart?_eq_some_iff.1 he).1⟩
  simp [monthBounds, hnext]

/-- The bounds of the month before. -/
theorem previousMonthBounds_eq (h : d.monthNumber = e.monthNumber + 1) :
    previousMonthBounds d = some (e.monthStart, e.monthEnd) := by
  have hd := d.month_bounds
  have he := e.month_bounds
  have hnumber := h
  simp only [Date.monthNumber] at hnumber
  rw [previousMonthBounds, ← monthBounds_eq h]
  split
  · have hyear : d.year - 1 = e.year := by omega
    have hmonth : 12 = e.month := by omega
    rw [hyear, hmonth]
  · have hyear : d.year = e.year := by omega
    have hmonth : d.month - 1 = e.month := by omega
    rw [hyear, hmonth]

/-- Before the first month of the calendar there is none. -/
theorem previousMonthBounds_eq_none (h : ¬∃ e : Date, e.monthNumber = d.monthNumber - 1) :
    previousMonthBounds d = none := by
  have hd := d.month_bounds
  rw [previousMonthBounds]
  split
  all_goals
    refine monthBounds_eq_none ?_
    rintro ⟨e, hyear, hmonth⟩
    refine h ⟨e, ?_⟩
    rw [Date.monthNumber, Date.monthNumber]
    omega

/-! ## Several steps back -/

/-- The range after a number of steps, each to the month before the first day of the range. -/
def stepsBack (range : Date × Date) : ℕ → Option (Date × Date)
  | 0 => some range
  | steps + 1 => (stepsBack range steps).bind fun later => previousMonthBounds later.1

/-- The range in the date fields after the button for the month before was pressed.  Where there is
no such month the range stays. -/
def DateRange.monthBefore (clock : Clock) (range : DateRange) : DateRange :=
  match DateRangeEvent.previousMonth.answer range clock with
  | .range asked => asked
  | _ => range

/-- Several steps lead to the bounds of a month. -/
theorem stepsBack_eq (stop : Date) (steps : ℕ) (h : e.monthNumber = d.monthNumber - (steps + 1)) :
    stepsBack (d, stop) (steps + 1) = some (e.monthStart, e.monthEnd) := by
  induction steps generalizing e with
  | zero =>
    refine previousMonthBounds_eq (d := d) ?_
    push_cast at h
    omega
  | succ steps ih =>
    push_cast at h
    obtain ⟨later, hlater⟩ : ∃ f : Date, f.monthNumber = d.monthNumber - (steps + 1) :=
      Date.exists_monthNumber_between (d := e) (e := d) (by omega) (by omega)
    rw [stepsBack, ih hlater, Option.bind_some]
    refine previousMonthBounds_eq ?_
    rw [Date.monthNumber_monthStart]
    omega

/-- Several steps lead nowhere if there is no month. -/
theorem stepsBack_eq_none (stop : Date) (steps : ℕ)
    (h : ¬∃ e : Date, e.monthNumber = d.monthNumber - (steps + 1)) :
    stepsBack (d, stop) (steps + 1) = none := by
  induction steps with
  | zero =>
    exact previousMonthBounds_eq_none (d := d) (by simpa using h)
  | succ steps ih =>
    by_cases hlater : ∃ f : Date, f.monthNumber = d.monthNumber - (steps + 1)
    · obtain ⟨later, hnumber⟩ := hlater
      rw [stepsBack, stepsBack_eq stop steps hnumber, Option.bind_some]
      refine previousMonthBounds_eq_none ?_
      rw [Date.monthNumber_monthStart, hnumber]
      push_cast at h
      rwa [show d.monthNumber - (steps + 1) - 1 = d.monthNumber - (steps + 1 + 1) by omega]
    · rw [stepsBack, ih hlater, Option.bind_none]

/-- The button starts from the first date. -/
theorem monthBefore_eq (clock : Clock) (field : Option Date) {range : Date × Date}
    (h : previousMonthBounds d = some range) :
    DateRange.monthBefore clock (some d, field) = (some range.1, some range.2) := by
  have hanswer : DateRangeEvent.previousMonth.answer (some d, field) clock =
      .ofBounds (previousMonthBounds d) := rfl
  rw [DateRange.monthBefore, hanswer, h]
  rfl

/-- The button leads through the same ranges, whatever was in the second field. -/
theorem iterate_monthBefore (clock : Clock) (stop : Date) (field : Option Date) (steps : ℕ)
    {range : Date × Date} (h : stepsBack (d, stop) (steps + 1) = some range) :
    (DateRange.monthBefore clock)^[steps + 1] (some d, field) = (some range.1, some range.2) := by
  induction steps generalizing range with
  | zero =>
    exact monthBefore_eq clock field h
  | succ steps ih =>
    rw [stepsBack] at h
    obtain ⟨later, hlater, hbounds⟩ := Option.bind_eq_some_iff.1 h
    rw [Function.iterate_succ_apply', ih hlater]
    exact monthBefore_eq clock _ hbounds

/-- The range after a number of steps is a month and ends where a later range begins. -/
structure IsMonthBack (d : Date) (steps : ℕ) (later : Option (Date × Date))
    (range : Date × Date) : Prop where
  /-- The range consists of the dates of the month so many months before. -/
  dates : ∀ e : Date, range.1 ≤ e ∧ e ≤ range.2 ↔ e.monthNumber = d.monthNumber - steps
  /-- No date lies between the range and the later one. -/
  adjacent : ∃ start stop, later = some (start, stop) ∧ range.2 ⋖ start

/-- **Steps back lead through the months before a date.**  As long as there is a month, the range
after another step consists of its dates, and the day after it begins the range before that step, or
the month of the date itself; the button leads to the same range.  Where there is no month, there is
no range. -/
theorem stepsBack_tiles (d stop : Date) (steps : ℕ) :
    ((∃ e : Date, e.monthNumber = d.monthNumber - (steps + 1)) →
      ∃ range, stepsBack (d, stop) (steps + 1) = some range ∧
        IsMonthBack d (steps + 1)
          (if steps = 0 then some (d.monthStart, d.monthEnd) else stepsBack (d, stop) steps) range ∧
        ∀ (clock : Clock) (field : Option Date),
          (DateRange.monthBefore clock)^[steps + 1] (some d, field) =
            (some range.1, some range.2)) ∧
    ((¬∃ e : Date, e.monthNumber = d.monthNumber - (steps + 1)) →
      stepsBack (d, stop) (steps + 1) = none) := by
  refine ⟨?_, stepsBack_eq_none stop steps⟩
  rintro ⟨e, he⟩
  have hrange := stepsBack_eq stop steps he
  refine ⟨_, hrange, ⟨fun f => ?_, ?_⟩, fun clock field =>
    iterate_monthBefore clock stop field steps hrange⟩
  · rw [Date.mem_month_iff, he, Nat.cast_succ]
  · cases steps with
    | zero => exact ⟨_, _, rfl, Date.monthEnd_covBy (by push_cast at he; omega)⟩
    | succ steps =>
      push_cast at he
      obtain ⟨later, hlater⟩ : ∃ f : Date, f.monthNumber = d.monthNumber - (steps + 1) :=
        Date.exists_monthNumber_between (d := e) (e := d) (by omega) (by omega)
      exact ⟨_, _, stepsBack_eq stop steps hlater, Date.monthEnd_covBy (by omega)⟩

/-- The last day of March in the year 0, which is a leap year. -/
def lastOfMarch : Date := ⟨0, 3, 31, by decide⟩

/-- The first day of the calendar. -/
def firstDate : Date := ⟨firstYear, 1, 1, by decide⟩

/-- Three steps lead through a leap February and a January into the year before. -/
theorem stepsBack_tiles_yearZero :
    ((∃ e : Date, e.monthNumber = lastOfMarch.monthNumber - ((2 : ℕ) + 1)) ∧
      stepsBack (lastOfMarch, lastOfMarch) 3 =
        some (⟨-1, 12, 1, by decide⟩, ⟨-1, 12, 31, by decide⟩) ∧
      IsMonthBack lastOfMarch 3 (some (⟨0, 1, 1, by decide⟩, ⟨0, 1, 31, by decide⟩))
        (⟨-1, 12, 1, by decide⟩, ⟨-1, 12, 31, by decide⟩)) ∧
    ((¬∃ e : Date, e.monthNumber = firstDate.monthNumber - ((0 : ℕ) + 1)) ∧
      stepsBack (firstDate, firstDate) 1 = none) := by
  have hmonth : ∃ e : Date, e.monthNumber = lastOfMarch.monthNumber - ((2 : ℕ) + 1) :=
    ⟨⟨-1, 12, 1, by decide⟩, by decide⟩
  have hnone : ¬∃ e : Date, e.monthNumber = firstDate.monthNumber - ((0 : ℕ) + 1) := by
    rw [Date.exists_monthNumber_iff]
    decide
  have hlater : stepsBack (lastOfMarch, lastOfMarch) 2 =
      some (⟨0, 1, 1, by decide⟩, ⟨0, 1, 31, by decide⟩) := by decide
  have hsteps : stepsBack (lastOfMarch, lastOfMarch) 3 =
      some (⟨-1, 12, 1, by decide⟩, ⟨-1, 12, 31, by decide⟩) := by decide
  obtain ⟨range, hrange, htiles, -⟩ := (stepsBack_tiles lastOfMarch lastOfMarch 2).1 hmonth
  rw [hsteps, Option.some_inj] at hrange
  rw [if_neg (by decide), hlater, ← hrange] at htiles
  exact ⟨⟨hmonth, hsteps, htiles⟩, hnone, (stepsBack_tiles firstDate firstDate 0).2 hnone⟩

end BillingConsole
