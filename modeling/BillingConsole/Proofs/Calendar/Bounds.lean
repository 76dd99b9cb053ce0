import BillingConsole.Proofs.Calendar.Months

/-!
# The bounds of every month

The last day of a month is found as the day before the next month begins.  So every month of the
calendar that is followed by another has bounds.  The very last one has all its days and no bounds,
and what is no month of the calendar has none.

## What is here

* `HasMonth`, `hasMonth_iff` — the months of which the calendar has every day.
* `FitsMonth` — the bounds a month is to have.
* `exists_next_iff` — the months that are followed by another.
* `monthBoundsOnWords_eq` — **the computation on machine words never stops**, and comes to the same.
* `monthBounds_fits` — **the bounds of every month** but the last; `not_fitsMonth_last` — that one
  has none.
-/

set_option autoImplicit false

namespace BillingConsole

variable {d e : Date}

/-! ## Months of the calendar -/

/-- The calendar has every day of the month. -/
def HasMonth (year : ℤ) (month : ℕ) : Prop :=
  (1 ≤ month ∧ month ≤ 12) ∧ ∀ day, 1 ≤ day → day ≤ daysInMonth year month →
    ∃ d : Date, d.year = year ∧ d.month = month ∧ d.day = day

/-- The bounds that a month is to have. -/
structure FitsMonth (year : ℤ) (month : ℕ) (bounds : Option (Date × Date)) : Prop where
  /-- If the calendar has every day of the month, its dates lie between the bounds. -/
  covers : HasMonth year month → ∃ first last, bounds = some (first, last) ∧
    ∀ d : Date, first ≤ d ∧ d ≤ last ↔ d.year = year ∧ d.month = month
  /-- If it has not, there are none. -/
  absent : ¬HasMonth year month → bounds = none

/-- A month that has dates has all of them. -/
theorem hasMonth_iff {year : ℤ} {month : ℕ} :
    HasMonth year month ↔ ∃ d : Date, d.year = year ∧ d.month = month := by
  constructor
  · rintro ⟨hmonth, hdays⟩
    have hlength := (daysInMonth_bounds year hmonth).1
    obtain ⟨d, hyear, hmonth, -⟩ := hdays 1 le_rfl (by omega)
    exact ⟨d, hyear, hmonth⟩
  · rintro ⟨d, rfl, rfl⟩
    exact ⟨d.month_bounds, fun day hday hlast =>
      ⟨⟨d.year, d.month, day, d.valid.1, d.valid.2.1, hday, hlast⟩, rfl, rfl, rfl⟩⟩

/-- The last day of the calendar. -/
def lastDate : Date := ⟨lastYear, 12, 31, by decide⟩

/-- No month follows the last one of the last year. -/
theorem exists_next_iff :
    (∃ e : Date, e.monthNumber = d.monthNumber + 1) ↔ ¬(d.year = lastYear ∧ d.month = 12) := by
  have hmonth := d.month_bounds
  have hfirst := d.valid.1
  have hlast := d.valid.2.1
  rw [Date.exists_monthNumber_iff, Date.monthNumber]
  omega

/-! ## On machine words -/

theorem yearAfter_eq {year : Int32} (h : year.toInt ≤ lastYear) :
    ∃ next, yearAfter year = .ok next ∧ next.toInt = year.toInt + 1 := by
  have hword : Int32.maxValue.toInt = 2147483647 := by decide
  have hlow := year.le_toInt
  have hone : (1 : Int32).toInt = 1 := by decide
  rw [lastYear] at h
  refine ⟨year + 1, if_pos (by omega), ?_⟩
  rw [Int32.toInt_add, hone]
  exact Int.bmod_eq_of_le (by omega) (by omega)

theorem monthAfter_eq {month : UInt32} (h : month.toNat ≤ 12) :
    ∃ next, monthAfter month = .ok next ∧ next.toNat = month.toNat + 1 := by
  have hword : month.toNat + 1 < UInt32.size := by
    have hsize : UInt32.size = 4294967296 := rfl
    omega
  refine ⟨month + 1, if_pos hword, ?_⟩
  rw [UInt32.toNat_add]
  exact Nat.mod_eq_of_lt hword

/-- The month after a month with dates is counted by words. -/
theorem nextStartOnWords_eq {year : Int32} {month : UInt32} (hyear : d.year = year.toInt)
    (hmonth : d.month = month.toNat) :
    nextStartOnWords year month = .ok (nextMonthStart? year.toInt month.toNat) := by
  have hd := d.month_bounds
  have hlast := d.valid.2.1
  by_cases htwelve : month = 12
  · obtain ⟨next, hafter, hnext⟩ := yearAfter_eq (hyear ▸ hlast)
    have hnumber : month.toNat = 12 := by rw [htwelve]; rfl
    rw [nextStartOnWords, if_pos htwelve, nextMonthStart?, if_pos hnumber, hafter, ← hnext]
    rfl
  · obtain ⟨next, hafter, hnext⟩ := monthAfter_eq (hmonth ▸ hd.2)
    have hnumber : month.toNat ≠ 12 := fun h => htwelve (UInt32.toNat_inj.1 h)
    rw [nextStartOnWords, if_neg htwelve, nextMonthStart?, if_neg hnumber, hafter, ← hnext]
    rfl

/-- Before the first day of a month that follows another there is a day. -/
theorem exists_dayBefore (h : nextMonthStart? d.year d.month = some e) :
    ∃ last, e.subDays? 1 = some last ∧ dayBefore e = .ok last := by
  obtain ⟨hnumber, hday⟩ := nextMonthStart?_eq_some_iff.1 h
  have hbefore := Date.subDays?_monthStart hnumber
  rw [Date.monthStart_eq_self hday] at hbefore
  refine ⟨_, hbefore, ?_⟩
  unfold dayBefore
  rw [hbefore]

/-- **The computation never stops.**  A year that has dates and a month of a year are followed by
words, and the first day of a month that follows another is not the first of the calendar. -/
theorem monthBoundsOnWords_eq (year : Int32) (month : UInt32) :
    monthBoundsOnWords year month = .ok (monthBounds year.toInt month.toNat) := by
  cases hfirst : Date.ofYmd? year.toInt month.toNat 1 with
  | none => simp [monthBoundsOnWords, monthBounds, hfirst, pure, Except.pure]
  | some first =>
    obtain ⟨hyear, hmonth, -⟩ := Date.ofYmd?_eq_some_iff.1 hfirst
    have hwords := nextStartOnWords_eq hyear hmonth
    cases hstart : nextMonthStart? year.toInt month.toNat with
    | none =>
      simp [monthBoundsOnWords, monthBounds, hfirst, hwords, hstart, pure, Except.pure, bind,
        Except.bind]
    | some next =>
      obtain ⟨last, hlast, hbefore⟩ := exists_dayBefore (d := first) (by rw [hyear, hmonth, hstart])
      simp [monthBoundsOnWords, monthBounds, hfirst, hwords, hstart, hlast, hbefore, pure,
        Except.pure, bind, Except.bind]

/-! ## The bounds of every month -/

/-- The months that are followed by another have their bounds. -/
theorem fitsMonth_of_next (h : e.monthNumber = d.monthNumber + 1) :
    FitsMonth d.year d.month (monthBounds d.year d.month) where
  covers _ := ⟨_, _, monthBounds_eq h, fun _ => Date.mem_month_iff.trans Date.monthNumber_eq_iff⟩
  absent hnot := absurd (hasMonth_iff.2 ⟨d, rfl, rfl⟩) hnot

/-- **The bounds of every month.**  For any words as year and month the computation comes to an end.
The very last month of the calendar has all its days and no bounds.  For any other words the dates
between the bounds are those of the month, if the calendar has all its days, and there are no bounds
if it has not. -/
theorem monthBounds_fits (year : Int32) (month : UInt32) :
    monthBoundsOnWords year month = .ok (monthBounds year.toInt month.toNat) ∧
    if year.toInt = lastYear ∧ month.toNat = 12 then
      HasMonth year.toInt month.toNat ∧ monthBounds year.toInt month.toNat = none
    else FitsMonth year.toInt month.toNat (monthBounds year.toInt month.toNat) := by
  refine ⟨monthBoundsOnWords_eq year month, ?_⟩
  by_cases hhas : HasMonth year.toInt month.toNat
  · obtain ⟨d, hyear, hmonth⟩ := hasMonth_iff.1 hhas
    rw [← hyear, ← hmonth] at hhas ⊢
    split
    · next hlast =>
      exact ⟨hhas, monthBounds_eq_none_of_last fun hnext => exists_next_iff.1 hnext hlast⟩
    · next hnotLast =>
      obtain ⟨e, he⟩ := exists_next_iff.2 hnotLast
      exact fitsMonth_of_next he
  · rw [if_neg]
    · exact ⟨fun h => absurd h hhas, fun h => monthBounds_eq_none (mt hasMonth_iff.2 h)⟩
    · rintro ⟨hyear, hmonth⟩
      exact hhas (hasMonth_iff.2 ⟨lastDate, hyear.symm, hmonth.symm⟩)

/-- The last month of the calendar has no bounds, although it has all its days. -/
theorem not_fitsMonth_last :
    ¬FitsMonth (262142 : Int32).toInt (12 : UInt32).toNat
      (monthBounds (262142 : Int32).toInt (12 : UInt32).toNat) := by
  intro h
  obtain ⟨first, last, hbounds, -⟩ := h.covers (hasMonth_iff.2 ⟨lastDate, by decide, by decide⟩)
  have hnone : monthBounds (262142 : Int32).toInt (12 : UInt32).toNat = none := by decide
  rw [hnone] at hbounds
  cases hbounds

end BillingConsole
