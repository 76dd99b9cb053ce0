/-!
# Calendar dates

Dates of the Gregorian calendar, extended to all years, from the first of January of the year
-262143 to the last of December of the year 262142.

## What is here

* `isLeapYear`, `daysInMonth` — the shape of a year.
* `dayNumber`, `CivilDay.ofDayNumber` — days counted from the first of January 1970, and back.
* `Date` — a date in range; `Date.ofYmd?` checks year, month and day.
* `Date.subDays?` — the date some days earlier, if it is in range.
-/

set_option autoImplicit false

namespace BillingConsole

/-! ## Years and months -/

/-- Every fourth year, but of the full centuries only every fourth. -/
def isLeapYear (year : Int) : Bool :=
  year % 4 == 0 && (year % 100 != 0 || year % 400 == 0)

/-- The length of a month; a number that names no month has no days. -/
def daysInMonth (year : Int) (month : Nat) : Nat :=
  match month with
  | 2 => if isLeapYear year then 29 else 28
  | 4 | 6 | 9 | 11 => 30
  | 1 | 3 | 5 | 7 | 8 | 10 | 12 => 31
  | _ => 0

/-! ## Day numbers -/

/-- A day written as year, month and day of the month, of any year. -/
structure CivilDay where
  year : Int
  month : Nat
  day : Nat
deriving DecidableEq, Inhabited

/-- The number of days from the first of January 1970 to a day.  Years are counted from March, so
that a leap day comes last; 146097 days make 400 years. -/
def CivilDay.dayNumber (d : CivilDay) : Int :=
  let year := if d.month ≤ 2 then d.year - 1 else d.year
  let era := year / 400
  let yearOfEra := year % 400
  let monthFromMarch : Int := (d.month + 9 : Nat) % 12
  let dayOfYear := (153 * monthFromMarch + 2) / 5 + d.day - 1
  let dayOfEra := yearOfEra * 365 + yearOfEra / 4 - yearOfEra / 100 + dayOfYear
  era * 146097 + dayOfEra - 719468

/-- The day with a number. -/
def CivilDay.ofDayNumber (number : Int) : CivilDay :=
  let shifted := number + 719468
  let era := shifted / 146097
  let dayOfEra := shifted % 146097
  let yearOfEra :=
    (dayOfEra - dayOfEra / 1460 + dayOfEra / 36524 - dayOfEra / 146096) / 365
  let dayOfYear := dayOfEra - (365 * yearOfEra + yearOfEra / 4 - yearOfEra / 100)
  let monthFromMarch := (5 * dayOfYear + 2) / 153
  let day := dayOfYear - (153 * monthFromMarch + 2) / 5 + 1
  let month := if monthFromMarch < 10 then monthFromMarch + 3 else monthFromMarch - 9
  let year := yearOfEra + era * 400
  ⟨if month ≤ 2 then year + 1 else year, month.toNat, day.toNat⟩

/-! ## Dates in range -/

/-- The first year that has dates. -/
def firstYear : Int := -262143

/-- The last year that has dates. -/
def lastYear : Int := 262142

/-- The year has dates, the month is one, and the month has the day. -/
def ValidDate (year : Int) (month day : Nat) : Prop :=
  firstYear ≤ year ∧ year ≤ lastYear ∧ 1 ≤ day ∧ day ≤ daysInMonth year month

instance (year : Int) (month day : Nat) : Decidable (ValidDate year month day) := by
  unfold ValidDate; infer_instance

/-- A date of the calendar. -/
structure Date where
  year : Int
  month : Nat
  day : Nat
  valid : ValidDate year month day
deriving DecidableEq

namespace Date

/-- The date with a year, month and day, if there is one. -/
def ofYmd? (year : Int) (month day : Nat) : Option Date :=
  if h : ValidDate year month day then some ⟨year, month, day, h⟩ else none

/-- The date as a day of any year. -/
def toCivilDay (d : Date) : CivilDay := ⟨d.year, d.month, d.day⟩

/-- Days from the first of January 1970. -/
def dayNumber (d : Date) : Int := d.toCivilDay.dayNumber

/-- The date with a day number, if it is in range. -/
def ofDayNumber? (number : Int) : Option Date :=
  let d := CivilDay.ofDayNumber number
  ofYmd? d.year d.month d.day

/-- The date some days earlier, if it is in range. -/
def subDays? (d : Date) (days : Nat) : Option Date := ofDayNumber? (d.dayNumber - days)

end Date

end BillingConsole
