import BillingConsole.Calendar.Date

/-!
# Date ranges

## What is here

* `monthBounds` — the first and the last day of a month.
* `monthBoundsOnWords` — the same computation on machine words, which may stop.
* `previousMonthBounds` — the same for the month before the month of a date.
* `defaultWindow` — the last thirty days and the day itself.
-/

set_option autoImplicit false

namespace BillingConsole

/-! ## Months -/

/-- The first day of the month after a month, if there is one. -/
def nextMonthStart? (year : Int) (month : Nat) : Option Date :=
  if month = 12 then Date.ofYmd? (year + 1) 1 1 else Date.ofYmd? year (month + 1) 1

/-- The first and the last day of a month.  The last day is the one before the next month starts,
so the very last month of the calendar has no bounds. -/
def monthBounds (year : Int) (month : Nat) : Option (Date × Date) := do
  let first ← Date.ofYmd? year month 1
  let next ← nextMonthStart? year month
  let last ← next.subDays? 1
  some (first, last)

/-! ## On machine words

Years and months are numbered by machine words, and a sum of these may be none. -/

/-- Why a computation on machine words stops. -/
inductive WordStop where
  /-- A sum is no word. -/
  | sum
  /-- A day is none of the calendar. -/
  | day
deriving DecidableEq

/-- The number of the year after, if it is a word. -/
def yearAfter (year : Int32) : Except WordStop Int32 :=
  if year.toInt + 1 ≤ Int32.maxValue.toInt then .ok (year + 1) else .error .sum

/-- The number of the month after, if it is a word. -/
def monthAfter (month : UInt32) : Except WordStop UInt32 :=
  if month.toNat + 1 < UInt32.size then .ok (month + 1) else .error .sum

/-- The day before, if the calendar has it. -/
def dayBefore (d : Date) : Except WordStop Date :=
  match d.subDays? 1 with
  | some before => .ok before
  | none => .error .day

/-- The first day of the month after, if there is one. -/
def nextStartOnWords (year : Int32) (month : UInt32) : Except WordStop (Option Date) :=
  if month = 12 then
    (yearAfter year).map fun next => Date.ofYmd? next.toInt 1 1
  else
    (monthAfter month).map fun next => Date.ofYmd? year.toInt next.toNat 1

/-- The bounds of a month, computed on machine words.  A sum that is no word and a day that is none
of the calendar stop the computation, while a date that is not there means that there are no
bounds. -/
def monthBoundsOnWords (year : Int32) (month : UInt32) :
    Except WordStop (Option (Date × Date)) := do
  let some first := Date.ofYmd? year.toInt month.toNat 1 | return none
  let some next ← nextStartOnWords year month | return none
  let last ← dayBefore next
  return some (first, last)

/-! ## Ranges -/

/-- The bounds of the month before the month of a date. -/
def previousMonthBounds (d : Date) : Option (Date × Date) :=
  if d.month = 1 then monthBounds (d.year - 1) 12 else monthBounds d.year (d.month - 1)

/-- How far before today the report starts unless asked otherwise, in days. -/
def defaultWindowDays : Nat := 30

/-- The last thirty days through today; there is none in the first thirty days of the calendar. -/
def defaultWindow (today : Date) : Option (Date × Date) :=
  (today.subDays? defaultWindowDays).map fun first => (first, today)

end BillingConsole
