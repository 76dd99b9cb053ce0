import BillingConsole.Calendar.DateText

/-!
# The clock

## What is here

* `Clock` — seconds since the first of January 1970, and the offset of local time.
* `Clock.today?`, `Clock.label` — the local date, and date and time as text.
* `momentText` — the text of a moment; a leap second is second sixty.
-/

set_option autoImplicit false

namespace BillingConsole

/-- A moment: seconds since the first of January 1970 in universal time, and how many seconds local
time is ahead of it. -/
structure Clock where
  seconds : Int
  offset : Int
deriving DecidableEq, Inhabited

/-- Local date and time of day as text.  `nanos` counts beyond the second; a whole second of them
marks a leap second. -/
def momentText (clock : Clock) (nanos : Nat) : String :=
  let second := clock.seconds + clock.offset
  let ofDay := (second % 86400).toNat
  let day := (CivilDay.ofDayNumber (second / 86400)).text
  let time := padded10 2 (ofDay / 3600) ++ ':' :: padded10 2 (ofDay / 60 % 60) ++
    ':' :: padded10 2 (ofDay % 60 + nanos / 1000000000)
  String.ofList (day ++ ' ' :: time)

namespace Clock

/-- The local date, if the calendar has it. -/
def today? (clock : Clock) : Option Date :=
  Date.ofDayNumber? ((clock.seconds + clock.offset) / 86400)

/-- Local date and time, as shown after a refresh. -/
def label (clock : Clock) : String := momentText clock 0

end Clock

end BillingConsole
