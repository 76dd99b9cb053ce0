import BillingConsole.Calendar.Clock
import BillingConsole.Calendar.Range
import BillingConsole.View.Basic

/-!
# Choosing a range of dates

Two date fields, either of which may be empty, and buttons for the month before, this month and the
last thirty days.

## What is here

* `DateFields` — the range, and the texts in the fields.
* `DateRangeEvent` — what the fields and buttons are used for.
* `DateRangeEvent.range` — the range an event asks for.
-/

set_option autoImplicit false

namespace BillingConsole

/-- A range of dates, either end of which may be open. -/
abbrev DateRange := Option Date × Option Date

/-- What is in the date fields; a user may leave a text there that is no date. -/
structure DateFields where
  first : String
  last : String
deriving DecidableEq

/-- The date fields with a range written into them. -/
def DateFields.ofRange (range : DateRange) : DateFields :=
  ⟨dateFieldText range.1, dateFieldText range.2⟩

/-- What the date fields and the buttons beside them are used for. -/
inductive DateRangeEvent where
  | typeFirst (text : String)
  | typeLast (text : String)
  | previousMonth
  | thisMonth
  | lastThirtyDays
deriving DecidableEq

/-- What became of an event. -/
inductive RangeAnswer where
  /-- A range is asked for. -/
  | range (asked : DateRange)
  /-- The calendar has no such month. -/
  | nothing
  /-- The calendar ends before the range that was to be asked for. -/
  | outOfCalendar
deriving DecidableEq

/-- The answer for both bounds of a month. -/
def RangeAnswer.ofBounds : Option (Date × Date) → RangeAnswer
  | some (first, last) => .range (some first, some last)
  | none => .nothing

/-- What an event asks for, by the current range and the clock.  The month before is counted from
the first date, or else from today. -/
def DateRangeEvent.answer (range : DateRange) (clock : Clock) : DateRangeEvent → RangeAnswer
  | typeFirst text => .range (Date.ofField? text, range.2)
  | typeLast text => .range (range.1, Date.ofField? text)
  | previousMonth =>
    match range.1.or clock.today? with
    | some anchor => .ofBounds (previousMonthBounds anchor)
    | none => .outOfCalendar
  | thisMonth =>
    match clock.today? with
    | some today => .ofBounds (monthBounds today.year today.month)
    | none => .outOfCalendar
  | lastThirtyDays =>
    match clock.today?.bind defaultWindow with
    | some (first, last) => .range (some first, some last)
    | none => .outOfCalendar

/-- The view of the fields and buttons, with a label above them. -/
def DateFields.view (fields : DateFields) (label : Option String) : View DateRangeEvent :=
  .block ((label.toList.map fun s => .element "label" [] [.text s]) ++ [
    .block [
      .field "date" fields.first true .typeFirst,
      .blockText "—",
      .field "date" fields.last true .typeLast,
      .block [.block [
        .plainButton .previousMonth [.text "-1M"],
        .plainButton .thisMonth [.text "0M"],
        .plainButton .lastThirtyDays [.text "30D"]]]]])

end BillingConsole
