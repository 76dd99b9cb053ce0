import BillingConsole.Console.Stage
import BillingConsole.Widget.DateRange

/-!
# The date fields on their own

What the date fields ask for is put on record; the range follows it or stays as it is.

## What is here

* `DateRangePreview` — the fields, their range and what they asked for.
-/

set_option autoImplicit false

namespace BillingConsole

/-- The date fields, and what they have asked for. -/
structure DateRangePreview where
  host : Host
  range : DateRange
  fields : DateFields
  label : Option String
  /-- Whether the range becomes what is asked for. -/
  follows : Bool
  asked : List DateRange

namespace DateRangePreview

/-- The fields with a range written into them. -/
def ofRange (host : Host) (range : DateRange) (label : Option String) (follows : Bool) :
    DateRangePreview :=
  ⟨host, range, .ofRange range, label, follows, []⟩

/-- The fields as someone who types leaves them. -/
def typed (fields : DateFields) : DateRangeEvent → DateFields
  | .typeFirst text => { fields with first := text }
  | .typeLast text => { fields with last := text }
  | .previousMonth | .thisMonth | .lastThirtyDays => fields

/-- Puts on record what an event asks for, and follows it on demand. -/
def handle (preview : DateRangePreview) (event : DateRangeEvent) : DateRangePreview :=
  match event.answer preview.range preview.host.browser.clock with
  | .range asked =>
    let noted := { preview with asked := preview.asked ++ [asked] }
    if preview.follows then { noted with range := asked, fields := .ofRange asked }
    else { noted with fields := typed preview.fields event }
  | .nothing => preview
  | .outOfCalendar => { preview with host := preview.host.perform .halt }

/-- The date fields on their stage. -/
def stage : Stage DateRangePreview DateRangeEvent where
  host := host
  setHost preview host := { preview with host }
  view preview := preview.fields.view preview.label
  handle := handle
  receive preview _ _ := preview

end DateRangePreview

end BillingConsole
