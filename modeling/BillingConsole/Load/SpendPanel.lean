import BillingConsole.Calendar.Range
import BillingConsole.Load.Outcome
import BillingConsole.Spend
import BillingConsole.Ticket

/-!
# Loading the spend report

The panel holds the range of dates, the page asked for and the report received, each changed on its
own: changing the dates asks for nothing until a load is started.

## What is here

* `SpendPanel` — the panel; `SpendPanel.start?` opens it on the default range.
* `SpendPanel.setRange`, `applyFilter`, `setPage`, `setPageSize`, `toggle` — what a user changes.
* `SpendPanel.beginLoad`, `SpendPanel.finishLoad` — loads, of which the latest wins.
-/

set_option autoImplicit false

namespace BillingConsole

/-- The state of the spend report. -/
structure SpendPanel where
  report : SpendReport
  first : Option Date
  last : Option Date
  /-- The page asked for, counted from one. -/
  page : UInt32
  pageSize : UInt32
  /-- The customers whose rows are expanded. -/
  expanded : List String
  loading : Bool
  /-- How many loads were taken over: a number without bound in place of one of 64 bits, for fewer
  than `2 ^ 64` loads. -/
  generation : Nat
  tickets : Tickets
deriving DecidableEq

namespace SpendPanel

/-- The page sizes offered. -/
def pageSizes : List UInt32 := [25, 50, 100, 200]

/-- The page size at first. -/
def defaultPageSize : UInt32 := 50

/-- The panel with a range of dates and nothing loaded. -/
def ofRange (first last : Date) : SpendPanel :=
  { report := .empty, first := some first, last := some last, page := 1,
    pageSize := defaultPageSize, expanded := [], loading := false, generation := 0, tickets := {} }

/-- The panel as it opens on a day, if the calendar has the days before. -/
def start? (today : Date) : Option SpendPanel :=
  (defaultWindow today).map fun (first, last) => ofRange first last

/-- Changes the range of dates. -/
def setRange (panel : SpendPanel) (first last : Option Date) : SpendPanel :=
  { panel with first, last }

/-- Goes back to the first page. -/
def applyFilter (panel : SpendPanel) : SpendPanel := { panel with page := 1 }

/-- Goes to a page. -/
def setPage (panel : SpendPanel) (page : UInt32) : SpendPanel := { panel with page := max page 1 }

/-- Changes the page size and goes back to the first page. -/
def setPageSize (panel : SpendPanel) (size : UInt32) : SpendPanel :=
  { panel with pageSize := max size 1, page := 1 }

/-- How many pages the report on screen has, at least one. -/
def totalPages (panel : SpendPanel) : UInt32 := max panel.report.totalPages 1

/-- The query for the range and the page. -/
def query (panel : SpendPanel) : SpendQuery :=
  (SpendQuery.forRange panel.first panel.last).withPage panel.page panel.pageSize

/-- The sums over the records on screen. -/
def totals (panel : SpendPanel) : SpendTotals := .ofRecords panel.report.records

/-- Whether the row of a customer is expanded. -/
def isExpanded (panel : SpendPanel) (id : String) : Bool := panel.expanded.contains id

/-- Expands the row of a customer, or closes it. -/
def toggle (panel : SpendPanel) (id : String) : SpendPanel :=
  { panel with
    expanded := if panel.isExpanded id then panel.expanded.filter (· ≠ id)
      else id :: panel.expanded }

/-- The expanded customers in the order of their ids. -/
def expandedIds (panel : SpendPanel) : List String :=
  panel.expanded.mergeSort fun a b => decide (a ≤ b)

/-- Starts a load: its ticket, the token to ask with and the query.  Without a token there is none,
and nothing changes. -/
def beginLoad (panel : SpendPanel) (token : Option String) :
    Option (Nat × String × SpendQuery × SpendPanel) :=
  token.map fun token =>
    let (ticket, tickets) := panel.tickets.issue
    (ticket, token, panel.query, { panel with loading := true, tickets })

/-- Ends a load.  The answer to any but the latest ticket is dropped. -/
def finishLoad (panel : SpendPanel) (ticket : Nat) (result : Except ApiError SpendReport) :
    LoadOutcome × SpendPanel :=
  if panel.tickets.isLatest ticket then
    match result with
    | .ok report =>
      (.applied, { panel with report, loading := false, generation := panel.generation + 1 })
    | .error error => (.failed error, { panel with loading := false })
  else (.stale, panel)

end SpendPanel

end BillingConsole
