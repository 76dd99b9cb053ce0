import BillingConsole.Export.Csv
import BillingConsole.Load.SpendPanel
import BillingConsole.Screen.Detail
import BillingConsole.Screen.Rows
import BillingConsole.Widget.DateRange
import BillingConsole.Widget.Pager
import BillingConsole.Widget.StatCard

/-!
# The spend report on screen

## What is here

* `SpendScreen` — the report with its fields, rows and dialog.
* `SpendScreen.put` — a change of the report, which writes the fields anew.
* `SpendScreen.load`, `SpendScreen.receive` — asking for the report and taking the answer.
* `SpendScreen.update` — what an event does.
* `SpendScreen.view` — the view.
-/

set_option autoImplicit false

namespace BillingConsole

/-- The report, what is in its fields, its rows and the dialog over it. -/
structure SpendScreen where
  panel : SpendPanel
  dates : DateFields
  sizeText : String
  rows : List (KeyedRow SpendRecord)
  dialog : DetailDialog
deriving DecidableEq

/-- What the report is used for. -/
inductive SpendEvent where
  | dates (event : DateRangeEvent)
  | applyFilter
  | exportReport
  | pager (event : PagerEvent)
  | toggle (customerId : String)
  | openDetail (customerId : String)
  | closeDetail
deriving DecidableEq

namespace SpendScreen

/-- The rows that would be made for the report now. -/
def freshRows (panel : SpendPanel) : List (KeyedRow SpendRecord) :=
  panel.report.records.map fun record => ⟨(panel.generation, record.customerId), record⟩

/-- Takes over a changed report.  Every change, whatever it concerns, writes the date fields and the
choice of the page size anew. -/
def put (screen : SpendScreen) (panel : SpendPanel) : SpendScreen :=
  { screen with
    panel
    dates := .ofRange (panel.first, panel.last)
    sizeText := pageSizeText panel.pageSize
    rows := keepRows screen.rows (freshRows panel) }

/-- The report before anything was loaded. -/
def ofPanel (panel : SpendPanel) : SpendScreen :=
  { panel, dates := .ofRange (panel.first, panel.last), sizeText := pageSizeText panel.pageSize,
    rows := freshRows panel, dialog := .closed }

/-- Asks for the report on behalf of a page. -/
def load (screen : SpendScreen) (token : Option String) (page : Nat) :
    SpendScreen × List Effect :=
  match screen.panel.beginLoad token with
  | some (ticket, token, query, next) =>
    (screen.put next, [.send (.report token query) (.report page ticket)])
  | none => (screen.put screen.panel, [])

/-- Takes the answer to a ticket. -/
def receive (screen : SpendScreen) (ticket : Nat) (reply : Reply) : SpendScreen × List Effect :=
  let (outcome, next) := screen.panel.finishLoad ticket reply.report
  (screen.put next, match outcome with
    | .applied =>
      [.say .info ("Loaded spend report: " ++
        String.ofList (digits10 next.report.records.length) ++ " customers")]
    | .failed error => [.say .error ("Failed to load spend report: " ++ error.message)]
    | .stale =>
      [.say .debug ("Dropped spend report response #" ++ String.ofList (digits10 ticket) ++
        ": superseded")])

/-- What an event does, and what is to be done. -/
def update (screen : SpendScreen) (browser : Browser) (token : Option String) (page : Nat) :
    SpendEvent → SpendScreen × List Effect
  | .dates event =>
    match event.answer (screen.panel.first, screen.panel.last) browser.clock with
    | .range (first, last) => (screen.put (screen.panel.setRange first last), [])
    | .nothing => (screen, [])
    | .outOfCalendar => (screen, [.halt])
  | .applyFilter => (screen.put screen.panel.applyFilter).load token page
  | .exportReport =>
    let run := browser.exportTable csvOfSpend screen.panel.report.records "customer_spend.csv"
    (screen, .saveFile run :: match run.error with
      | some error => [.say .warn ("Spend export skipped: " ++ error.message)]
      | none => [])
  | .pager event =>
    match event.ask? with
    | some (.page n) => (screen.put (screen.panel.setPage n)).load token page
    | some (.size n) => (screen.put (screen.panel.setPageSize n)).load token page
    | none =>
      match event with
      | .chooseSize text => ({ screen with sizeText := text }, [])
      | .goTo _ => (screen, [])
  | .toggle id => (screen.put (screen.panel.toggle id), [])
  | .openDetail id =>
    let (dialog, effects) := screen.dialog.openFor id token page
    ({ screen with dialog }, effects)
  | .closeDetail => ({ screen with dialog := screen.dialog.close }, [])

/-! ## The view -/

/-- What the pager shows. -/
def pager (screen : SpendScreen) : Pager :=
  { page := screen.panel.page, pages := screen.panel.totalPages,
    count := screen.panel.report.totalCustomers, size := screen.panel.pageSize,
    sizes := SpendPanel.pageSizes, enabled := !screen.panel.loading,
    sizeText := screen.sizeText }

/-- A row for what was spent on a model. -/
def modelView (entry : String × ModelSpend) : View SpendEvent :=
  .row [.cell [], .cellText entry.1, .cellText (usd entry.2.spend),
    .cellText (countText entry.2.requests.toNat), .cellText (countText entry.2.tokens.toNat)]

/-- The row of a customer, followed by rows for models while it is expanded. -/
def recordViews (expanded : Bool) (record : SpendRecord) : List (View SpendEvent) :=
  .row [
    .cell (if record.byModel.isEmpty then [] else
      [.plainButton (.toggle record.customerId)
        [.icon (if expanded then "chevron-down" else "chevron-right")]]),
    .cell [.link (.openDetail record.customerId) [.text record.customerId]],
    .cellText (textOrDash record.aliasName), .cellText (usd record.spend),
    .cellText (countText record.requests.toNat), .cellText (countText record.tokens.toNat)] ::
  if expanded then record.byModel.map modelView else []

/-- The totals under the rows. -/
def totalsView (totals : SpendTotals) : View SpendEvent :=
  totalsRow "" [.cell [], .cellText "Total", .cell [], .cellText (usd totals.spend),
    .cellText (countText totals.requests.toNat), .cellText (countText totals.tokens.toNat)]

/-- The cards with sums. -/
def cardViews (panel : SpendPanel) : List (View SpendEvent) :=
  [statCard "Total Spend" "dollar-sign" (usd panel.totals.spend) panel.loading,
    statCard "Total Requests" "activity" (countText panel.totals.requests.toNat) panel.loading,
    statCard "Total Tokens" "hash" (countText panel.totals.tokens.toNat) panel.loading,
    statCard "Customers" "users" (countText panel.report.totalCustomers.toNat) panel.loading]

/-- The view of the report. -/
def view (screen : SpendScreen) : View SpendEvent :=
  let panel := screen.panel
  let records := panel.report.records
  .block ([
    .block [
      (screen.dates.view (some "Period")).map .dates,
      .button none (!panel.loading) (some .applyFilter) [.icon "filter", .text " Apply Filter"],
      .button none (!records.isEmpty) (some .exportReport)
        [.icon "download", .text " Export CSV"]],
    screen.pager.view.map .pager,
    .block (cardViews panel),
    .table ["", "Customer ID", "Alias", "Spend", "Requests", "Tokens"]
      ((if !panel.loading && records.isEmpty then [.row [.cellText "No spend in this period"]]
        else []) ++
        (screen.rows.flatMap fun row =>
          recordViews (panel.isExpanded row.item.customerId) row.item) ++
        (if records.isEmpty then [] else [totalsView panel.totals]))] ++
    screen.dialog.view .closeDetail)

end SpendScreen

end BillingConsole
