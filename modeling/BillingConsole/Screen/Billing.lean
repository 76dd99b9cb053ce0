import BillingConsole.Screen.CustomerTable
import BillingConsole.Screen.Spend

/-!
# The billing page

Two panels, the customers and the spend report, of which one is shown.  Both load when the page is
opened, and again when the session they load with changes.

## What is here

* `BillingPage` — the page; `BillingPage.open?` opens it.
* `BillingPage.update` — what an event does.
* `BillingPage.receive` — what an answer does.
* `BillingPage.sessionChanged` — what a change of the session does.
* `BillingPage.view` — the view.
-/

set_option autoImplicit false

namespace BillingConsole

/-- Which panel is shown. -/
inductive Tab where
  | customers
  | spend
deriving DecidableEq

/-- The page, by its number. -/
structure BillingPage where
  id : Nat
  tab : Tab
  list : CustomerList
  table : CustomerTable
  spend : SpendScreen
deriving DecidableEq

/-- What the page is used for. -/
inductive BillingEvent where
  | showTab (tab : Tab)
  | refresh
  | table (event : CustomerTableEvent)
  | spend (event : SpendEvent)
deriving DecidableEq

namespace BillingPage

/-- Puts the customers into the rows of their table. -/
def settle (page : BillingPage) : BillingPage :=
  { page with table := page.table.settle page.list.customers page.list.generation }

/-- Asks for the customers. -/
def loadList (page : BillingPage) (session : Session) : BillingPage × List Effect :=
  let (list, effects) := page.list.load session page.id
  ({ page with list }.settle, effects)

/-- Asks for the report. -/
def loadReport (page : BillingPage) (session : Session) : BillingPage × List Effect :=
  let (spend, effects) := page.spend.load session.adminToken page.id
  ({ page with spend }, effects)

/-- Asks again for what the dialog shows. -/
def loadDetail (page : BillingPage) (session : Session) : BillingPage × List Effect :=
  let (dialog, effects) := page.spend.dialog.load session.adminToken page.id
  ({ page with spend := { page.spend with dialog } }, effects)

/-- Does something to a page after something else. -/
def andThen (before : BillingPage × List Effect) (next : BillingPage → BillingPage × List Effect) :
    BillingPage × List Effect :=
  let (page, effects) := next before.1
  (page, before.2 ++ effects)

/-- Opens the page and asks for the customers and the report.  The report needs the last thirty
days. -/
def open? (id : Nat) (session : Session) (clock : Clock) : Option (BillingPage × List Effect) :=
  (clock.today?.bind SpendPanel.start?).map fun panel =>
    let page : BillingPage := ⟨id, .customers, .empty, .empty, .ofPanel panel⟩
    andThen (page.loadList session) (·.loadReport session)

/-- What a change of the session does to a page that stays open.  The customers belong to a token
and a role, the report and the dialog to the token alone. -/
def sessionChanged (page : BillingPage) (old new : Session) : BillingPage × List Effect :=
  let listed :=
    if (old.token, old.role) = (new.token, new.role) then (page, []) else page.loadList new
  if old.adminToken = new.adminToken then listed
  else andThen (andThen listed (·.loadReport new)) (·.loadDetail new)

/-- What an event does, and what is to be done. -/
def update (page : BillingPage) (browser : Browser) (session : Session) :
    BillingEvent → BillingPage × List Effect
  | .showTab tab => ({ page with tab }, [])
  | .refresh => page.loadList session
  | .table event =>
    let (table, effects) := page.table.update browser page.list.customers event
    ({ page with table }.settle, effects)
  | .spend event =>
    let (spend, effects) := page.spend.update browser session.adminToken page.id event
    ({ page with spend }, effects)

/-- Takes an answer that was asked for by this page. -/
def receive (page : BillingPage) (clock : Clock) (purpose : Purpose) (reply : Reply) :
    BillingPage × List Effect :=
  match purpose with
  | .customers _ ticket =>
    let (list, effects) := page.list.receive ticket reply clock.label
    ({ page with list }.settle, effects)
  | .report _ ticket =>
    let (spend, effects) := page.spend.receive ticket reply
    ({ page with spend }, effects)
  | .detail _ ticket id =>
    let (dialog, effects) := page.spend.dialog.receive ticket id reply
    ({ page with spend := { page.spend with dialog } }, effects)
  | .restore _ | .signIn _ | .signOut => (page, [])

/-! ## The view -/

/-- A button that shows a panel. -/
def tabButton (tab : Tab) (title icon : String) : View BillingEvent :=
  .plainButton (.showTab tab) [.span [.icon icon], .text title]

/-- When the customers were loaded, and the button to load them again. -/
def refreshView (list : CustomerList) : View BillingEvent :=
  .block [
    .span [.text (match list.lastRefreshed with
      | some time => "Last refreshed: " ++ time
      | none => "Not loaded yet")],
    .button none (!list.loading) (some .refresh)
      [.icon "refresh", .text (if list.loading then " Loading..." else " Refresh")]]

/-- The view of the panels; the one that is not chosen is not shown. -/
def view (page : BillingPage) : View BillingEvent :=
  .block [
    .block [tabButton .customers "Customers" "users",
      tabButton .spend "Spend Report" "dollar-sign"],
    refreshView page.list,
    match page.tab with
    | .customers => (page.table.view page.list.customers page.list.loading).map .table
    | .spend => page.spend.view.map .spend]

end BillingPage

end BillingConsole
