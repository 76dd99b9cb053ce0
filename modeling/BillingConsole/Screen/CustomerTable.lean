import BillingConsole.Console.Effect
import BillingConsole.Export.Csv
import BillingConsole.Load.CustomerList
import BillingConsole.Screen.Rows
import BillingConsole.View.Basic

/-!
# The table of customers

## What is here

* `CustomerTable` — the search text and the rows.
* `CustomerTable.settle` — the rows after a change.
* `CustomerTable.update` — what an event does.
* `CustomerTable.view` — the view.
* `CustomerList.load`, `CustomerList.receive` — asking for the customers and taking the answer.
-/

set_option autoImplicit false

namespace BillingConsole

/-! ## Asking for customers -/

namespace CustomerList

/-- Asks for the customers on behalf of a page. -/
def load (list : CustomerList) (session : Session) (page : Nat) : CustomerList × List Effect :=
  match list.beginLoad session with
  | some (ticket, token, next) => (next, [.send (.customers token) (.customers page ticket)])
  | none => (list, [.say .debug "Customers not loaded: no admin session"])

/-- Takes the answer to a ticket. -/
def receive (list : CustomerList) (ticket : Nat) (reply : Reply) (refreshedAt : String) :
    CustomerList × List Effect :=
  let (outcome, next) := list.finishLoad ticket reply.customers refreshedAt
  (next, match outcome with
    | .applied =>
      [.say .info ("Loaded " ++ String.ofList (digits10 next.customers.length) ++ " customers")]
    | .failed error => [.say .error ("Failed to load customers: " ++ error.message)]
    | .stale =>
      [.say .debug ("Dropped customer list response #" ++ String.ofList (digits10 ticket) ++
        ": superseded")])

end CustomerList

/-! ## The table -/

/-- The search text and the rows of the table. -/
structure CustomerTable where
  search : String
  rows : List (KeyedRow Customer)
deriving DecidableEq

/-- What the table is used for. -/
inductive CustomerTableEvent where
  | typeSearch (text : String)
  | clearSearch
  | exportShown
deriving DecidableEq

namespace CustomerTable

/-- No search and no rows. -/
def empty : CustomerTable := ⟨"", []⟩

instance : Inhabited CustomerTable := ⟨empty⟩

/-- The customers that the search finds. -/
def shown (table : CustomerTable) (customers : List Customer) : List Customer :=
  searchCustomers table.search customers

/-- The rows that would be made for customers now. -/
def freshRows (table : CustomerTable) (customers : List Customer) (generation : Nat) :
    List (KeyedRow Customer) :=
  (table.shown customers).map fun customer => ⟨(generation, customer.id), customer⟩

/-- The table after the customers or the search have changed. -/
def settle (table : CustomerTable) (customers : List Customer) (generation : Nat) :
    CustomerTable :=
  { table with rows := keepRows table.rows (table.freshRows customers generation) }

/-- What an event does to the search, and what is to be done. -/
def update (table : CustomerTable) (browser : Browser) (customers : List Customer) :
    CustomerTableEvent → CustomerTable × List Effect
  | .typeSearch text => ({ table with search := text }, [])
  | .clearSearch => ({ table with search := "" }, [])
  | .exportShown =>
    let run := browser.exportTable csvOfCustomers (table.shown customers) "customers.csv"
    (table, .saveFile run :: match run.error with
      | some error => [.say .warn ("Customer export skipped: " ++ error.message)]
      | none => [])

/-- The row of a customer. -/
def rowView (customer : Customer) : View CustomerTableEvent :=
  .row [.cellText customer.id, .cellText (textOrDash customer.aliasName),
    .cellText (usd customer.spend), .cellText (usdOrDash customer.maxBudget),
    .cellText customer.status.label, .cellText (textOrDash customer.allowedRegion),
    .cellText (textOrDash customer.defaultModel)]

/-- The view of the search and the table. -/
def view (table : CustomerTable) (customers : List Customer) (loading : Bool) :
    View CustomerTableEvent :=
  let shown := table.shown customers
  .block [
    .block [.icon "filter", .span [.text "Search"]],
    .blockText (customerCountLabel shown.length customers.length),
    .block [.button none (!shown.isEmpty) (some .exportShown)
      [.icon "download", .text " Export CSV"]],
    .block [.field "text" table.search true .typeSearch],
    .plainButton .clearSearch [.text "Clear"],
    .table ["Customer ID", "Alias", "Spend", "Max Budget", "Status", "Allowed Region",
        "Default Model"]
      ((if loading && customers.isEmpty then
          [.row [.cell [.block [.span [.text "Loading customers..."]]]]] else []) ++
        (if !loading && shown.isEmpty then [.row [.cellText "No customers found"]] else []) ++
        table.rows.map fun row => rowView row.item)]

end CustomerTable

end BillingConsole
