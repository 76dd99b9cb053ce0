import BillingConsole.Console.Stage
import BillingConsole.Screen.CustomerTable

/-!
# The table of customers on its own

The customers, the number of their load and whether they are being loaded are given from outside.

## What is here

* `CustomerTablePreview` — the table and what is given to it.
* `CustomerTablePreview.settle` — the rows after something given has changed.
-/

set_option autoImplicit false

namespace BillingConsole

/-- The table, and what is given to it. -/
structure CustomerTablePreview where
  host : Host
  table : CustomerTable
  customers : List Customer
  generation : Nat
  loading : Bool

namespace CustomerTablePreview

/-- Puts the customers into the rows of the table. -/
def settle (preview : CustomerTablePreview) : CustomerTablePreview :=
  { preview with table := preview.table.settle preview.customers preview.generation }

/-- Does what an event asks for. -/
def handle (preview : CustomerTablePreview) (event : CustomerTableEvent) : CustomerTablePreview :=
  let (table, effects) := preview.table.update preview.host.browser preview.customers event
  { preview with table, host := preview.host.performAll effects }.settle

/-- The table on its stage. -/
def stage : Stage CustomerTablePreview CustomerTableEvent where
  host := host
  setHost preview host := { preview with host }
  view preview := preview.table.view preview.customers preview.loading
  handle := handle
  receive preview _ _ := preview

end CustomerTablePreview

end BillingConsole
