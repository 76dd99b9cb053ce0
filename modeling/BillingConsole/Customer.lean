import BillingConsole.Money
import BillingConsole.Text.Lowercase

/-!
# Customers

A customer is someone the gateway bills.  A budget may be attached to a customer, and a budget may
set a ceiling.

## What is here

* `Budget`, `Customer` — a customer as the gateway lists it.
* `Customer.status`, `Customer.maxBudget` — what the list shows of it.
* `Customer.isFoundBy`, `searchCustomers` — searching the list without regard to case.
* `customerCountLabel` — how many customers are shown.
-/

set_option autoImplicit false

namespace BillingConsole

/-- A budget: ceilings for spending and for usage per minute, and how long they hold. -/
structure Budget where
  maxBudget : Option Binary64
  softBudget : Option Binary64
  tokensPerMinute : Option Int64
  requestsPerMinute : Option Int64
  duration : Option String
deriving DecidableEq

/-- A customer of the gateway. -/
structure Customer where
  id : String
  aliasName : Option String
  spend : Binary64
  blocked : Bool
  allowedRegion : Option String
  defaultModel : Option String
  budgetId : Option String
  budget : Option Budget
deriving DecidableEq

/-- Whether a customer may use the gateway. -/
inductive CustomerStatus where
  | active
  | blocked
deriving DecidableEq

/-- The word for a status. -/
def CustomerStatus.label : CustomerStatus → String
  | active => "Active"
  | blocked => "Blocked"

namespace Customer

/-- Whether the customer may use the gateway. -/
def status (customer : Customer) : CustomerStatus :=
  if customer.blocked then .blocked else .active

/-- The ceiling for spending, if there is a budget that sets one. -/
def maxBudget (customer : Customer) : Option Binary64 :=
  customer.budget.bind (·.maxBudget)

/-- Whether a text in lower case occurs in the id or the alias, both put into lower case. -/
def isFoundBy (needle : List Char) (customer : Customer) : Bool :=
  occursIn needle (lowercase customer.id.toList) ||
    match customer.aliasName with
    | some name => occursIn needle (lowercase name.toList)
    | none => false

end Customer

/-- The customers whose id or alias contains the search text without regard to case, in their
order.  White space is searched for like any other character. -/
def searchCustomers (search : String) (customers : List Customer) : List Customer :=
  if search.isEmpty then customers
  else customers.filter (·.isFoundBy (lowercase search.toList))

/-- How many customers are shown, and of how many if some are not. -/
def customerCountLabel (shown total : Nat) : String :=
  let noun := if shown = 1 then " customer" else " customers"
  let count := String.ofList (digits10 shown) ++ noun
  if shown = total then count
  else count ++ " (filtered from " ++ String.ofList (digits10 total) ++ ")"

end BillingConsole
