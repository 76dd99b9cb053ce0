import BillingConsole.Customer
import BillingConsole.Load.Outcome
import BillingConsole.Session
import BillingConsole.Ticket

/-!
# Loading the customers

## What is here

* `CustomerList` — the customers and the state of their loads.
* `CustomerList.beginLoad` — takes a ticket, where the session may see billing.
* `CustomerList.finishLoad` — takes over the answer to the latest ticket; a failure keeps what was
  loaded before.
-/

set_option autoImplicit false

namespace BillingConsole

/-- The customers and the state of their loads. -/
structure CustomerList where
  customers : List Customer
  loading : Bool
  lastRefreshed : Option String
  /-- How many loads were taken over: a number without bound in place of one of 64 bits, for fewer
  than `2 ^ 64` loads. -/
  generation : Nat
  tickets : Tickets
deriving DecidableEq

namespace CustomerList

/-- Nothing was loaded yet. -/
def empty : CustomerList := ⟨[], false, none, 0, {}⟩

instance : Inhabited CustomerList := ⟨empty⟩

/-- Starts a load: its ticket and the token to ask with.  Without access to billing there is none,
and nothing changes. -/
def beginLoad (list : CustomerList) (session : Session) :
    Option (Nat × String × CustomerList) :=
  session.adminToken.map fun token =>
    let (ticket, tickets) := list.tickets.issue
    (ticket, token, { list with loading := true, tickets })

/-- Ends a load.  The answer to any but the latest ticket is dropped. -/
def finishLoad (list : CustomerList) (ticket : Nat) (result : Except ApiError (List Customer))
    (refreshedAt : String) : LoadOutcome × CustomerList :=
  if list.tickets.isLatest ticket then
    match result with
    | .ok customers =>
      (.applied, { list with
        customers, loading := false, lastRefreshed := some refreshedAt,
        generation := list.generation + 1 })
    | .error error => (.failed error, { list with loading := false })
  else (.stale, list)

end CustomerList

end BillingConsole
