import BillingConsole.Console.Host
import BillingConsole.Screen.CustomerTable

/-!
# Loading customers without a page

## What is here

* `CustomerListPreview` — the loads of a session that changes, and how often what a page loads by
  has changed.
-/

set_option autoImplicit false

namespace BillingConsole

/-- The customers of a session. -/
structure CustomerListPreview where
  host : Host
  session : Session
  list : CustomerList
  /-- How often there was a new admin token, the first included. -/
  tokenRuns : Nat
  /-- How often there was a new token or role, the first included. -/
  keyRuns : Nat

namespace CustomerListPreview

/-- Nothing loaded yet in a session. -/
def ofSession (host : Host) (session : Session) : CustomerListPreview :=
  ⟨host, session, .empty, 1, 1⟩

/-- Asks for the customers. -/
def load (preview : CustomerListPreview) : CustomerListPreview :=
  let (list, effects) := preview.list.load preview.session 0
  { preview with list, host := preview.host.performAll effects }

/-- Takes an answer. -/
def receive (preview : CustomerListPreview) (purpose : Purpose) (reply : Reply) :
    CustomerListPreview :=
  match purpose with
  | .customers _ ticket =>
    let (list, effects) := preview.list.receive ticket reply preview.host.browser.clock.label
    { preview with list, host := preview.host.performAll effects }
  | _ => preview

/-- Changes the session. -/
def setSession (preview : CustomerListPreview) (session : Session) : CustomerListPreview :=
  let old := preview.session
  { preview with
    session
    tokenRuns := preview.tokenRuns + if old.adminToken = session.adminToken then 0 else 1
    keyRuns :=
      preview.keyRuns + if (old.token, old.role) = (session.token, session.role) then 0 else 1 }

end CustomerListPreview

end BillingConsole
