import BillingConsole.Browser.Basic
import BillingConsole.Gateway.Address

/-!
# Where the gateway is

## What is here

* `Browser.gatewayBase` — the base address of the gateway: the one set in the storage of the
  browser, or else where the console was loaded from.
-/

set_option autoImplicit false

namespace BillingConsole.Browser

/-- The name of the stored item that says where the gateway is. -/
def baseItem : String := "proxy_base_url"

/-- The base address of the gateway.  A stored one counts unless nothing is left of it once it is
normalized; without a window there is none. -/
def gatewayBase (browser : Browser) : String :=
  if browser.hasWindow then
    match (browser.stored? baseItem).map fun text => normalizeBase text.toList with
    | some (c :: rest) => String.ofList (c :: rest)
    | _ => String.ofList (normalizeBase (browser.origin.getD "").toList)
  else ""

end BillingConsole.Browser
