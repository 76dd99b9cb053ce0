import BillingConsole.Gateway.Error

/-!
# How a load ends

## What is here

* `LoadOutcome` — applied, failed, or superseded by a later load.
-/

set_option autoImplicit false

namespace BillingConsole

/-- How a load ended. -/
inductive LoadOutcome where
  /-- The data were taken over. -/
  | applied
  /-- The latest load failed, and the data from before are kept. -/
  | failed (error : ApiError)
  /-- A later load had been started, and the answer was dropped. -/
  | stale
deriving DecidableEq

end BillingConsole
