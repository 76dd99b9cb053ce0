import BillingConsole.Number.Fixed

/-!
# What can go wrong with a request

## What is here

* `ApiError` — the causes, and `ApiError.message` their wording.
* `statusError?` — which answers are failures; the status 401 means that the session is gone.
-/

set_option autoImplicit false

namespace BillingConsole

/-- Why a request had no usable answer. -/
inductive ApiError where
  | notAuthenticated
  | unreachable (reason : String)
  | refused (status : Nat)
  | unreadable (reason : String)
  | unwritable (reason : String)
deriving DecidableEq

/-- The wording. -/
def ApiError.message : ApiError → String
  | notAuthenticated => "Not authenticated"
  | unreachable reason => "Failed to send request: " ++ reason
  | refused status => "Request failed with status " ++ String.ofList (digits10 status)
  | unreadable reason => "Failed to parse response: " ++ reason
  | unwritable reason => "Failed to serialize request: " ++ reason

/-- The failure that a status stands for, if it stands for one. -/
def statusError? (status : Nat) : Option ApiError :=
  if 200 ≤ status ∧ status ≤ 299 then none
  else if status = 401 then some .notAuthenticated
  else some (.refused status)

end BillingConsole
