import BillingConsole.Gateway.Address
import BillingConsole.Gateway.Error
import BillingConsole.Wire.Account
import BillingConsole.Wire.Customer
import BillingConsole.Wire.Spend

/-!
# Requests to the gateway and their answers

## What is here

* `Call` — what the console can ask for.
* `Call.request` — the request for it: method, address, headers and body.
* `Reply` — what came back.
* `Reply.decode` — the value in an answer, or why there is none; `Reply.customers`,
  `Reply.report` and the others for what each call asks for.
-/

set_option autoImplicit false

namespace BillingConsole

/-- A request as sent. -/
structure Request where
  method : String
  url : String
  headers : List (String × String)
  body : Option String
deriving DecidableEq

/-- What the console asks the gateway for. -/
inductive Call where
  | customers (token : String)
  | report (token : String) (query : SpendQuery)
  | detail (token : String) (customerId : String)
  | currentUser (token : String)
  | signIn (credentials : SignInRequest)
  | refresh (refreshToken : String)
  | signOut (refreshToken : String)
deriving DecidableEq

/-- The header that carries an access token. -/
def bearer (token : String) : String := "Bearer " ++ token

/-- A request that reads something with an access token. -/
def Request.reading (base path token : String) : Request :=
  ⟨"GET", base ++ path, [("Authorization", bearer token)], none⟩

/-- A request that sends a value. -/
def Request.posting (base path : String) (body : Json.Value) : Request :=
  ⟨"POST", base ++ path, [("Content-Type", "application/json")], some body.toText⟩

/-- The request for a call, at a base address. -/
def Call.request (base : String) : Call → Request
  | customers token => .reading base customerListPath token
  | report token query => .reading base (spendReportPath query) token
  | detail token customerId => .reading base (customerSpendPath customerId) token
  | currentUser token => .reading base "/auth/me" token
  | signIn credentials => .posting base "/auth/login" credentials.encode
  | refresh token => .posting base "/auth/refresh" (RefreshRequest.encode ⟨token⟩)
  | signOut token => .posting base "/auth/logout" (RefreshRequest.encode ⟨token⟩)

/-- What came back for a request. -/
inductive Reply where
  | answered (status : Nat) (body : String)
  | lost (reason : String)
deriving DecidableEq

namespace Reply

/-- The body of an answer that is no failure. -/
def body : Reply → Except ApiError String
  | answered status body =>
    match statusError? status with
    | some error => .error error
    | none => .ok body
  | lost reason => .error (.unreachable reason)

/-- The value in an answer. -/
def decode {α : Type} (reply : Reply) (decoder : Json.Decoder α) : Except ApiError α := do
  let body ← reply.body
  match Json.decode decoder body with
  | .ok value => .ok value
  | .error error => .error (.unreadable error.message)

/-- The customers that were asked for. -/
def customers (reply : Reply) : Except ApiError (List Customer) :=
  reply.decode Customer.listDecoder

/-- The page of a report that was asked for. -/
def report (reply : Reply) : Except ApiError SpendReport := reply.decode SpendReport.decoder

/-- The spending of one customer that was asked for. -/
def detail (reply : Reply) : Except ApiError SpendDetail := reply.decode SpendDetail.decoder

/-- The user that was asked for. -/
def user (reply : Reply) : Except ApiError User := reply.decode User.decoder

/-- The tokens and the user of someone who signed in. -/
def signedIn (reply : Reply) : Except ApiError SignInAnswer := reply.decode SignInAnswer.decoder

/-- The new access token that was asked for. -/
def refreshed (reply : Reply) : Except ApiError RefreshAnswer := reply.decode RefreshAnswer.decoder

/-- Whether someone could be signed out. -/
def signedOut (reply : Reply) : Except ApiError Unit := reply.body.map fun _ => ()

end Reply

end BillingConsole
