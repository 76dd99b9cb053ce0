import BillingConsole.Account

/-!
# Sessions

Who is signed in, and what that opens.  Billing is open to a session that has both a token and a
user with a role that may see it.

## What is here

* `Session` — a token and a user, either of which may be missing.
* `Session.adminToken` — the token billing is asked for with.
* `Session.denial` — the notice shown instead of billing.
-/

set_option autoImplicit false

namespace BillingConsole

/-- Who is signed in. -/
structure Session where
  token : Option String
  user : Option User
deriving DecidableEq

namespace Session

/-- Nobody is signed in. -/
def signedOut : Session := ⟨none, none⟩

instance : Inhabited Session := ⟨signedOut⟩

/-- The role of the user. -/
def role (session : Session) : Option Role := session.user.map (·.role)

/-- Whether the user has a role that billing is open to. -/
def isAdmin (session : Session) : Bool :=
  match session.role with
  | some role => role.isAdmin
  | none => false

/-- The token, where billing is open to the user. -/
def adminToken (session : Session) : Option String :=
  if session.isAdmin then session.token else none

/-- What a session without access to billing is told. -/
def denialNotice : String := "Access denied. Ask your proxy admin for access to customer billing."

/-- The notice shown instead of billing, if billing is closed. -/
def denial (session : Session) : Option String :=
  match session.adminToken with
  | some _ => none
  | none => some denialNotice

end Session

end BillingConsole
