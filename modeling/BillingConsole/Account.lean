import BillingConsole.Role

/-!
# Accounts

## What is here

* `User` — a user as the gateway describes it.
* `SignInRequest`, `SignInAnswer`, `RefreshRequest`, `RefreshAnswer` — what is exchanged to obtain
  tokens.
-/

set_option autoImplicit false

namespace BillingConsole

/-- A user of the console. -/
structure User where
  id : String
  username : String
  fullName : Option String
  email : Option String
  role : Role
deriving DecidableEq

/-- Whether the billing pages are open to the user. -/
def User.isAdmin (user : User) : Bool := user.role.isAdmin

/-- What a user enters to sign in. -/
structure SignInRequest where
  username : String
  password : String
deriving DecidableEq

/-- What the gateway answers to a user who signed in. -/
structure SignInAnswer where
  accessToken : String
  refreshToken : String
  user : User
deriving DecidableEq

/-- The token a new access token is asked for with, or that is revoked. -/
structure RefreshRequest where
  refreshToken : String
deriving DecidableEq

/-- A new access token. -/
structure RefreshAnswer where
  accessToken : String
deriving DecidableEq

end BillingConsole
