/-!
# Roles

The gateway names the role of a signed-in user by a code.  Some roles may open the billing pages;
a code the console does not know is kept as it is and opens nothing.

## What is here

* `Role` — the roles; `Role.code` and `Role.ofCode` go between a role and its code.
* `Role.displayName` — how a role is shown.
* `Role.isAdmin` — whether a role may open the billing pages.
-/

set_option autoImplicit false

namespace BillingConsole

/-- What a signed-in user may do. -/
inductive Role where
  | proxyAdmin
  | proxyAdminViewer
  | orgAdmin
  | internalUser
  | internalUserViewer
  /-- A role this console has no name for. -/
  | other (code : String)
deriving DecidableEq

namespace Role

instance : Inhabited Role := ⟨.other ""⟩

/-- The code the gateway uses. -/
def code : Role → String
  | proxyAdmin => "proxy_admin"
  | proxyAdminViewer => "proxy_admin_viewer"
  | orgAdmin => "org_admin"
  | internalUser => "internal_user"
  | internalUserViewer => "internal_user_viewer"
  | other code => code

/-- The name shown to people. -/
def displayName : Role → String
  | proxyAdmin => "Admin"
  | proxyAdminViewer => "Admin Viewer"
  | orgAdmin => "Org Admin"
  | internalUser => "Internal User"
  | internalUserViewer => "Internal Viewer"
  | other code => code

/-- Whether the billing pages are open to the role. -/
def isAdmin : Role → Bool
  | proxyAdmin | proxyAdminViewer | orgAdmin => true
  | internalUser | internalUserViewer | other _ => false

/-- The role with a code.  Two roles are also known by the name they are shown with. -/
def ofCode (code : String) : Role :=
  if code = "proxy_admin" ∨ code = "Admin" then proxyAdmin
  else if code = "proxy_admin_viewer" ∨ code = "Admin Viewer" then proxyAdminViewer
  else if code = "org_admin" then orgAdmin
  else if code = "internal_user" then internalUser
  else if code = "internal_user_viewer" then internalUserViewer
  else other code

end Role

end BillingConsole
