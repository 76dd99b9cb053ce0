import BillingConsole.Console.Basic

/-!
# The guard on its own

A secret under the top of the page, shown to sessions that billing is open to and to no other.

## What is here

* `GuardPreview` — the session and the browser.
* `Session.setFullName` — a session whose user has another full name.
-/

set_option autoImplicit false

namespace BillingConsole

/-- A session whose user has another full name. -/
def Session.setFullName (session : Session) (name : String) : Session :=
  { session with user := session.user.map fun user => { user with fullName := some name } }

/-- The session and the browser. -/
structure GuardPreview where
  host : Host
  session : Session

/-- Someone wants to sign out. -/
inductive GuardEvent where
  | signOut

namespace GuardPreview

/-- Forgets the tokens and signs out. -/
def endSession (preview : GuardPreview) : GuardPreview :=
  ⟨preview.host.perform .clearTokens, .signedOut⟩

/-- Signs out, once the gateway has answered if there is a refresh token to revoke. -/
def handle (preview : GuardPreview) : GuardEvent → GuardPreview
  | .signOut =>
    match preview.host.browser.refreshToken? with
    | some token => { preview with host := preview.host.perform (.send (.signOut token) .signOut) }
    | none => preview.endSession

/-- Signs out whatever the gateway answers. -/
def receive (preview : GuardPreview) (_ : Purpose) (reply : Reply) : GuardPreview :=
  match reply.signedOut with
  | .ok _ => preview.endSession
  | .error error =>
    { preview with host := preview.host.perform (signOutFailure error) }.endSession

/-- What is shown: the secret, or the notice that it is closed. -/
def content (session : Session) : View GuardEvent :=
  match session.denial with
  | none => .text "secret"
  | some notice => .blockText notice

/-- The guard on its stage. -/
def stage : Stage GuardPreview GuardEvent where
  host := host
  setHost preview host := { preview with host }
  view preview := .block [headerView preview.session .signOut, .block [content preview.session]]
  handle := handle
  receive := receive

end GuardPreview

end BillingConsole
