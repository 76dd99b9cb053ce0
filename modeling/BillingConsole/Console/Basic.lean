import BillingConsole.Console.Restore
import BillingConsole.Console.Stage
import BillingConsole.Screen.Billing
import BillingConsole.Screen.SignIn

/-!
# The console

One session, one screen and the browser.  The session decides which screen there is: the form
without a token, a notice with a token that billing is closed to, and the billing page with one that
it is open to.

## What is here

* `Screen`, `Console` — the state.
* `Console.start` — the console as it opens in a browser, restoring the session.
* `Console.handle` — what a use of a control does.
* `Console.receive` — what an answer does.
* `Console.setSession` — what a change of the session does.
* `Console.view` — the view.
* `Console.use`, `Console.answer` — using a control, and answering a request.
-/

set_option autoImplicit false

namespace BillingConsole

/-- What is on screen. -/
inductive Screen where
  | signIn (form : SignInForm)
  | denied
  | billing (page : BillingPage)
deriving DecidableEq

/-- The console. -/
structure Console where
  host : Host
  session : Session
  screen : Screen
  /-- How many forms and pages were opened. -/
  opened : Nat
deriving DecidableEq

/-- What the console is used for. -/
inductive ConsoleEvent where
  | form (event : SignInEvent)
  | signOut
  | billing (event : BillingEvent)
deriving DecidableEq

namespace Console

/-- Does things. -/
def perform (console : Console) (effects : List Effect) : Console :=
  { console with host := console.host.performAll effects }

/-! ## The session -/

/-- The screen for a session, and what is to be done, where the one before does not serve. -/
def openScreen (browser : Browser) (id : Nat) (session : Session) : Screen × List Effect :=
  match session.token, session.adminToken with
  | none, _ => (.signIn (.blank id), [])
  | some _, none => (.denied, [])
  | some _, some _ =>
    match BillingPage.open? id session browser.clock with
    | some (page, effects) => (.billing page, effects)
    | none => (.denied, [.halt])

/-- The screen for a new session, and what is to be done.  A form, a notice or a page that is still
the right one stays open. -/
def nextScreen (console : Console) (session : Session) : Screen × List Effect :=
  match console.screen, session.token, session.adminToken with
  | .signIn form, none, _ => (.signIn form, [])
  | .denied, some _, none => (.denied, [])
  | .billing page, some _, some _ =>
    let (next, effects) := page.sessionChanged console.session session
    (.billing next, effects)
  | _, _, _ => openScreen console.host.browser console.opened session

/-- Changes the session. -/
def setSession (console : Console) (session : Session) : Console :=
  let (screen, effects) := console.nextScreen session
  { console with session, screen, opened := console.opened + 1 }.perform effects

/-- Changes the session if a new one is given. -/
def setSession? (console : Console) : Option Session → Console
  | some session => console.setSession session
  | none => console

/-- Forgets the tokens and signs out. -/
def endSession (console : Console) : Console :=
  (console.perform [.clearTokens]).setSession .signedOut

/-- Opens the console in a browser. -/
def start (browser : Browser) : Console :=
  let console : Console :=
    { host := { browser }, session := .signedOut, screen := .signIn (.blank 0), opened := 1 }
  console.perform (startRestore browser)

/-! ## Events -/

/-- Someone wants to sign out: the gateway is told if there is a refresh token to revoke. -/
def signOut (console : Console) : Console :=
  match console.host.browser.refreshToken? with
  | some token => console.perform [.send (.signOut token) .signOut]
  | none => console.endSession

/-- What a use of a control does. -/
def handle (console : Console) (event : ConsoleEvent) : Console :=
  match event, console.screen with
  | .form event, .signIn form =>
    let (form, effects) := form.update event
    { console with screen := .signIn form }.perform effects
  | .signOut, _ => console.signOut
  | .billing event, .billing page =>
    let (page, effects) := page.update console.host.browser console.session event
    { console with screen := .billing page }.perform effects
  | _, _ => console

/-! ## Answers -/

/-- Tells a form that signing in failed; it may have been closed meanwhile. -/
def failSignIn (console : Console) (id : Nat) (error : ApiError) : Console :=
  match console.screen with
  | .signIn form =>
    if form.id = id then
      { console with
        screen := .signIn { form with error := some (signInFailure error), loading := false } }
    else console
  | .denied | .billing _ => console

/-- Hands an answer to a page; it may have been closed meanwhile. -/
def receiveOnPage (console : Console) (id : Nat) (purpose : Purpose) (reply : Reply) : Console :=
  match console.screen with
  | .billing page =>
    if page.id = id then
      let (page, effects) := page.receive console.host.browser.clock purpose reply
      { console with screen := .billing page }.perform effects
    else console
  | .denied | .signIn _ => console

/-- What an answer does. -/
def receive (console : Console) (purpose : Purpose) (reply : Reply) : Console :=
  match purpose with
  | .restore stage =>
    let (session, effects) := resumeRestore console.host.browser stage reply
    (console.perform effects).setSession? session
  | .signIn form =>
    match reply.signedIn with
    | .ok answer => (console.perform (signInEffects answer)).setSession answer.session
    | .error error =>
      (console.perform [.say .error (signInFailure error)]).failSignIn form error
  | .signOut =>
    match reply.signedOut with
    | .ok _ => console.endSession
    | .error error =>
      (console.perform [signOutFailure error]).endSession
  | .customers page _ | .report page _ | .detail page _ _ =>
    console.receiveOnPage page purpose reply

/-! ## The view -/

/-- A page under the top of the console. -/
def shellView (session : Session) (content : View ConsoleEvent) : View ConsoleEvent :=
  .block [headerView session .signOut, .block [.block [content]]]

/-- The notice where billing is closed. -/
def noticeView {Event : Type} : View Event := .blockText Session.denialNotice

/-- The page for customers, around what is shown on it. -/
def customersPage (content : View ConsoleEvent) : View ConsoleEvent :=
  pageFrame "a001_customer--list" "list" "" [
    .block [.element "h1" [] [.text "Customers"]],
    .block [content]]

/-- The view of the console. -/
def view (console : Console) : View ConsoleEvent :=
  match console.screen with
  | .signIn form => form.view.map .form
  | .denied => shellView console.session (customersPage noticeView)
  | .billing page => shellView console.session (customersPage (page.view.map .billing))

/-- The console on its stage. -/
def stage : Stage Console ConsoleEvent where
  host := host
  setHost console host := { console with host }
  view := view
  handle := handle
  receive := receive

/-- Someone uses a control of the console. -/
def use (console : Console) (action : Action) : ActionResult × Console := stage.use console action

/-- The gateway answers a request of the console, counted from zero. -/
def answer (console : Console) (place : Nat) (reply : Reply) : Answered × Console :=
  stage.answer console place reply

end Console

end BillingConsole
