import BillingConsole.Browser.Tokens
import BillingConsole.Console.Effect
import BillingConsole.Session
import BillingConsole.Widget.StatCard

/-!
# Signing in and out

## What is here

* `SignInForm` — the form; `SignInForm.update` what an event does, `SignInForm.view` its view.
* `signInEffects` — what is done for someone who signed in.
* `signOutFailure` — what is logged when signing out fails.
* `headerView` — the top of the page, with the user and the way out.
-/

set_option autoImplicit false

namespace BillingConsole

/-- The form, by its number. -/
structure SignInForm where
  id : Nat
  username : String
  password : String
  error : Option String
  loading : Bool
deriving DecidableEq

/-- What the form is used for. -/
inductive SignInEvent where
  | typeUsername (text : String)
  | typePassword (text : String)
  | submit
deriving DecidableEq

namespace SignInForm

/-- An empty form. -/
def blank (id : Nat) : SignInForm := ⟨id, "", "", none, false⟩

/-- What an event does, and what is to be done. -/
def update (form : SignInForm) : SignInEvent → SignInForm × List Effect
  | .typeUsername text => ({ form with username := text }, [])
  | .typePassword text => ({ form with password := text }, [])
  | .submit =>
    ({ form with loading := true, error := none },
      [.send (.signIn ⟨form.username, form.password⟩) (.signIn form.id)])

/-- The view of the form. -/
def view (form : SignInForm) : View SignInEvent :=
  let enabled := !form.loading
  pageFrame "sys_login--system" "system" "login-container" [
    .element "h1" [] [.text "Gateway Console"],
    .element "h2" [] [.text "Sign in"],
    .block (form.error.toList.map .blockText),
    .form .submit [
      .block [.element "label" [] [.text "Username"],
        .field "text" form.username enabled .typeUsername],
      .block [.element "label" [] [.text "Password"],
        .field "password" form.password enabled .typePassword],
      .button none enabled none [.text (if form.loading then "Signing in..." else "Sign in")]]]

end SignInForm

/-- What is told of a sign-in that failed. -/
def signInFailure (error : ApiError) : String := "Login failed: " ++ error.message

/-- What is done for someone who signed in. -/
def signInEffects (answer : SignInAnswer) : List Effect :=
  [.saveToken Browser.accessTokenItem answer.accessToken,
    .saveToken Browser.refreshTokenItem answer.refreshToken,
    .say .info ("Signed in as " ++ answer.user.username ++ " (" ++ answer.user.role.code ++ ")")]

/-- What is logged when the gateway could not be told that someone signs out. -/
def signOutFailure (error : ApiError) : Effect :=
  .say .warn ("Logout request failed: " ++ error.message)

/-- The session of someone who signed in. -/
def SignInAnswer.session (answer : SignInAnswer) : Session :=
  ⟨some answer.accessToken, some answer.user⟩

/-- How the user of a session is named. -/
def Session.userLabel (session : Session) : String :=
  match session.user with
  | some user =>
    if user.role.displayName.isEmpty then user.username
    else user.username ++ " (" ++ user.role.displayName ++ ")"
  | none => "Guest"

/-- The top of the page, with an event for signing out. -/
def headerView {Event : Type} (session : Session) (signOut : Event) : View Event :=
  .block [
    .block [.span [.text "Proxy Admin Console"]],
    .block [
      .block [.icon "users", .span [.text session.userLabel]],
      .button (some "Log out") true (some signOut) [.icon "log-out"]]]

end BillingConsole
