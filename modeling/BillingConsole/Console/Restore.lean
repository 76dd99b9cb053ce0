import BillingConsole.Browser.Tokens
import BillingConsole.Console.Effect
import BillingConsole.Session

/-!
# Restoring a session

When the console starts with a stored access token it asks the gateway whose it is.  If the gateway
does not say, the stored refresh token is exchanged once for a new access token, and the gateway is
asked again.

## What is here

* `startRestore` — what is done first.
* `resumeRestore` — what is done with an answer, and the session if there is one.
-/

set_option autoImplicit false

namespace BillingConsole

/-- Asks whose an access token is. -/
def askUser (token : String) (stage : RestoreStage) : Effect :=
  .send (.currentUser token) (.restore stage)

/-- What is done first; without a stored access token nothing. -/
def startRestore (browser : Browser) : List Effect :=
  match browser.accessToken? with
  | some token => [askUser token (.checking token)]
  | none => []

/-- What is done with an answer, and the session if it is known now.  The stored tokens are removed
when there is no refresh token or it is not exchanged. -/
def resumeRestore (browser : Browser) (stage : RestoreStage) (reply : Reply) :
    Option Session × List Effect :=
  match stage with
  | .checking token =>
    match reply.user with
    | .ok user => (some ⟨some token, some user⟩, [])
    | .error error =>
      (none, .say .info ("Stored access token rejected: " ++ error.message) ::
        match browser.refreshToken? with
        | some refreshToken => [.send (.refresh refreshToken) (.restore .refreshing)]
        | none => [.clearTokens])
  | .refreshing =>
    match reply.refreshed with
    | .ok answer =>
      (none, [.saveToken Browser.accessTokenItem answer.accessToken,
        askUser answer.accessToken (.rechecking answer.accessToken)])
    | .error error =>
      (none, [.say .warn ("Token refresh failed: " ++ error.message), .clearTokens])
  | .rechecking token =>
    match reply.user with
    | .ok user => (some ⟨some token, some user⟩, [])
    | .error error =>
      (none, [.say .error ("Failed to load current user after refresh: " ++ error.message)])

end BillingConsole
