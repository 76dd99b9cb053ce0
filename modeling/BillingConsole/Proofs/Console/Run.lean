import BillingConsole.Console.Basic
import BillingConsole.Proofs.Console.Host
import Mathlib.Logic.Relation

/-!
# Runs of the console

Someone uses the controls on screen, the gateway answers requests in any order, and time passes,
until the console stops.

## What is here

* `Console.Step`, `Console.Reaches` — what may happen, once and any number of times.
* `Console.use_cases`, `Console.answer_cases` — which event a use comes to, and which request an
  answer is for.
* `Console.handle_cases`, `Console.receive_restore` and the others — all that an event and an answer
  can do.
* `Console.nextScreen_signIn`, `Console.nextScreen_ne_signIn`, `Console.nextScreen_of_signedOut` —
  when a change of the session leads to the form.
* `Console.extended_handle`, `Console.extended_receive` — what is done only sends more requests.
* `Console.grown_of_reaches` — requests keep their places, and what was answered stays so.
-/

set_option autoImplicit false

namespace BillingConsole

/-- The answer is about the session. -/
def Purpose.aboutSession : Purpose → Bool
  | .restore _ | .signIn _ | .signOut => true
  | .customers .. | .report .. | .detail .. => false

namespace Console

/-! ## Runs -/

/-- What may happen to a console that has not stopped. -/
inductive Step : Console → Console → Prop
  | used {console : Console} (live : console.host.halted = false) (action : Action) :
      Step console (console.use action).2
  | answered {console : Console} (live : console.host.halted = false) (place : Nat)
      (reply : Reply) : Step console (console.answer place reply).2
  | ticked {console : Console} (live : console.host.halted = false) (clock : Clock) :
      Step console (stage.setBrowser console { console.host.browser with clock })

/-- What any number of happenings lead to. -/
abbrev Reaches : Console → Console → Prop := Relation.ReflTransGen Step

/-- A use of a control does what the event of the control does, if it has one. -/
theorem use_cases (console : Console) (action : Action) :
    (console.use action).2 = console ∨
      ∃ event, (console.use action).2 = console.handle event := by
  rw [use, Stage.use]
  cases ((stage.view console).use action) with
  | mk result event? =>
    cases event? with
    | none => exact .inl rfl
    | some event => exact .inr ⟨event, rfl⟩

/-- An answer does something where a request waits for it. -/
theorem answer_cases (console : Console) (place : Nat) (reply : Reply) :
    (console.answer place reply).2 = console ∧ (∀ purpose, ¬ console.host.Waits place purpose) ∨
      ∃ purpose host, console.host.take place = .waiting purpose host ∧
        (console.answer place reply).2 = { console with host }.receive purpose reply := by
  have hnone : (∀ purpose host, console.host.take place ≠ .waiting purpose host) →
      ∀ purpose, ¬ console.host.Waits place purpose := by
    intro hnot purpose waits
    obtain ⟨host, htake⟩ := Host.take_of_waits waits
    exact hnot purpose host htake
  have hstage : (stage.host console).take place = console.host.take place := rfl
  rw [answer, Stage.answer, hstage]
  cases htake : console.host.take place with
  | missing => exact .inl ⟨rfl, hnone fun _ _ h => by rw [htake] at h; cases h⟩
  | alreadyAnswered => exact .inl ⟨rfl, hnone fun _ _ h => by rw [htake] at h; cases h⟩
  | waiting purpose host => exact .inr ⟨purpose, host, rfl, rfl⟩

/-- A request that waits takes an answer. -/
theorem answer_of_waits {console : Console} {place : Nat} {purpose : Purpose}
    (waits : console.host.Waits place purpose) (reply : Reply) :
    ∃ host, console.host.take place = .waiting purpose host ∧
      (console.answer place reply).2 = { console with host }.receive purpose reply := by
  rcases answer_cases console place reply with ⟨-, hnone⟩ | ⟨other, host, htake, heq⟩
  · exact absurd waits (hnone purpose)
  · obtain rfl := (Host.waits_of_take htake).purpose_eq waits
    exact ⟨host, htake, heq⟩

/-! ## Changes of the session -/

theorem setSession_session (console : Console) (session : Session) :
    (console.setSession session).session = session := rfl

theorem setSession_host (console : Console) (session : Session) :
    (console.setSession session).host = console.host.performAll (console.nextScreen session).2 :=
  rfl

/-- A form that is on screen after a change of the session was there before, or is a new one. -/
theorem nextScreen_signIn {console : Console} {session : Session} {form : SignInForm}
    (h : (console.nextScreen session).1 = .signIn form) :
    console.screen = .signIn form ∨ form.loading = false := by
  rw [nextScreen, openScreen] at h
  split at h
  · next hscreen _ => cases h; exact .inl hscreen
  · cases h
  · cases h
  · split at h
    · cases h; exact .inr rfl
    · cases h
    · split at h <;> cases h

/-- With a token there is no form. -/
theorem nextScreen_ne_signIn {console : Console} {session : Session} {token : String}
    (h : session.token = some token) (form : SignInForm) :
    (console.nextScreen session).1 ≠ .signIn form := by
  intro hscreen
  rw [nextScreen, openScreen, h] at hscreen
  split at hscreen
  · next htoken => cases htoken
  · cases hscreen
  · cases hscreen
  · split at hscreen
    · next htoken => cases htoken
    · cases hscreen
    · split at hscreen <;> cases hscreen

/-- Without a token there is the form. -/
theorem nextScreen_of_signedOut {console : Console} {session : Session}
    (h : session.token = none) : ∃ form, (console.nextScreen session).1 = .signIn form := by
  rw [nextScreen, openScreen]
  cases console.screen with
  | signIn form => rw [h]; exact ⟨form, rfl⟩
  | denied | billing => rw [h]; exact ⟨_, rfl⟩

/-! ## What an event does -/

/-- An event changes the form or the page that is on screen, or signs out. -/
theorem handle_cases (console : Console) (event : ConsoleEvent) :
    console.handle event = console ∨
    (∃ form entry, console.screen = .signIn form ∧ console.handle event =
      { console with screen := .signIn (form.update entry).1 }.perform (form.update entry).2) ∨
    (∃ page entry, console.screen = .billing page ∧ console.handle event = { console with
      screen := .billing (page.update console.host.browser console.session entry).1 }.perform
        (page.update console.host.browser console.session entry).2) ∨
    (∃ token, console.handle event = console.perform [.send (.signOut token) .signOut]) ∨
    console.handle event = console.endSession := by
  cases event with
  | form entry =>
    cases hscreen : console.screen with
    | signIn form => exact .inr (.inl ⟨form, entry, rfl, by simp only [handle, hscreen]⟩)
    | denied | billing => exact .inl (by simp only [handle, hscreen])
  | signOut =>
    refine .inr (.inr (.inr ?_))
    rw [handle, signOut]
    cases console.host.browser.refreshToken? with
    | some token => exact .inl ⟨token, rfl⟩
    | none => exact .inr rfl
  | billing entry =>
    cases hscreen : console.screen with
    | billing page => exact .inr (.inr (.inl ⟨page, entry, rfl, by simp only [handle, hscreen]⟩))
    | denied | signIn => exact .inl (by simp only [handle, hscreen])

/-! ## What an answer does -/

theorem receive_restore (console : Console) (stage : RestoreStage) (reply : Reply) :
    console.receive (.restore stage) reply =
      (console.perform (resumeRestore console.host.browser stage reply).2).setSession?
        (resumeRestore console.host.browser stage reply).1 := rfl

theorem receive_signIn_ok {reply : Reply} {answer : SignInAnswer}
    (h : reply.signedIn = .ok answer) (console : Console) (id : Nat) :
    console.receive (.signIn id) reply =
      (console.perform (signInEffects answer)).setSession answer.session := by
  simp only [receive, h]

theorem receive_signIn_error {reply : Reply} {error : ApiError}
    (h : reply.signedIn = .error error) (console : Console) (id : Nat) :
    console.receive (.signIn id) reply =
      (console.perform [.say .error (signInFailure error)]).failSignIn id error := by
  simp only [receive, h]

/-- Whatever the answer is, the session ends. -/
theorem receive_signOut (console : Console) (reply : Reply) :
    ∃ effects, console.receive .signOut reply = (console.perform effects).endSession := by
  cases h : reply.signedOut with
  | ok => exact ⟨[], by simp only [receive, h]; rfl⟩
  | error error => exact ⟨[signOutFailure error], by simp only [receive, h]⟩

/-- Any other answer is taken by the page that is on screen, if it is for that page. -/
theorem receive_page {purpose : Purpose} (h : purpose.aboutSession = false) (console : Console)
    (reply : Reply) :
    console.receive purpose reply = console ∨
      ∃ page, console.screen = .billing page ∧ console.receive purpose reply = { console with
        screen := .billing (page.receive console.host.browser.clock purpose reply).1 }.perform
          (page.receive console.host.browser.clock purpose reply).2 := by
  have hpage (id : Nat) : console.receiveOnPage id purpose reply = console ∨
      ∃ page, console.screen = .billing page ∧ console.receiveOnPage id purpose reply =
        { console with
          screen := .billing (page.receive console.host.browser.clock purpose reply).1 }.perform
            (page.receive console.host.browser.clock purpose reply).2 := by
    cases hscreen : console.screen with
    | signIn | denied => exact .inl (by simp only [receiveOnPage, hscreen])
    | billing page =>
      by_cases hid : page.id = id
      · exact .inr ⟨page, rfl, by simp only [receiveOnPage, hscreen, if_pos hid]⟩
      · exact .inl (by simp only [receiveOnPage, hscreen, if_neg hid])
  cases purpose with
  | restore | signIn | signOut => cases h
  | customers page | report page | detail page => exact hpage page

/-- A sign-in that failed is told on its form, if that is on screen. -/
theorem failSignIn_cases (console : Console) (id : Nat) (error : ApiError) :
    (console.failSignIn id error = console ∧
      ∀ form, console.screen = .signIn form → form.id ≠ id) ∨
    ∃ form, console.screen = .signIn form ∧ console.failSignIn id error = { console with
      screen := .signIn { form with error := some (signInFailure error), loading := false } } := by
  cases hscreen : console.screen with
  | signIn form =>
    by_cases hid : form.id = id
    · exact .inr ⟨form, rfl, by simp only [failSignIn, hscreen, if_pos hid]⟩
    · refine .inl ⟨by simp only [failSignIn, hscreen, if_neg hid], fun shown hshown => ?_⟩
      cases hshown
      exact hid
  | denied | billing =>
    exact .inl ⟨by simp only [failSignIn, hscreen], fun _ hshown => (nomatch hshown)⟩

/-! ## Requests during a run -/

theorem extended_perform (console : Console) (effects : List Effect) :
    Host.Extended console.host (console.perform effects).host :=
  Host.extended_performAll _ _

theorem extended_setSession (console : Console) (session : Session) :
    Host.Extended console.host (console.setSession session).host :=
  Host.extended_performAll _ _

theorem extended_endSession (console : Console) :
    Host.Extended console.host console.endSession.host :=
  (extended_perform console _).trans (extended_setSession (console.perform _) _)

theorem extended_handle (console : Console) (event : ConsoleEvent) :
    Host.Extended console.host (console.handle event).host := by
  rcases handle_cases console event with heq | ⟨form, entry, -, heq⟩ | ⟨page, entry, -, heq⟩ |
    ⟨token, heq⟩ | heq
  · rw [heq]; exact .refl _
  · rw [heq]; exact Host.extended_performAll _ _
  · rw [heq]; exact Host.extended_performAll _ _
  · rw [heq]; exact Host.extended_performAll _ _
  · rw [heq]; exact extended_endSession console

theorem extended_receive (console : Console) (purpose : Purpose) (reply : Reply) :
    Host.Extended console.host (console.receive purpose reply).host := by
  cases habout : purpose.aboutSession with
  | false =>
    rcases receive_page habout console reply with heq | ⟨page, -, heq⟩
    · rw [heq]; exact .refl _
    · rw [heq]; exact Host.extended_performAll _ _
  | true =>
    cases purpose with
    | restore stage =>
      rw [receive_restore]
      cases (resumeRestore console.host.browser stage reply).1 with
      | none => exact extended_perform console _
      | some session =>
        exact (extended_perform console _).trans (extended_setSession (console.perform _) session)
    | signIn id =>
      cases hreply : reply.signedIn with
      | ok answer =>
        rw [receive_signIn_ok hreply]
        exact (extended_perform console _).trans (extended_setSession (console.perform _) _)
      | error error =>
        rw [receive_signIn_error hreply]
        rcases failSignIn_cases (console.perform [.say .error (signInFailure error)]) id error with
          ⟨heq, -⟩ | ⟨form, -, heq⟩
        · rw [heq]; exact extended_perform console _
        · rw [heq]; exact extended_perform console _
    | signOut =>
      obtain ⟨effects, heq⟩ := receive_signOut console reply
      rw [heq]
      exact (extended_perform console _).trans (extended_endSession (console.perform _))
    | customers | report | detail => cases habout

theorem grown_of_step {console next : Console} (step : Step console next) :
    Host.Grown console.host next.host := by
  cases step with
  | used _ action =>
    rcases use_cases console action with heq | ⟨event, heq⟩
    · rw [heq]; exact .refl _
    · rw [heq]; exact (extended_handle console event).grown
  | answered _ place reply =>
    rcases answer_cases console place reply with ⟨heq, -⟩ | ⟨purpose, host, htake, heq⟩
    · rw [heq]; exact .refl _
    · rw [heq]
      exact (Host.grown_take htake).trans
        (extended_receive { console with host } purpose reply).grown
  | ticked => exact .refl _

/-- Requests keep their places, and what was answered stays so. -/
theorem grown_of_reaches {console next : Console} (h : Reaches console next) :
    Host.Grown console.host next.host := by
  induction h with
  | refl => exact .refl _
  | tail _ step ih => exact ih.trans (grown_of_step step)

end Console

end BillingConsole
