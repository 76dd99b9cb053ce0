import BillingConsole.Proofs.Console.Run
import BillingConsole.Proofs.Gateway.Reply

/-!
# The form on screen

Without a token the form is on screen.  While it is loading, the request it has sent waits for its
answer, so from any moment on someone can be signed in.

## What is here

* `Console.FormHolds` — the invariant; `Console.FormHolds.handle`, `Console.FormHolds.receive` and
  `Console.FormHolds.receive_signIn` say that whatever happens keeps it.
* `Console.FormHolds.reaches` — it holds all along a run.
* `Console.use_submit` — a form that is not loading can be submitted.
* `Console.exists_signedIn` — someone signs in, and other requests go on waiting.
-/

set_option autoImplicit false

namespace BillingConsole

namespace Console

/-! ## The invariant -/

/-- A form that is loading waits for someone to be signed in. -/
def FormWaits (console : Console) : Prop :=
  ∀ form, console.screen = .signIn form → form.loading = true →
    ∃ place, console.host.Waits place (.signIn form.id)

/-- What holds of every console that was opened in a browser. -/
structure FormHolds (console : Console) : Prop where
  /-- Without a token the form is on screen. -/
  shown : console.session.token = none → ∃ form, console.screen = .signIn form
  waits : console.FormWaits

theorem FormWaits.perform {console : Console} (h : console.FormWaits) (effects : List Effect) :
    (console.perform effects).FormWaits := by
  intro form hscreen hloading
  obtain ⟨place, waits⟩ := h form hscreen hloading
  exact ⟨place, (Host.extended_performAll _ effects).waits waits⟩

theorem FormHolds.perform {console : Console} (h : console.FormHolds) (effects : List Effect) :
    (console.perform effects).FormHolds :=
  ⟨h.shown, h.waits.perform effects⟩

/-- A change of the session brings up the right screen. -/
theorem FormWaits.setSession {console : Console} (h : console.FormWaits) (session : Session) :
    (console.setSession session).FormHolds where
  shown hnone := nextScreen_of_signedOut hnone
  waits form hscreen hloading := by
    rcases nextScreen_signIn hscreen with hbefore | hblank
    · obtain ⟨place, waits⟩ := h form hbefore hloading
      exact ⟨place, (Host.extended_performAll _ _).waits waits⟩
    · rw [hblank] at hloading
      cases hloading

theorem FormWaits.endSession {console : Console} (h : console.FormWaits) :
    console.endSession.FormHolds :=
  (h.perform _).setSession _

/-- Where a page is on screen another one may be. -/
theorem FormHolds.billing {console : Console} (h : console.FormHolds) {page : BillingPage}
    (hscreen : console.screen = .billing page) (next : BillingPage) :
    { console with screen := .billing next }.FormHolds := by
  refine ⟨fun hnone => ?_, ?_⟩
  · obtain ⟨form, hform⟩ := h.shown hnone
    rw [hscreen] at hform
    cases hform
  · intro form hform
    cases hform

theorem formHolds_start (browser : Browser) : (start browser).FormHolds := by
  refine FormHolds.perform ⟨fun _ => ⟨_, rfl⟩, fun form hscreen hloading => ?_⟩ _
  cases hscreen
  cases hloading

theorem FormHolds.handle {console : Console} (h : console.FormHolds) (event : ConsoleEvent) :
    (console.handle event).FormHolds := by
  rcases handle_cases console event with heq | ⟨form, entry, hscreen, heq⟩ |
    ⟨page, entry, hscreen, heq⟩ | ⟨token, heq⟩ | heq
  · rw [heq]
    exact h
  · rw [heq]
    refine ⟨fun _ => ⟨_, rfl⟩, ?_⟩
    rintro _ hform hloading
    cases hform
    cases entry with
    | typeUsername | typePassword =>
      obtain ⟨place, waits⟩ := h.waits form hscreen hloading
      exact ⟨place, (Host.extended_performAll _ _).waits waits⟩
    | submit => exact ⟨_, Host.waits_send _ _ _⟩
  · rw [heq]
    exact (h.billing hscreen _).perform _
  · rw [heq]
    exact h.perform _
  · rw [heq]
    exact h.waits.endSession

/-- The form goes on waiting while another request is answered. -/
theorem FormHolds.take {console : Console} (h : console.FormHolds) {place : Nat}
    {purpose : Purpose} {host : Host} (htake : console.host.take place = .waiting purpose host)
    (hother : ∀ form, console.screen = .signIn form → purpose ≠ .signIn form.id) :
    { console with host }.FormHolds := by
  refine ⟨h.shown, fun form hscreen hloading => ?_⟩
  obtain ⟨waited, waits⟩ := h.waits form hscreen hloading
  refine ⟨waited, waits.take htake fun heq => ?_⟩
  subst heq
  exact hother form hscreen ((Host.waits_of_take htake).purpose_eq waits)

theorem FormHolds.receive {console : Console} (h : console.FormHolds) {purpose : Purpose}
    (hpurpose : ∀ id, purpose ≠ .signIn id) (reply : Reply) :
    (console.receive purpose reply).FormHolds := by
  cases habout : purpose.aboutSession with
  | false =>
    rcases receive_page habout console reply with heq | ⟨page, hscreen, heq⟩
    · rw [heq]
      exact h
    · rw [heq]
      exact (h.billing hscreen _).perform _
  | true =>
    cases purpose with
    | restore stage =>
      rw [receive_restore]
      cases (resumeRestore console.host.browser stage reply).1 with
      | none => exact h.perform _
      | some session => exact (h.perform _).waits.setSession session
    | signIn id => exact absurd rfl (hpurpose id)
    | signOut =>
      obtain ⟨effects, heq⟩ := receive_signOut console reply
      rw [heq]
      exact (h.perform _).waits.endSession
    | customers | report | detail => cases habout

/-- An answer to someone who signs in closes the form, or says on it that it failed. -/
theorem FormHolds.receive_signIn {console : Console} (h : console.FormHolds) {place id : Nat}
    {host : Host} (htake : console.host.take place = .waiting (.signIn id) host) (reply : Reply) :
    ({ console with host }.receive (.signIn id) reply).FormHolds := by
  cases hreply : reply.signedIn with
  | ok answer =>
    rw [receive_signIn_ok hreply]
    refine ⟨fun hnone => (nomatch hnone), fun form hscreen => ?_⟩
    exact absurd hscreen (nextScreen_ne_signIn rfl form)
  | error error =>
    rw [receive_signIn_error hreply]
    rcases failSignIn_cases ({ console with host }.perform [.say .error (signInFailure error)]) id
      error with ⟨heq, hother⟩ | ⟨form, -, heq⟩
    · -- a form that is still loading is another one, and waits for its own answer
      have hne (form : SignInForm) (hscreen : console.screen = .signIn form) :
          (.signIn id : Purpose) ≠ .signIn form.id := fun hid =>
        hother form hscreen (Purpose.signIn.inj hid).symm
      rw [heq]
      exact (h.take htake hne).perform _
    · rw [heq]
      refine ⟨fun _ => ⟨_, rfl⟩, fun shown hshown hloading => ?_⟩
      cases hshown
      cases hloading

theorem FormHolds.step {console next : Console} (h : console.FormHolds)
    (step : Step console next) : next.FormHolds := by
  cases step with
  | used _ action =>
    rcases use_cases console action with heq | ⟨event, heq⟩
    · rw [heq]; exact h
    · rw [heq]; exact h.handle event
  | answered _ place reply =>
    rcases answer_cases console place reply with ⟨heq, -⟩ | ⟨purpose, host, htake, heq⟩
    · rw [heq]; exact h
    · rw [heq]
      by_cases hpurpose : ∃ form, purpose = .signIn form
      · obtain ⟨form, rfl⟩ := hpurpose
        exact h.receive_signIn htake reply
      · have hne : ∀ form, purpose ≠ .signIn form := fun form heq => hpurpose ⟨form, heq⟩
        exact (h.take htake fun form _ => hne form.id).receive hne reply
  | ticked => exact ⟨h.shown, h.waits⟩

theorem FormHolds.reaches {console later : Console} (h : console.FormHolds)
    (reaches : Reaches console later) : later.FormHolds := by
  induction reaches with
  | refl => exact h
  | tail _ step ih => exact ih.step step

/-! ## Signing in -/

/-- A form that is not loading can be submitted. -/
theorem use_submit {console : Console} {form : SignInForm} (hscreen : console.screen = .signIn form)
    (hloading : form.loading = false) :
    (console.use .submit).2 = { console with
      screen := .signIn { form with loading := true, error := none } }.perform
        [.send (.signIn ⟨form.username, form.password⟩) (.signIn form.id)] := by
  have hview : stage.view console = form.view.map .form := by simp only [stage, view, hscreen]
  have hbutton : (form.view.map ConsoleEvent.form).use .submit =
      (.done, some (.form .submit)) := by
    obtain ⟨id, username, password, error, loading⟩ := form
    subst hloading
    cases error <;> rfl
  have hevent : (console.use .submit).2 = console.handle (.form .submit) := by
    rw [use, Stage.use, hview, hbutton]
    rfl
  rw [hevent]
  simp only [Console.handle, hscreen]
  rfl

/-- Someone who is signed in without access to billing gets the notice, and nothing is done. -/
theorem nextScreen_denied {console : Console} {form : SignInForm} {answer : SignInAnswer}
    (hscreen : console.screen = .signIn form) (hrole : answer.user.role.isAdmin = false) :
    console.nextScreen answer.session = (.denied, []) := by
  have htoken : answer.session.token = some answer.accessToken := rfl
  have hadmin : answer.session.isAdmin = false := hrole
  have hadminToken : answer.session.adminToken = none := by
    rw [Session.adminToken, hadmin]
    rfl
  simp only [nextScreen, openScreen, hscreen, htoken, hadminToken]

/-- Nothing that is done for someone who signs in without access to billing stops the console. -/
theorem halted_receive_signIn (console : Console) {form : SignInForm} {reply : Reply}
    {answer : SignInAnswer} (hscreen : console.screen = .signIn form)
    (hreply : reply.signedIn = .ok answer) (hrole : answer.user.role.isAdmin = false) (id : Nat) :
    (console.receive (.signIn id) reply).host.halted = console.host.halted := by
  have hshown : (console.perform (signInEffects answer)).screen = .signIn form := hscreen
  rw [receive_signIn_ok hreply, setSession_host, nextScreen_denied hshown hrole]
  refine Host.halted_performAll console.host ?_
  simp [signInEffects, Effect.say]

/-- From a form that is not loading someone can sign in, while whatever waited goes on waiting. -/
theorem exists_signedIn {console : Console} {form : SignInForm} (live : console.host.halted = false)
    (hscreen : console.screen = .signIn form) (hloading : form.loading = false) :
    ∃ later, Reaches console later ∧ later.host.halted = false ∧ later.session ≠ .signedOut ∧
      ∀ place purpose, console.host.Waits place purpose → later.host.Waits place purpose := by
  obtain ⟨sending, hsending⟩ : ∃ sending, (console.use .submit).2 = sending := ⟨_, rfl⟩
  have hsubmit := hsending.symm.trans (use_submit hscreen hloading)
  have hshown : sending.screen = .signIn { form with loading := true, error := none } := by
    rw [hsubmit]
    rfl
  have hlive : sending.host.halted = false := by
    rw [hsubmit]
    exact live
  have hwaits : sending.host.Waits console.host.sent.length (.signIn form.id) := by
    rw [hsubmit]
    exact Host.waits_send _ _ _
  have hextended : Host.Extended console.host sending.host := by
    rw [hsubmit]
    exact Host.extended_performAll _ _
  obtain ⟨reply, answer, hreply, hrole, -⟩ := Reply.exists_signedIn_ne none
  obtain ⟨host, htake, hanswer⟩ := answer_of_waits hwaits reply
  refine ⟨(sending.answer console.host.sent.length reply).2, ?_, ?_, ?_, ?_⟩
  · have hfirst : Step console sending := hsending ▸ .used live .submit
    exact (Relation.ReflTransGen.single hfirst).tail (.answered hlive _ reply)
  · have hkept : host.halted = sending.host.halted := by rw [Host.take_eq htake]
    rw [hanswer, halted_receive_signIn { sending with host } hshown hreply hrole]
    exact hkept.trans hlive
  · rw [hanswer, receive_signIn_ok hreply, setSession_session]
    intro heq
    cases heq
  · intro place purpose waits
    rw [hanswer]
    refine (extended_receive _ _ _).waits ((hextended.waits waits).take htake ?_)
    exact (Nat.ne_of_lt waits.lt_length).symm

end Console

end BillingConsole
