import BillingConsole.Proofs.Console.Run
import BillingConsole.Proofs.Screen.Requests

/-!
# What the console asks for

Whatever happens to the console, it comes to one of a few turns: something is done, the form or the
page on screen goes on, or the session changes.  All that is asked for is asked for in such a turn,
about the session or by the page that is on screen after it.

## What is here

* `Console.SharedReaches` — runs in a browser that others may change at any moment.
* `Console.FreelyReaches` — runs in which the session, too, may change at any moment to anything.
* `Call.AboutSession` — the calls about the session, each with what its answer is waited for.
* `Host.asked` — what was asked for so far.
* `Console.Turn`, `Console.turn_of_freeStep` — the turns, and that every step comes to one.
* `Console.MaySend`, `Console.asked_of_freeStep` — what a step may ask for.
* `Console.nextScreen_cases` — when a change of the session leads to a page.
* `Console.aboutSession_of_asked_start`, `Console.aboutSession_of_asked` — what is asked for at the
  opening, and for no page.
-/

set_option autoImplicit false

namespace BillingConsole

/-- A call about the session, with what its answer is waited for. -/
inductive Call.AboutSession : Call → Purpose → Prop
  | checking (token : String) : AboutSession (.currentUser token) (.restore (.checking token))
  | refreshing (token : String) : AboutSession (.refresh token) (.restore .refreshing)
  | rechecking (token : String) : AboutSession (.currentUser token) (.restore (.rechecking token))
  | signIn (credentials : SignInRequest) (form : Nat) :
      AboutSession (.signIn credentials) (.signIn form)
  | signOut (token : String) : AboutSession (.signOut token) .signOut

theorem Call.AboutSession.page?_eq {call : Call} {purpose : Purpose}
    (h : call.AboutSession purpose) : purpose.page? = none := by
  cases h <;> rfl

theorem Call.AboutSession.billingToken?_eq {call : Call} {purpose : Purpose}
    (h : call.AboutSession purpose) : call.billingToken? = none := by
  cases h <;> rfl

/-! ## Requests -/

namespace Host

/-- What was asked for so far, with what the answers are waited for. -/
def asked (host : Host) : List (Call × Purpose) :=
  host.sent.map fun sent => (sent.call, sent.purpose)

theorem length_asked (host : Host) : host.asked.length = host.sent.length :=
  List.length_map _

theorem asked_of_sent {host : Host} {place : Nat} {sent : Sent}
    (h : host.sent[place]? = some sent) : host.asked[place]? = some (sent.call, sent.purpose) := by
  rw [asked, List.getElem?_map, h]
  rfl

/-- What effects ask for. -/
def asks (effects : List Effect) : List (Call × Purpose) :=
  (effects.filterMap Effect.sent?).map fun sent => (sent.call, sent.purpose)

theorem asked_performAll (host : Host) (effects : List Effect) :
    (host.performAll effects).asked = host.asked ++ asks effects := by
  rw [asked, sent_performAll, List.map_append]
  rfl

theorem mem_asks {effects : List Effect} {call : Call} {purpose : Purpose} :
    (call, purpose) ∈ asks effects ↔ .send call purpose ∈ effects := by
  rw [asks, List.mem_map]
  constructor
  · rintro ⟨sent, hsent, heq⟩
    obtain ⟨effect, heffect, hsome⟩ := List.mem_filterMap.1 hsent
    cases effect with
    | send =>
      cases hsome
      cases heq
      exact heffect
    | log | saveToken | clearTokens | saveFile | halt => cases hsome
  · intro hmem
    exact ⟨⟨call, purpose, false⟩, List.mem_filterMap.2 ⟨_, hmem, rfl⟩, rfl⟩

theorem asks_append (effects more : List Effect) :
    asks (effects ++ more) = asks effects ++ asks more := by
  rw [asks, List.filterMap_append, List.map_append]
  rfl

/-- An answer leaves what was asked for as it is. -/
theorem asked_take {host next : Host} {place : Nat} {purpose : Purpose}
    (h : host.take place = .waiting purpose next) : next.asked = host.asked := by
  obtain ⟨sent, hplace, -, -, rfl⟩ := take_eq_waiting_iff.1 h
  obtain ⟨hlt, rfl⟩ := List.getElem?_eq_some_iff.1 hplace
  rw [asked, asked, List.map_set]
  refine List.ext_getElem? fun other => ?_
  rw [List.getElem?_set]
  split
  · next heq => subst heq; simp [hlt]
  · rfl

end Host

namespace Console

/-! ## Turns -/

/-- A step in a browser that is shared with others, who may change it and what it stores. -/
inductive SharedStep (console : Console) : Console → Prop
  | step {next : Console} (step : Step console next) : SharedStep console next
  | browserChanged (live : console.host.halted = false) (browser : Browser) :
      SharedStep console (stage.setBrowser console browser)

/-- What any number of such steps lead to. -/
abbrev SharedReaches : Console → Console → Prop := Relation.ReflTransGen SharedStep

/-- Such a step, or a change of the session to anything. -/
inductive FreeStep (console : Console) : Console → Prop
  | step {next : Console} (step : SharedStep console next) : FreeStep console next
  | sessionChanged (live : console.host.halted = false) (session : Session) :
      FreeStep console (console.setSession session)

/-- What any number of such steps lead to. -/
abbrev FreelyReaches : Console → Console → Prop := Relation.ReflTransGen FreeStep

/-- Nothing is asked for but what is about the session. -/
def AsksAboutSession (effects : List Effect) : Prop :=
  ∀ call purpose, .send call purpose ∈ effects → call.AboutSession purpose

/-- What a step comes to. -/
inductive Turn (console : Console) : Console → Prop
  | stays {effects : List Effect} (asks : AsksAboutSession effects) :
      Turn console (console.perform effects)
  | form {form next : SignInForm} {effects : List Effect} (shown : console.screen = .signIn form)
      (asks : AsksAboutSession effects) :
      Turn console ({ console with screen := .signIn next }.perform effects)
  | page {page next : BillingPage} {effects : List Effect} (shown : console.screen = .billing page)
      (asks : page.Asks next console.session.adminToken effects) :
      Turn console ({ console with screen := .billing next }.perform effects)
  | session {effects : List Effect} (asks : AsksAboutSession effects) (session : Session) :
      Turn console ((console.perform effects).setSession session)

theorem asksAboutSession_nil : AsksAboutSession [] := fun _ _ hmem => nomatch hmem

theorem Turn.refl (console : Console) : Turn console console := .stays asksAboutSession_nil

theorem turn_setSession (console : Console) (session : Session) :
    Turn console (console.setSession session) := .session asksAboutSession_nil session

theorem turn_endSession (console : Console) : Turn console console.endSession :=
  .session (by simp [AsksAboutSession]) _

theorem turn_handle (console : Console) (event : ConsoleEvent) :
    Turn console (console.handle event) := by
  rcases handle_cases console event with heq | ⟨form, entry, shown, heq⟩ |
    ⟨page, entry, shown, heq⟩ | ⟨token, heq⟩ | heq
  · rw [heq]
    exact .refl console
  · rw [heq]
    refine .form shown fun call purpose hmem => ?_
    cases entry with
    | typeUsername | typePassword => cases hmem
    | submit =>
      cases List.mem_singleton.1 hmem
      exact .signIn _ _
  · rw [heq]
    exact .page shown (page.asks_update _ _ _)
  · rw [heq]
    refine .stays fun call purpose hmem => ?_
    cases List.mem_singleton.1 hmem
    exact .signOut token
  · rw [heq]
    exact turn_endSession console

/-- Restoring a session ends with the user of the token that was asked about, or goes on asking
about the session. -/
theorem resumeRestore_cases (browser : Browser) (stage : RestoreStage) (reply : Reply) :
    (∃ token user, (stage = .checking token ∨ stage = .rechecking token) ∧ reply.user = .ok user ∧
      resumeRestore browser stage reply = (some ⟨some token, some user⟩, [])) ∨
    (resumeRestore browser stage reply).1 = none ∧
      AsksAboutSession (resumeRestore browser stage reply).2 := by
  cases stage with
  | checking token =>
    cases hreply : reply.user with
    | ok user => exact .inl ⟨token, user, .inl rfl, rfl, by simp only [resumeRestore, hreply]⟩
    | error error =>
      simp only [resumeRestore, hreply]
      cases browser.refreshToken? with
      | none => exact .inr ⟨trivial, by simp [AsksAboutSession, Effect.say]⟩
      | some refreshToken =>
        exact .inr ⟨trivial, by simp [AsksAboutSession, Effect.say, Call.AboutSession.refreshing]⟩
  | refreshing =>
    simp only [resumeRestore]
    cases reply.refreshed with
    | ok answer =>
      exact .inr ⟨rfl, by simp [AsksAboutSession, askUser, Call.AboutSession.rechecking]⟩
    | error error => exact .inr ⟨rfl, by simp [AsksAboutSession, Effect.say]⟩
  | rechecking token =>
    cases hreply : reply.user with
    | ok user => exact .inl ⟨token, user, .inr rfl, rfl, by simp only [resumeRestore, hreply]⟩
    | error error =>
      simp only [resumeRestore, hreply]
      exact .inr ⟨trivial, by simp [AsksAboutSession, Effect.say]⟩

/-- What becomes of a console with an answer about the session: something is done, the form that is
on screen is told, or the session changes. -/
theorem receive_session {purpose : Purpose} (habout : purpose.aboutSession = true)
    (console : Console) (reply : Reply) : ∃ effects, AsksAboutSession effects ∧
      (console.receive purpose reply = console.perform effects ∨
      (∃ form next, console.screen = .signIn form ∧ console.receive purpose reply =
        { console with screen := .signIn next }.perform effects) ∨
      ∃ session, console.receive purpose reply = (console.perform effects).setSession session) := by
  cases purpose with
  | restore stage =>
    rw [receive_restore]
    rcases resumeRestore_cases console.host.browser stage reply with
      ⟨token, user, -, -, heq⟩ | ⟨hnone, asks⟩
    · rw [heq]
      exact ⟨[], asksAboutSession_nil, .inr (.inr ⟨_, rfl⟩)⟩
    · rw [hnone]
      exact ⟨_, asks, .inl rfl⟩
  | signIn id =>
    cases hreply : reply.signedIn with
    | ok answer =>
      rw [receive_signIn_ok hreply]
      exact ⟨_, by simp [AsksAboutSession, signInEffects, Effect.say], .inr (.inr ⟨_, rfl⟩)⟩
    | error error =>
      rw [receive_signIn_error hreply]
      refine ⟨[.say .error (signInFailure error)], by simp [AsksAboutSession, Effect.say], ?_⟩
      rcases failSignIn_cases (console.perform [.say .error (signInFailure error)]) id error with
        ⟨heq, -⟩ | ⟨form, shown, heq⟩
      · rw [heq]
        exact .inl rfl
      · rw [heq]
        exact .inr (.inl ⟨form, _, shown, rfl⟩)
  | signOut =>
    cases hreply : reply.signedOut with
    | ok =>
      simp only [receive, hreply]
      exact ⟨[.clearTokens], by simp [AsksAboutSession], .inr (.inr ⟨_, rfl⟩)⟩
    | error error =>
      simp only [receive, hreply]
      have asks : AsksAboutSession [signOutFailure error, .clearTokens] := by
        simp [AsksAboutSession, signOutFailure, Effect.say]
      exact ⟨_, asks, .inr (.inr ⟨.signedOut, rfl⟩)⟩
  | customers | report | detail => cases habout

theorem turn_receive (console : Console) (purpose : Purpose) (reply : Reply) :
    Turn console (console.receive purpose reply) := by
  cases habout : purpose.aboutSession with
  | false =>
    rcases receive_page habout console reply with heq | ⟨page, shown, heq⟩
    · rw [heq]
      exact .refl console
    · rw [heq]
      refine .page shown ((page.later_receive _ _ _).asks fun call purpose' hmem => ?_)
      obtain ⟨entry, hlog⟩ := BillingPage.eq_log_of_mem_receive hmem
      cases hlog
  | true =>
    obtain ⟨effects, asks, heq | ⟨form, next, shown, heq⟩ | ⟨session, heq⟩⟩ :=
      receive_session habout console reply
    · rw [heq]
      exact .stays asks
    · rw [heq]
      exact .form shown asks
    · rw [heq]
      exact .session asks session

theorem FreeStep.live {console next : Console} (step : FreeStep console next) :
    console.host.halted = false := by
  cases step with
  | step step =>
    cases step with
    | step step => cases step <;> assumption
    | browserChanged live => exact live
  | sessionChanged live => exact live

/-- Requests keep their places in such a step, and what was answered stays so. -/
theorem grown_of_freeStep {console next : Console} (step : FreeStep console next) :
    Host.Grown console.host next.host := by
  cases step with
  | step step =>
    cases step with
    | step step => exact grown_of_step step
    | browserChanged => exact .refl console.host
  | sessionChanged _ session => exact (extended_setSession console session).grown

/-- Every step comes to a turn, in a browser of its own and with an answer marked as taken. -/
theorem turn_of_freeStep {console next : Console} (step : FreeStep console next) :
    ∃ host : Host, host.asked = console.host.asked ∧ Turn { console with host } next := by
  rcases step with ⟨step⟩ | ⟨_, session⟩
  · rcases step with ⟨step⟩ | ⟨_, browser⟩
    · cases step with
      | used _ action =>
        rcases use_cases console action with heq | ⟨event, heq⟩
        · rw [heq]
          exact ⟨_, rfl, .refl console⟩
        · rw [heq]
          exact ⟨_, rfl, turn_handle console event⟩
      | answered _ place reply =>
        rcases answer_cases console place reply with ⟨heq, -⟩ | ⟨purpose, host, htake, heq⟩
        · rw [heq]
          exact ⟨_, rfl, .refl console⟩
        · rw [heq]
          exact ⟨host, Host.asked_take htake, turn_receive _ purpose reply⟩
      | ticked _ clock =>
        exact ⟨{ console.host with browser := { console.host.browser with clock } }, rfl, .refl _⟩
    · exact ⟨{ console.host with browser }, rfl, .refl _⟩
  · exact ⟨_, rfl, turn_setSession console session⟩

/-! ## Changes of the session -/

/-- A change of the session leads to the form, to the notice, or to a page: the one on screen, or a
new one, unless the calendar has no range for it. -/
theorem nextScreen_cases (console : Console) (session : Session) :
    (session.token = none ∧ ∃ form, console.nextScreen session = (.signIn form, [])) ∨
    (session.token ≠ none ∧ session.adminToken = none ∧
      console.nextScreen session = (.denied, [])) ∨
    (∃ token, session.adminToken = some token ∧
      (console.nextScreen session = (.denied, [.halt]) ∨
      (∃ page, console.screen = .billing page ∧ console.nextScreen session =
        (.billing (page.sessionChanged console.session session).1,
          (page.sessionChanged console.session session).2)) ∨
      ∃ opened, BillingPage.open? console.opened session console.host.browser.clock = some opened ∧
        console.nextScreen session = (.billing opened.1, opened.2))) := by
  cases htoken : session.token with
  | none =>
    refine .inl ⟨rfl, ?_⟩
    cases hscreen : console.screen with
    | signIn form => exact ⟨form, by simp only [nextScreen, hscreen, htoken]⟩
    | denied | billing => exact ⟨_, by simp only [nextScreen, openScreen, hscreen, htoken]; rfl⟩
  | some token =>
    cases hadmin : session.adminToken with
    | none =>
      refine .inr (.inl ⟨Option.some_ne_none token, rfl, ?_⟩)
      cases hscreen : console.screen <;>
        simp only [nextScreen, openScreen, hscreen, htoken, hadmin]
    | some admin =>
      refine .inr (.inr ⟨admin, rfl, ?_⟩)
      cases hscreen : console.screen with
      | billing page =>
        exact .inr (.inl ⟨page, rfl, by simp only [nextScreen, hscreen, htoken, hadmin]⟩)
      | signIn | denied =>
        cases hopen : BillingPage.open? console.opened session console.host.browser.clock with
        | none =>
          exact .inl (by simp only [nextScreen, openScreen, hscreen, htoken, hadmin, hopen])
        | some opened =>
          exact .inr (.inr ⟨opened, rfl,
            by simp only [nextScreen, openScreen, hscreen, htoken, hadmin, hopen]⟩)

/-! ## What a step asks for -/

/-- What a console may have asked for just now: something about the session, or data for the page
that is on screen. -/
def MaySend (console : Console) (call : Call) (purpose : Purpose) : Prop :=
  call.AboutSession purpose ∨ ∃ page, console.screen = .billing page ∧
    page.MaySend console.session.adminToken call purpose

/-- What is asked for at a change of the session, the page on screen asks for. -/
theorem maySend_of_setSession {console : Console} {session : Session} {call : Call}
    {purpose : Purpose} (h : .send call purpose ∈ (console.nextScreen session).2) :
    (console.setSession session).MaySend call purpose := by
  have hscreen : (console.setSession session).screen = (console.nextScreen session).1 := rfl
  rcases console.nextScreen_cases session with ⟨-, form, heq⟩ | ⟨-, -, heq⟩ |
    ⟨token, -, heq | ⟨page, -, heq⟩ | ⟨opened, hopen, heq⟩⟩
  · rw [heq] at h
    cases h
  · rw [heq] at h
    cases h
  · rw [heq] at h
    cases List.mem_singleton.1 h
  · rw [heq] at h hscreen
    exact .inr ⟨_, hscreen, (page.asks_sessionChanged _ _).sends call purpose h⟩
  · rw [heq] at h hscreen
    obtain ⟨page, -, asks⟩ := BillingPage.asks_open hopen
    exact .inr ⟨_, hscreen, asks.sends call purpose h⟩

theorem asked_of_turn {console next : Console} (turn : Turn console next) :
    ∃ more, next.host.asked = console.host.asked ++ more ∧
      ∀ call purpose, (call, purpose) ∈ more → next.MaySend call purpose := by
  cases turn with
  | @stays effects asks | @form _ _ effects _ asks =>
    exact ⟨Host.asks effects, Host.asked_performAll console.host effects,
      fun call purpose hmem => .inl (asks _ _ (Host.mem_asks.1 hmem))⟩
  | @page page next effects shown asks =>
    exact ⟨Host.asks effects, Host.asked_performAll console.host effects,
      fun call purpose hmem => .inr ⟨next, rfl, asks.sends _ _ (Host.mem_asks.1 hmem)⟩⟩
  | @session effects asks session =>
    refine ⟨Host.asks effects ++ Host.asks ((console.perform effects).nextScreen session).2, ?_,
      fun call purpose hmem => ?_⟩
    · rw [setSession_host, Host.asked_performAll, perform, Host.asked_performAll,
        List.append_assoc]
    · rcases List.mem_append.1 hmem with hmem | hmem
      · exact .inl (asks _ _ (Host.mem_asks.1 hmem))
      · exact maySend_of_setSession (Host.mem_asks.1 hmem)

/-- **Whatever a step asks for** is about the session, or for the page that is on screen after it,
with the token of the session after it. -/
theorem asked_of_freeStep {console next : Console} (step : FreeStep console next) :
    ∃ more, next.host.asked = console.host.asked ++ more ∧
      ∀ call purpose, (call, purpose) ∈ more → next.MaySend call purpose := by
  obtain ⟨host, hasked, turn⟩ := turn_of_freeStep step
  rw [← hasked]
  exact asked_of_turn turn

/-- When the console opens it asks for nothing but the user of a stored token. -/
theorem aboutSession_of_asked_start {browser : Browser} {call : Call} {purpose : Purpose}
    (h : (call, purpose) ∈ (start browser).host.asked) : call.AboutSession purpose := by
  have hmem : .send call purpose ∈ startRestore browser := by
    rw [start, perform, Host.asked_performAll] at h
    exact Host.mem_asks.1 h
  rw [startRestore] at hmem
  cases htoken : browser.accessToken? with
  | none => rw [htoken] at hmem; cases hmem
  | some token =>
    rw [htoken] at hmem
    cases List.mem_singleton.1 hmem
    exact .checking token

/-- What is asked for without a page waiting for the answer is about the session. -/
theorem aboutSession_of_asked {browser : Browser} {console : Console}
    (reaches : FreelyReaches (start browser) console) {call : Call} {purpose : Purpose}
    (h : (call, purpose) ∈ console.host.asked) (hpage : purpose.page? = none) :
    call.AboutSession purpose := by
  induction reaches with
  | refl => exact aboutSession_of_asked_start h
  | tail _ step ih =>
    obtain ⟨more, hasked, hmore⟩ := asked_of_freeStep step
    rw [hasked, List.mem_append] at h
    rcases h with hearlier | hnew
    · exact ih hearlier
    · rcases hmore call purpose hnew with habout | ⟨page, -, sends⟩
      · exact habout
      · rw [sends.page_eq] at hpage
        cases hpage

end Console

end BillingConsole
