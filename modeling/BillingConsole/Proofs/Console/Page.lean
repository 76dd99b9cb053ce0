import BillingConsole.Proofs.Console.Crossing
import BillingConsole.Proofs.Console.Record

/-!
# The page on screen, step by step

`Console.Turn` says what a step may ask for.  This file says exactly how a page came to be on screen
in a step: it was there and was left alone, someone used it, the session changed under it, an answer
for it came, or it was opened.

## What is here

* `Host.GoesOn` — what was asked for between two moments, while requests of a page went on waiting.
* `Console.PageMove`, `Console.pageMove_of_step` — how a page came to be on screen.
* `BillingPage.Kept`, `Console.of_reaches` — **what every operation on a page keeps** holds of the
  page on screen at every moment of every run.
* `Console.page?` — the page on screen, computed.
-/

set_option autoImplicit false

namespace BillingConsole

/-! ## Requests between two moments -/

namespace Host

/-- Between two moments effects asked for something, and what a page waits for it still does. -/
structure GoesOn (id : Nat) (before after : Host) (effects : List Effect) : Prop where
  asked_eq : after.asked = before.asked ++ asks effects
  waits : ∀ place purpose, purpose.page? = some id → before.Waits place purpose →
    after.Waits place purpose
  /-- Nothing that it asked for meanwhile was answered yet. -/
  fresh : ∀ place call purpose, purpose.page? = some id → before.asked.length ≤ place →
    after.asked[place]? = some (call, purpose) → after.Waits place purpose

variable {id : Nat} {before middle after : Host} {effects more : List Effect}

theorem goesOn_performAll (id : Nat) (host : Host) (effects : List Effect) :
    GoesOn id host (host.performAll effects) effects := by
  refine ⟨asked_performAll host effects, fun _ _ _ => (extended_performAll host effects).waits,
    fun place call purpose _ hle hasked => ?_⟩
  rw [asked_performAll, List.getElem?_append_right hle, asks, List.getElem?_map,
    Option.map_eq_some_iff] at hasked
  obtain ⟨sent, hsent, heq⟩ := hasked
  obtain ⟨effect, -, hsome⟩ := List.mem_filterMap.1 (List.mem_of_getElem? hsent)
  refine ⟨call, ?_⟩
  rw [length_asked] at hle hsent
  rw [sent_performAll, List.getElem?_append_right hle, hsent]
  cases effect with
  | send =>
    cases hsome
    cases heq
    rfl
  | log | saveToken | clearTokens | saveFile | halt => cases hsome

theorem GoesOn.trans (h : GoesOn id before middle effects) (h' : GoesOn id middle after more) :
    GoesOn id before after (effects ++ more) := by
  refine ⟨?_, fun place purpose hid waits => h'.waits _ _ hid (h.waits _ _ hid waits),
    fun place call purpose hid hle hasked => ?_⟩
  · rw [h'.asked_eq, h.asked_eq, asks_append, List.append_assoc]
  · by_cases hplace : place < middle.asked.length
    · rw [h'.asked_eq, List.getElem?_append_left hplace] at hasked
      exact h'.waits place purpose hid (h.fresh place call purpose hid hle hasked)
    · exact h'.fresh place call purpose hid (Nat.le_of_not_lt hplace) hasked

/-- Whatever happens to the browser, nothing is asked for. -/
theorem goesOn_browser (id : Nat) (host : Host) (browser : Browser) :
    GoesOn id host { host with browser } [] := by
  refine ⟨(List.append_nil _).symm, fun _ _ _ waits => waits, fun place _ _ _ hle hasked => ?_⟩
  exact absurd (List.getElem?_eq_some_iff.1 hasked).1 (Nat.not_lt_of_le hle)

/-- An answer for something else leaves the requests of a page alone. -/
theorem goesOn_take {host next : Host} {place : Nat} {purpose : Purpose}
    (h : host.take place = .waiting purpose next) (hne : purpose.page? ≠ some id) :
    GoesOn id host next [] := by
  refine ⟨(asked_take h).trans (List.append_nil _).symm, fun other waited hid waits => ?_,
    fun other _ _ _ hle hasked => ?_⟩
  · refine waits.take h ?_
    rintro rfl
    exact hne ((waits_of_take h).purpose_eq waits ▸ hid)
  · rw [asked_take h] at hasked
    exact absurd (List.getElem?_eq_some_iff.1 hasked).1 (Nat.not_lt_of_le hle)

end Host

/-! ## How a page came to be on screen -/

namespace Console

/-- How a page came to be on screen in a step that may have brought an answer, and what was asked
for in that step. -/
inductive PageMove (console next : Console) (after : BillingPage) : Option Answer → Prop
  /-- Something happened elsewhere. -/
  | stayed {answer? : Option Answer} {effects : List Effect}
      (shown : console.screen = .billing after) (asks : AsksAboutSession effects)
      (goesOn : Host.GoesOn after.id console.host next.host effects) :
      PageMove console next after answer?
  /-- Someone used it. -/
  | used {page : BillingPage} (shown : console.screen = .billing page) (browser : Browser)
      (event : BillingEvent) (after_eq : after = (page.update browser console.session event).1)
      (goesOn : Host.GoesOn after.id console.host next.host
        (page.update browser console.session event).2) : PageMove console next after none
  /-- The session changed to one that it may stay open for. -/
  | changed {answer? : Option Answer} {page : BillingPage} {effects : List Effect}
      (shown : console.screen = .billing page) (asks : AsksAboutSession effects)
      (admin : next.session.adminToken ≠ none)
      (after_eq : after = (page.sessionChanged console.session next.session).1)
      (goesOn : Host.GoesOn after.id console.host next.host
        (effects ++ (page.sessionChanged console.session next.session).2)) :
      PageMove console next after answer?
  /-- It was opened, for a session that billing is open to. -/
  | opened {answer? : Option Answer} {page : BillingPage × List Effect} {effects : List Effect}
      {clock : Clock} (asks : AsksAboutSession effects)
      (opens : BillingPage.open? console.opened next.session clock = some page)
      (after_eq : after = page.1)
      (goesOn : Host.GoesOn after.id console.host next.host (effects ++ page.2)) :
      PageMove console next after answer?
  /-- An answer came that it has asked for. -/
  | received {page : BillingPage} {host : Host} {answer : Answer} {purpose : Purpose}
      {clock : Clock} (shown : console.screen = .billing page)
      (hpage : purpose.page? = some page.id)
      (takes : console.host.take answer.place = .waiting purpose host)
      (after_eq : after = (page.receive clock purpose answer.reply).1)
      (goesOn : Host.GoesOn after.id host next.host []) : PageMove console next after (some answer)

/-- A page that is on screen after a change of the session was opened or stayed open. -/
theorem pageMove_setSession {console middle : Console} {session : Session} {after : BillingPage}
    {effects : List Effect} {answer? : Option Answer} (hscreen : middle.screen = console.screen)
    (hsession : middle.session = console.session) (hopened : middle.opened = console.opened)
    (asks : AsksAboutSession effects)
    (goesOn : ∀ id, Host.GoesOn id console.host middle.host effects)
    (shown : (middle.setSession session).screen = .billing after) :
    PageMove console (middle.setSession session) after answer? := by
  have hnext : (middle.nextScreen session).1 = .billing after := shown
  have hgoes : Host.GoesOn after.id console.host (middle.setSession session).host
      (effects ++ (middle.nextScreen session).2) :=
    (goesOn after.id).trans (Host.goesOn_performAll after.id middle.host _)
  rcases nextScreen_cases middle session with ⟨-, form, heq⟩ | ⟨-, -, heq⟩ |
    ⟨token, hadmin, heq | ⟨page, hpage, heq⟩ | ⟨opened, hopen, heq⟩⟩
  · rw [heq] at hnext
    cases hnext
  · rw [heq] at hnext
    cases hnext
  · rw [heq] at hnext
    cases hnext
  · rw [heq, hsession] at hnext hgoes
    cases hnext
    exact .changed (hscreen ▸ hpage) asks (hadmin ▸ Option.some_ne_none token) rfl hgoes
  · rw [heq] at hnext hgoes
    cases hnext
    exact .opened asks (hopened ▸ hopen) rfl hgoes

theorem pageMove_handle {console : Console} {event : ConsoleEvent} {after : BillingPage}
    (shown : (console.handle event).screen = .billing after) :
    PageMove console (console.handle event) after none := by
  rcases handle_cases console event with heq | ⟨form, entry, -, heq⟩ | ⟨page, entry, hpage, heq⟩ |
    ⟨token, heq⟩ | heq
  · rw [heq] at shown ⊢
    exact .stayed shown asksAboutSession_nil (Host.goesOn_performAll after.id console.host [])
  · rw [heq] at shown
    cases shown
  · rw [heq] at shown ⊢
    cases shown
    exact .used hpage console.host.browser entry rfl (Host.goesOn_performAll _ _ _)
  · rw [heq] at shown ⊢
    have asks : AsksAboutSession [.send (.signOut token) .signOut] := fun call purpose hmem => by
      cases List.mem_singleton.1 hmem
      exact .signOut token
    exact .stayed shown asks (Host.goesOn_performAll _ _ _)
  · -- without a session there is the form
    obtain ⟨form, hform⟩ : ∃ form, ((console.perform [.clearTokens]).nextScreen .signedOut).1 =
        .signIn form := nextScreen_of_signedOut rfl
    rw [heq] at shown
    cases hform.symm.trans shown

/-- An answer that a page has asked for is handed to it. -/
theorem receive_of_page_eq {console : Console} {page : BillingPage}
    (shown : console.screen = .billing page) {purpose : Purpose}
    (hid : purpose.page? = some page.id) (reply : Reply) :
    console.receive purpose reply = { console with
      screen := .billing (page.receive console.host.browser.clock purpose reply).1 }.perform
        (page.receive console.host.browser.clock purpose reply).2 := by
  have hpage (id : Nat) (heq : id = page.id) :
      console.receiveOnPage id purpose reply = { console with
        screen := .billing (page.receive console.host.browser.clock purpose reply).1 }.perform
          (page.receive console.host.browser.clock purpose reply).2 := by
    simp only [receiveOnPage, shown, if_pos heq.symm]
  cases purpose with
  | restore | signIn | signOut => cases hid
  | customers id | report id | detail id => exact hpage id (Option.some.inj hid)

/-- A page asks for nothing when an answer comes. -/
theorem goesOn_receive (id : Nat) (host : Host) (page : BillingPage) (clock : Clock)
    (purpose : Purpose) (reply : Reply) :
    Host.GoesOn id host (host.performAll (page.receive clock purpose reply).2) [] := by
  have hnone : Host.asks (page.receive clock purpose reply).2 = [] := by
    refine List.eq_nil_iff_forall_not_mem.2 fun asked hmem => ?_
    obtain ⟨entry, hlog⟩ := BillingPage.eq_log_of_mem_receive (Host.mem_asks.1 hmem)
    cases hlog
  have hgoes := Host.goesOn_performAll id host (page.receive clock purpose reply).2
  exact ⟨by rw [hgoes.asked_eq, hnone]; rfl, hgoes.waits, hgoes.fresh⟩

section

variable {console : Console} {host : Host} {purpose : Purpose} {after : BillingPage}

/-- An answer about the session happens elsewhere, or changes the session under the page. -/
theorem pageMove_receive_session {place : Nat} {answer? : Option Answer}
    (takes : console.host.take place = .waiting purpose host)
    (habout : purpose.aboutSession = true) {reply : Reply}
    (shown : ({ console with host }.receive purpose reply).screen = .billing after) :
    PageMove console ({ console with host }.receive purpose reply) after answer? := by
  have hnone (id : Nat) : purpose.page? ≠ some id := by
    cases purpose with
    | restore | signIn | signOut => exact fun h => nomatch h
    | customers | report | detail => cases habout
  have hgoes (id : Nat) (effects : List Effect) :
      Host.GoesOn id console.host (host.performAll effects) effects :=
    (Host.goesOn_take takes (hnone id)).trans (Host.goesOn_performAll id host effects)
  obtain ⟨effects, asks, hdone | ⟨form, next, hform, hdone⟩ | ⟨session, hdone⟩⟩ :=
    receive_session habout { console with host } reply
  · rw [hdone] at shown ⊢
    exact .stayed shown asks (hgoes after.id effects)
  · rw [hdone] at shown
    cases shown
  · rw [hdone] at shown ⊢
    exact pageMove_setSession rfl rfl rfl asks (fun id => hgoes id effects) shown

/-- Any other answer is one that the page has asked for, or leaves it alone. -/
theorem pageMove_receive_page (answer : Answer)
    (takes : console.host.take answer.place = .waiting purpose host)
    (habout : purpose.aboutSession = false)
    (shown : ({ console with host }.receive purpose answer.reply).screen = .billing after) :
    PageMove console ({ console with host }.receive purpose answer.reply) after (some answer) := by
  obtain ⟨page, hscreen⟩ : ∃ page, console.screen = .billing page := by
    rcases receive_page habout { console with host } answer.reply with hkept | ⟨page, hscreen, -⟩
    · rw [hkept] at shown
      exact ⟨after, shown⟩
    · exact ⟨page, hscreen⟩
  have hpage : { console with host }.screen = .billing page := hscreen
  by_cases hid : purpose.page? = some page.id
  · rw [receive_of_page_eq hpage hid answer.reply] at shown ⊢
    cases shown
    exact .received hscreen hid takes rfl
      (goesOn_receive _ host page host.browser.clock purpose answer.reply)
  · rw [receive_of_page_ne hpage habout hid answer.reply] at shown ⊢
    cases hscreen.symm.trans shown
    exact .stayed hscreen asksAboutSession_nil (Host.goesOn_take takes hid)

theorem pageMove_answer {place : Nat} {call : Call} {reply : Reply}
    (waits : console.host.sent[place]? = some ⟨call, purpose, false⟩)
    (shown : (console.answer place reply).2.screen = .billing after) :
    PageMove console (console.answer place reply).2 after (some ⟨place, call, reply⟩) := by
  obtain ⟨host, takes, heq⟩ := answer_of_waits ⟨call, waits⟩ reply
  rw [heq] at shown ⊢
  cases habout : purpose.aboutSession with
  | true => exact pageMove_receive_session takes habout shown
  | false => exact pageMove_receive_page ⟨place, call, reply⟩ takes habout shown

end

/-- **How a page came to be on screen**, for every step after which there is one. -/
theorem pageMove_of_step {outside : Set Session} {console next : Console} {answer? : Option Answer}
    (step : RecordedStep outside console answer? next) {after : BillingPage}
    (shown : next.screen = .billing after) : PageMove console next after answer? := by
  have hbrowser (browser : Browser) (hscreen : console.screen = .billing after) :
      PageMove console (stage.setBrowser console browser) after none :=
    .stayed hscreen asksAboutSession_nil (Host.goesOn_browser after.id console.host browser)
  cases step with
  | used _ action =>
    rcases use_cases console action with heq | ⟨event, heq⟩
    · rw [heq] at shown ⊢
      exact hbrowser console.host.browser shown
    · rw [heq] at shown ⊢
      exact pageMove_handle shown
  | answered _ place waits reply => exact pageMove_answer waits shown
  | browserChanged _ browser => exact hbrowser browser shown
  | sessionChanged =>
    exact pageMove_setSession rfl rfl rfl asksAboutSession_nil
      (fun id => Host.goesOn_performAll id console.host []) shown

end Console

/-! ## What every operation on a page keeps -/

/-- Whatever happens to a page keeps a property of it. -/
structure BillingPage.Kept (P : BillingPage → Prop) : Prop where
  opened : ∀ {id : Nat} {session : Session} {clock : Clock} {page : BillingPage × List Effect},
    BillingPage.open? id session clock = some page → P page.1
  used : ∀ {page : BillingPage}, P page → ∀ browser session event,
    P (page.update browser session event).1
  received : ∀ {page : BillingPage}, P page → ∀ clock purpose reply,
    P (page.receive clock purpose reply).1
  changed : ∀ {page : BillingPage}, P page → ∀ old new, P (page.sessionChanged old new).1

namespace Console

theorem of_pageMove {P : BillingPage → Prop} (kept : BillingPage.Kept P) {console next : Console}
    {after : BillingPage} {answer? : Option Answer} (move : PageMove console next after answer?)
    (h : ∀ page, console.screen = .billing page → P page) : P after := by
  cases move with
  | stayed shown => exact h after shown
  | used shown browser event after_eq => exact after_eq ▸ kept.used (h _ shown) browser _ event
  | changed shown _ _ after_eq => exact after_eq ▸ kept.changed (h _ shown) _ _
  | opened _ opens after_eq => exact after_eq ▸ kept.opened opens
  | received shown _ _ after_eq => exact after_eq ▸ kept.received (h _ shown) _ _ _

/-- Such a property holds of the page on screen at every moment of every run. -/
theorem of_reaches {P : BillingPage → Prop} (kept : BillingPage.Kept P) {browser : Browser}
    {console : Console} (reaches : FreelyReaches (start browser) console) {page : BillingPage}
    (shown : console.screen = .billing page) : P page := by
  obtain ⟨answers, run⟩ := freelyReaches_iff.1 reaches
  clear reaches
  induction run generalizing page with
  | opened => cases shown
  | tail _ step ih => exact of_pageMove kept (pageMove_of_step step shown) fun _ => ih

/-- The page on screen, if one is. -/
def page? (console : Console) : Option BillingPage :=
  match console.screen with
  | .billing page => some page
  | .denied | .signIn _ => none

theorem screen_of_page? {console : Console} {page : BillingPage} (h : console.page? = some page) :
    console.screen = .billing page := by
  rw [page?] at h
  split at h
  · next shown => cases h; exact shown
  · cases h
  · cases h

end Console

end BillingConsole
