import BillingConsole.Proofs.Console.Gate

/-!
# Answers do not cross sessions

Answers may be late, and the session may have changed any number of times since they were asked
for.  A page that stays open asks again, under new tickets, when the token changes, and a page that
opens later has a number of its own.  Together they see to it that nothing is taken over that was
asked for with another token than the one in force.

## What is here

* `Console.page_of_turn` — a page on screen went on from the one before, or was opened just now.
* `Console.TicketsHold` — the invariant, and `Console.TicketsHold.step`, that every step keeps it.
* `Console.loaded` — the customers and the report on screen.
* `Console.keptApart` — **an answer is taken over only under the token it was asked for with.**
-/

set_option autoImplicit false

namespace BillingConsole

namespace Console

/-! ## Pages on screen -/

/-- Where a page is on screen after a turn, it was opened just now, or it went on from the one
before and expects nothing of before if the token has changed. -/
theorem page_of_turn {console next : Console} (turn : Turn console next) {after : BillingPage}
    (shown : next.screen = .billing after) :
    (∃ page, console.screen = .billing page ∧ page.Later after ∧
      (console.session.adminToken = next.session.adminToken ∨ page.Renewed after)) ∨
    after.id = console.opened ∧ next.opened = console.opened + 1 := by
  cases turn with
  | stays => exact .inl ⟨after, shown, .refl after, .inl rfl⟩
  | form => cases shown
  | page hpage asks =>
    cases shown
    exact .inl ⟨_, hpage, asks.later, .inl rfl⟩
  | @session effects _ session =>
    have hscreen : ((console.perform effects).nextScreen session).1 = .billing after := shown
    rcases nextScreen_cases (console.perform effects) session with ⟨-, form, heq⟩ | ⟨-, -, heq⟩ |
      ⟨token, hadmin, heq | ⟨page, hpage, heq⟩ | ⟨opened, hopen, heq⟩⟩
    · rw [heq] at hscreen
      cases hscreen
    · rw [heq] at hscreen
      cases hscreen
    · rw [heq] at hscreen
      cases hscreen
    · rw [heq] at hscreen
      cases hscreen
      refine .inl ⟨page, hpage, (page.asks_sessionChanged _ _).later, ?_⟩
      exact or_iff_not_imp_left.2 fun hne => BillingPage.renewed_sessionChanged hadmin hne page
    · rw [heq] at hscreen
      cases hscreen
      obtain ⟨page, hid, asks⟩ := BillingPage.asks_open hopen
      exact .inr ⟨asks.later.id_eq.trans hid, rfl⟩

theorem opened_le_of_turn {console next : Console} (turn : Turn console next) :
    console.opened ≤ next.opened := by
  cases turn with
  | stays | form | page => exact le_rfl
  | session => exact Nat.le_succ _

/-! ## Requests and their tickets -/

/-- A console tracks what was asked for. -/
structure Tracks (console : Console) (call : Call) (purpose : Purpose) : Prop where
  /-- It was asked for by a page that was opened. -/
  page_lt : ∀ id, purpose.page? = some id → id < console.opened
  /-- The page on screen knows what it has asked for. -/
  issued : ∀ page, console.screen = .billing page → purpose.page? = some page.id →
    page.HasIssued purpose
  /-- It expects only what was asked for with the token in force. -/
  token_eq : ∀ page, console.screen = .billing page → purpose.page? = some page.id →
    page.Expects purpose → call.billingToken? = console.session.adminToken

/-- What is about the session is for no page. -/
theorem tracks_of_aboutSession {call : Call} {purpose : Purpose} (h : call.AboutSession purpose)
    (console : Console) : console.Tracks call purpose := by
  have hnone (id : Nat) : purpose.page? ≠ some id := by
    rw [h.page?_eq]
    exact Option.some_ne_none id |>.symm
  exact ⟨fun id hid => absurd hid (hnone id), fun page _ hid => absurd hid (hnone page.id),
    fun page _ hid => absurd hid (hnone page.id)⟩

/-- What is asked for just now is tracked. -/
theorem tracks_of_maySend {console : Console} {call : Call} {purpose : Purpose}
    (page_lt : ∀ page, console.screen = .billing page → page.id < console.opened)
    (h : console.MaySend call purpose) : console.Tracks call purpose := by
  rcases h with habout | ⟨page, shown, sends⟩
  · exact tracks_of_aboutSession habout console
  · refine ⟨fun id hid => ?_, fun other hother _ => ?_, fun _ _ _ _ => ?_⟩
    · obtain rfl := Option.some.inj (sends.page_eq.symm.trans hid)
      exact page_lt page shown
    · cases shown.symm.trans hother
      exact sends.issued
    · obtain ⟨token, hadmin, hcall⟩ := sends.token_eq
      rw [hadmin, hcall]

/-- What was asked for earlier stays tracked: a page that went on knows of it, and expects it only
while the token stays the same; a new page has another number. -/
theorem Tracks.turn {console next : Console} {call : Call} {purpose : Purpose}
    (h : console.Tracks call purpose) (turn : Turn console next) : next.Tracks call purpose := by
  -- pages count up, so nothing was asked for by a page that opens only now
  have hnew {after : BillingPage} (hafter : after.id = console.opened) :
      purpose.page? ≠ some after.id :=
    fun hid => Nat.lt_irrefl _ (h.page_lt console.opened (hafter ▸ hid))
  refine ⟨fun id hid => Nat.lt_of_lt_of_le (h.page_lt id hid) (opened_le_of_turn turn),
    fun after shown hid => ?_, fun after shown hid expects => ?_⟩
  · rcases page_of_turn turn shown with ⟨page, hpage, later, -⟩ | ⟨hafter, -⟩
    · exact (h.issued page hpage (later.id_eq ▸ hid)).later later
    · exact absurd hid (hnew hafter)
  · rcases page_of_turn turn shown with ⟨page, hpage, later, hsame⟩ | ⟨hafter, -⟩
    · -- an answer that is expected has the latest ticket, which is not older than the token
      have issued := h.issued page hpage (later.id_eq ▸ hid)
      rcases hsame with hsame | renewed
      · rw [← hsame]
        exact h.token_eq page hpage (later.id_eq ▸ hid) (expects.of_later issued later)
      · exact absurd expects (renewed.not_expects issued)
    · exact absurd hid (hnew hafter)

/-- Pages count up, and whatever was asked for is tracked. -/
structure TicketsHold (console : Console) : Prop where
  page_lt : ∀ page, console.screen = .billing page → page.id < console.opened
  tracks : ∀ call purpose, (call, purpose) ∈ console.host.asked → console.Tracks call purpose

theorem ticketsHold_start (browser : Browser) : (start browser).TicketsHold where
  page_lt _ shown := by cases shown
  tracks _ _ hmem := tracks_of_aboutSession (aboutSession_of_asked_start hmem) _

theorem TicketsHold.turn {console next : Console} (h : console.TicketsHold)
    (turn : Turn console next) : next.TicketsHold := by
  have page_lt (after : BillingPage) (shown : next.screen = .billing after) :
      after.id < next.opened := by
    rcases page_of_turn turn shown with ⟨page, hpage, later, -⟩ | ⟨hafter, hopened⟩
    · rw [later.id_eq]
      exact Nat.lt_of_lt_of_le (h.page_lt page hpage) (opened_le_of_turn turn)
    · rw [hafter, hopened]
      exact Nat.lt_succ_self _
  obtain ⟨more, hasked, hmore⟩ := asked_of_turn turn
  refine ⟨page_lt, fun call purpose hmem => ?_⟩
  rw [hasked, List.mem_append] at hmem
  rcases hmem with hold | hnew
  · exact (h.tracks call purpose hold).turn turn
  · exact tracks_of_maySend page_lt (hmore call purpose hnew)

/-- Every step keeps it. -/
theorem TicketsHold.step {console next : Console} (h : console.TicketsHold)
    (step : FreeStep console next) : next.TicketsHold := by
  obtain ⟨host, hasked, turn⟩ := turn_of_freeStep step
  have hhost : { console with host }.TicketsHold := by
    refine ⟨h.page_lt, fun call purpose hmem => ?_⟩
    have tracks := h.tracks call purpose (hasked ▸ hmem)
    exact ⟨tracks.page_lt, tracks.issued, tracks.token_eq⟩
  exact hhost.turn turn

theorem ticketsHold_of_reaches {browser : Browser} {console : Console}
    (reaches : FreelyReaches (start browser) console) : console.TicketsHold := by
  induction reaches with
  | refl => exact ticketsHold_start browser
  | tail _ step ih => exact ih.step step

/-! ## Answers -/

/-- The customers and the report on screen, with the state of their loads. -/
def loaded (console : Console) : Option (CustomerList × SpendPanel) :=
  match console.screen with
  | .billing page => some page.loaded
  | .denied | .signIn _ => none

/-- An answer for another page is dropped. -/
theorem receive_of_page_ne {console : Console} {page : BillingPage}
    (shown : console.screen = .billing page) {purpose : Purpose}
    (habout : purpose.aboutSession = false) (hne : purpose.page? ≠ some page.id) (reply : Reply) :
    console.receive purpose reply = console := by
  have hpage (id : Nat) (hid : id ≠ page.id) :
      console.receiveOnPage id purpose reply = console := by
    simp only [receiveOnPage, shown, if_neg (Ne.symm hid)]
  cases purpose with
  | restore | signIn | signOut => cases habout
  | customers id | report id | detail id => exact hpage id fun heq => hne (congrArg some heq)

/-- What an answer for a page changes, the page has expected. -/
theorem expects_of_receive {console : Console} {purpose : Purpose} {reply : Reply}
    (habout : purpose.aboutSession = false)
    (h : (console.receive purpose reply).loaded ≠ console.loaded) :
    ∃ page, console.screen = .billing page ∧ purpose.page? = some page.id ∧
      page.Expects purpose := by
  rcases receive_page habout console reply with heq | ⟨page, shown, heq⟩
  · rw [heq] at h
    exact absurd rfl h
  · by_cases hid : purpose.page? = some page.id
    · have hchanged :
          (page.receive console.host.browser.clock purpose reply).1.loaded ≠ page.loaded := by
        intro hkept
        refine h ?_
        rw [heq, loaded, loaded, shown]
        exact congrArg some hkept
      exact ⟨page, shown, hid, BillingPage.expects_of_receive hchanged⟩
    · rw [receive_of_page_ne shown habout hid] at h
      exact absurd rfl h

/-- What an answer does is decided by the request in its place. -/
theorem answer_of_sent {console : Console} {place : Nat} {sent : Sent}
    (hsent : console.host.sent[place]? = some sent) (reply : Reply) :
    (console.answer place reply).2 = console ∨ ∃ host,
      (console.answer place reply).2 = { console with host }.receive sent.purpose reply := by
  rcases answer_cases console place reply with ⟨heq, -⟩ | ⟨purpose, host, htake, heq⟩
  · exact .inl heq
  · obtain ⟨call, waits⟩ := Host.waits_of_take htake
    cases hsent.symm.trans waits
    exact .inr ⟨host, heq⟩

section

variable {browser : Browser} {console : Console} {place : Nat} {sent : Sent}

/-- The answer to a request for billing data is not about the session. -/
theorem not_aboutSession_of_sent (reaches : FreelyReaches (start browser) console)
    (hsent : console.host.sent[place]? = some sent) (hbilling : sent.call.AsksForBilling) :
    sent.purpose.aboutSession = false := by
  by_contra habout
  have hpage : sent.purpose.page? = none := by
    cases hpurpose : sent.purpose with
    | restore | signIn | signOut => rfl
    | customers | report | detail => exact absurd (by rw [hpurpose]; rfl) habout
  have hasked := List.mem_of_getElem? (Host.asked_of_sent hsent)
  exact (aboutSession_of_asked reaches hasked hpage).not_asksForBilling hbilling

/-- Such an answer leaves the session alone. -/
theorem session_answer (reaches : FreelyReaches (start browser) console)
    (hsent : console.host.sent[place]? = some sent) (hbilling : sent.call.AsksForBilling)
    (reply : Reply) : (console.answer place reply).2.session = console.session := by
  have habout := not_aboutSession_of_sent reaches hsent hbilling
  rcases answer_of_sent hsent reply with heq | ⟨host, heq⟩
  · rw [heq]
  · rcases receive_page habout { console with host } reply with hkept | ⟨page, -, hpage⟩
    · rw [heq, hkept]
    · rw [heq, hpage]
      rfl

/-- If something is taken over from it, it was asked for with the token in force. -/
theorem billingToken?_of_loaded_ne (reaches : FreelyReaches (start browser) console)
    (hsent : console.host.sent[place]? = some sent) (hbilling : sent.call.AsksForBilling)
    {reply : Reply} (h : (console.answer place reply).2.loaded ≠ console.loaded) :
    sent.call.billingToken? = console.session.adminToken := by
  rcases answer_of_sent hsent reply with heq | ⟨host, heq⟩
  · rw [heq] at h
    exact absurd rfl h
  · rw [heq] at h
    obtain ⟨page, shown, hid, expects⟩ :=
      expects_of_receive (not_aboutSession_of_sent reaches hsent hbilling) h
    have tracks := (ticketsHold_of_reaches reaches).tracks sent.call sent.purpose
      (List.mem_of_getElem? (Host.asked_of_sent hsent))
    exact tracks.token_eq page shown hid expects

end

/-- An answer to a request for billing data is kept apart from sessions with other tokens. -/
structure KeptApart (console : Console) (place : Nat) (call : Call) (reply : Reply) : Prop where
  session_eq : (console.answer place reply).2.session = console.session
  /-- What is taken over was asked for with the token that opens billing at this moment. -/
  taken : (console.answer place reply).2.loaded ≠ console.loaded →
    ∃ token, console.session.adminToken = some token ∧
      ∀ base, (call.request base).headers = [("Authorization", bearer token)]
  /-- What was asked for with another token is dropped. -/
  dropped : ∀ token, (∀ base, (call.request base).headers = [("Authorization", bearer token)]) →
    console.session.adminToken ≠ some token →
      (console.answer place reply).2.loaded = console.loaded

theorem bearer_inj {token other : String} : bearer token = bearer other ↔ token = other :=
  String.append_right_inj _

/-- **Answers do not cross sessions.**  However the session has changed since, and in whatever order
requests are answered, an answer changes what was loaded of the customers and of the report only if
its request carried the token that opens billing at the moment it comes. -/
theorem keptApart {browser : Browser} {console : Console}
    (reaches : FreelyReaches (start browser) console) {place : Nat} {sent : Sent}
    (hsent : console.host.sent[place]? = some sent) (hbilling : sent.call.AsksForBilling)
    (reply : Reply) : KeptApart console place sent.call reply := by
  obtain ⟨token, hcall⟩ := Call.asksForBilling_iff.1 hbilling
  have hheaders := Call.headers_of_billingToken? hcall
  have taken (h : (console.answer place reply).2.loaded ≠ console.loaded) :
      console.session.adminToken = some token :=
    (billingToken?_of_loaded_ne reaches hsent hbilling h).symm.trans hcall
  refine ⟨session_answer reaches hsent hbilling reply, fun h => ⟨token, taken h, hheaders⟩, ?_⟩
  intro other hother hne
  by_contra h
  have heq := (hheaders "").symm.trans (hother "")
  rw [List.singleton_inj, Prod.mk.injEq, bearer_inj] at heq
  exact hne (heq.2 ▸ taken h)

/-- While the customers are on their way, somebody else turns up whom billing is open to: the late
answer is dropped, and the one that was asked for with the new token is taken over. -/
theorem keptApart_overtaken : ∃ (browser : Browser) (console : Console) (late latest : Sent)
    (reply : Reply), FreelyReaches (start browser) console ∧
      console.host.sent[0]? = some late ∧ late.call.AsksForBilling ∧
      console.host.sent[2]? = some latest ∧ latest.call.AsksForBilling ∧
      console.session.adminToken = some "new" ∧
      (console.answer 2 reply).2.loaded ≠ console.loaded ∧
      KeptApart console 0 late.call reply ∧ KeptApart console 2 latest.call reply := by
  have opens : (start ⟨true, true, true, .working, some "https://gw.test", [], none,
      ⟨1710496800, 0⟩⟩).host.halted = false := rfl
  have first := Relation.ReflTransGen.single
    (FreeStep.sessionChanged opens ⟨some "old", some ⟨"1", "ann", none, none, .proxyAdmin⟩⟩)
  have second := first.tail (.sessionChanged (by decide +kernel)
    ⟨some "new", some ⟨"2", "ops", none, none, .orgAdmin⟩⟩)
  have asks (token : String) : (Call.customers token).AsksForBilling :=
    Call.asksForBilling_iff.2 ⟨token, rfl⟩
  obtain ⟨console, run, hlate, hlatest, hadmin, hchanged⟩ : ∃ console : Console,
      FreelyReaches (start _) console ∧
        console.host.sent[0]? = some ⟨.customers "old", .customers 1 1, false⟩ ∧
        console.host.sent[2]? = some ⟨.customers "new", .customers 1 2, false⟩ ∧
        console.session.adminToken = some "new" ∧
        (console.answer 2 (.answered 200 "[]")).2.loaded ≠ console.loaded :=
    ⟨_, second, by decide +kernel, by decide +kernel, by decide +kernel, by decide +kernel⟩
  exact ⟨_, console, _, _, _, run, hlate, asks "old", hlatest, asks "new", hadmin, hchanged,
    keptApart run hlate (asks "old") _, keptApart run hlatest (asks "new") _⟩

end Console

end BillingConsole
