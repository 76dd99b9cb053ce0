import BillingConsole.Proofs.Console.Session
import BillingConsole.Proofs.Console.SessionRequests
import BillingConsole.Proofs.Gateway.Reply

/-!
# Restoring a session on its own

A console restores the session that its browser has kept, and nobody signs in or out meanwhile.
Whatever else is used, and in whatever order the other requests are answered, restoring goes one
way: from request to request, as far as the answers let it.

## What is here

* `Restoration` — how far restoring has come, one constructor for each place it may be in, with the
  answers it got, the requests it sent, the session and the stored items.
* `Console.RestoredAlone` — the runs; `Console.RestoreHolds` — the invariant, which
  `Console.RestoreHolds.restored` says an answer keeps.
* `Console.Restores`, `Console.restores_alone` — **what restoring sends, when it succeeds and what
  it leaves behind.**
-/

set_option autoImplicit false

namespace BillingConsole

/-! ## The requests and the items -/

namespace Sent

/-- The gateway is asked whose the stored access token is. -/
def checks (token : String) (answered : Bool) : Sent :=
  ⟨.currentUser token, .restore (.checking token), answered⟩

/-- The stored refresh token is exchanged. -/
def exchanges (refreshToken : String) (answered : Bool) : Sent :=
  ⟨.refresh refreshToken, .restore .refreshing, answered⟩

/-- The gateway is asked whose the new access token is. -/
def rechecks (token : String) (answered : Bool) : Sent :=
  ⟨.currentUser token, .restore (.rechecking token), answered⟩

end Sent

namespace Browser

/-- The items without the tokens. -/
def itemsCleared (browser : Browser) : List (String × String) :=
  removeEntry refreshTokenItem (removeEntry accessTokenItem browser.items)

/-- The items with a new access token. -/
def itemsRenewed (browser : Browser) (token : String) : List (String × String) :=
  setEntry accessTokenItem token browser.items

/-- Neither of the tokens is found any more. -/
theorem lookup_itemsCleared (browser : Browser) :
    browser.itemsCleared.lookup accessTokenItem = none ∧
      browser.itemsCleared.lookup refreshTokenItem = none := by
  rw [itemsCleared, lookup_removeEntry, lookup_removeEntry, lookup_removeEntry, if_pos rfl,
    if_pos rfl, ite_self]
  exact ⟨rfl, rfl⟩

/-- The stored access token was rejected, and there is a refresh token. -/
structure Exchanges (browser : Browser) (token refreshToken : String) (reply : Reply) : Prop where
  access_eq : browser.accessToken? = some token
  rejected : ∃ error, reply.user = .error error
  refresh_eq : browser.refreshToken? = some refreshToken

end Browser

/-! ## How far restoring has come -/

/-- How far restoring has come in a browser that had some items at first: the answers it got, the
requests it sent, the session and the items. -/
inductive Restoration (browser : Browser) :
    List Reply → List Sent → Session → List (String × String) → Prop
  /-- There is nothing to restore. -/
  | idle (haccess : browser.accessToken? = none) :
      Restoration browser [] [] .signedOut browser.items
  | checking {token : String} (haccess : browser.accessToken? = some token) :
      Restoration browser [] [.checks token false] .signedOut browser.items
  /-- The stored access token is good. -/
  | known {token : String} {reply : Reply} {user : User}
      (haccess : browser.accessToken? = some token) (hnamed : reply.user = .ok user) :
      Restoration browser [reply] [.checks token true] ⟨some token, some user⟩ browser.items
  /-- It is not, and there is no refresh token. -/
  | lacking {token : String} {reply : Reply} {error : ApiError}
      (haccess : browser.accessToken? = some token) (hrejected : reply.user = .error error)
      (hrefresh : browser.refreshToken? = none) :
      Restoration browser [reply] [.checks token true] .signedOut browser.itemsCleared
  | refreshing {token refreshToken : String} {reply : Reply}
      (exchanges : browser.Exchanges token refreshToken reply) :
      Restoration browser [reply] [.checks token true, .exchanges refreshToken false] .signedOut
        browser.items
  /-- The refresh token is not exchanged. -/
  | refused {token refreshToken : String} {reply refusal : Reply} {error : ApiError}
      (exchanges : browser.Exchanges token refreshToken reply)
      (hrefused : refusal.refreshed = .error error) :
      Restoration browser [reply, refusal]
        [.checks token true, .exchanges refreshToken true] .signedOut browser.itemsCleared
  | rechecking {token refreshToken : String} {reply issue : Reply} {answer : RefreshAnswer}
      (exchanges : browser.Exchanges token refreshToken reply)
      (hissued : issue.refreshed = .ok answer) :
      Restoration browser [reply, issue]
        [.checks token true, .exchanges refreshToken true, .rechecks answer.accessToken false]
        .signedOut (browser.itemsRenewed answer.accessToken)
  /-- The new access token is good. -/
  | renewed {token refreshToken : String} {reply issue naming : Reply} {answer : RefreshAnswer}
      {user : User} (exchanges : browser.Exchanges token refreshToken reply)
      (hissued : issue.refreshed = .ok answer) (hnamed : naming.user = .ok user) :
      Restoration browser [reply, issue, naming]
        [.checks token true, .exchanges refreshToken true, .rechecks answer.accessToken true]
        ⟨some answer.accessToken, some user⟩ (browser.itemsRenewed answer.accessToken)
  /-- It is not either. -/
  | rejected {token refreshToken : String} {reply issue rejection : Reply} {answer : RefreshAnswer}
      {error : ApiError} (exchanges : browser.Exchanges token refreshToken reply)
      (hissued : issue.refreshed = .ok answer) (hrejected : rejection.user = .error error) :
      Restoration browser [reply, issue, rejection]
        [.checks token true, .exchanges refreshToken true, .rechecks answer.accessToken true]
        .signedOut (browser.itemsRenewed answer.accessToken)

/-- Nothing else is waited for. -/
theorem Restoration.purpose_eq {browser : Browser} {replies : List Reply} {requests : List Sent}
    {session : Session} {items : List (String × String)}
    (stands : Restoration browser replies requests session items) {call : Call} {purpose : Purpose}
    (h : ⟨call, purpose, false⟩ ∈ requests) : ∃ stage, purpose = .restore stage := by
  cases stands <;> simp_all [Sent.checks, Sent.exchanges, Sent.rechecks]

/-! ## What restoring sends and leaves behind -/

/-- A request waits for its answer. -/
def Sent.Waits (requests : List Sent) : Prop := ∃ sent ∈ requests, sent.answered = false

namespace Restoration

variable {browser : Browser} {replies : List Reply} {requests : List Sent} {session : Session}
  {items : List (String × String)}

/-- Without a stored access token nothing is sent and nothing changes. -/
theorem nothing (stands : Restoration browser replies requests session items)
    (h : browser.accessToken? = none) :
    requests = [] ∧ session = .signedOut ∧ items = browser.items := by
  cases stands with
  | idle => exact ⟨rfl, rfl, rfl⟩
  | checking haccess | known haccess | lacking haccess => cases h.symm.trans haccess
  | refreshing exchanges | refused exchanges | rechecking exchanges | renewed exchanges
  | rejected exchanges => cases h.symm.trans exchanges.access_eq

theorem first_iff (stands : Restoration browser replies requests session items) (call : Call) :
    (requests.map Sent.call)[0]? = some call ↔
      ∃ token, browser.accessToken? = some token ∧ call = .currentUser token := by
  cases stands with
  | idle haccess => simp [haccess]
  | checking haccess | known haccess | lacking haccess => simp [haccess, Sent.checks, eq_comm]
  | refreshing exchanges | refused exchanges | rechecking exchanges | renewed exchanges
  | rejected exchanges => simp [exchanges.access_eq, Sent.checks, eq_comm]

theorem second_iff (stands : Restoration browser replies requests session items) (call : Call) :
    (requests.map Sent.call)[1]? = some call ↔
      ∃ reply error token, replies[0]? = some reply ∧ reply.user = .error error ∧
        browser.refreshToken? = some token ∧ call = .refresh token := by
  cases stands with
  | idle | checking => simp
  | known _ hnamed => simp [hnamed]
  | lacking _ _ hrefresh => simp [hrefresh]
  | refreshing exchanges | refused exchanges | rechecking exchanges | renewed exchanges
  | rejected exchanges =>
    obtain ⟨error, hrejected⟩ := exchanges.rejected
    simp [exchanges.refresh_eq, hrejected, Sent.exchanges, eq_comm]

theorem third_iff (stands : Restoration browser replies requests session items) (call : Call) :
    (requests.map Sent.call)[2]? = some call ↔
      ∃ reply answer, replies[1]? = some reply ∧ reply.refreshed = .ok answer ∧
        call = .currentUser answer.accessToken := by
  cases stands with
  | idle | checking | known | lacking | refreshing => simp
  | refused _ hrefused => simp [hrefused]
  | rechecking _ hissued | renewed _ hissued | rejected _ hissued =>
    simp [hissued, Sent.rechecks, eq_comm]

theorem length_le (stands : Restoration browser replies requests session items) :
    (requests.map Sent.call).length ≤ 3 := by
  cases stands <;> simp

theorem answered_le (stands : Restoration browser replies requests session items) :
    replies.length ≤ (requests.map Sent.call).length := by
  cases stands <;> simp

theorem waits_iff (stands : Restoration browser replies requests session items) :
    Sent.Waits requests ↔ replies.length < (requests.map Sent.call).length := by
  cases stands <;> simp [Sent.Waits, Sent.checks, Sent.exchanges, Sent.rechecks]

/-- Who is signed in is the user of the token that was asked about last, and that token is
stored. -/
theorem signedIn (stands : Restoration browser replies requests session items)
    (stored : browser.StoresItems) (hsession : session ≠ .signedOut) :
    ¬Sent.Waits requests ∧ ∃ token user, session = ⟨some token, some user⟩ ∧
      (requests.map Sent.call).getLast? = some (.currentUser token) ∧
      (∃ reply, replies.getLast? = some reply ∧ reply.user = .ok user) ∧
      items.lookup Browser.accessTokenItem = some token := by
  rw [stands.waits_iff]
  cases stands with
  | @known token reply user haccess hnamed =>
    rw [Browser.accessToken?, Browser.token?_of_storesItems stored, Option.filter_eq_some_iff]
      at haccess
    exact ⟨Nat.lt_irrefl 1, token, user, rfl, rfl, ⟨reply, rfl, hnamed⟩, haccess.1⟩
  | @renewed _ _ _ _ naming answer user _ _ hnamed =>
    refine ⟨Nat.lt_irrefl 3, answer.accessToken, user, rfl, rfl, ⟨naming, rfl, hnamed⟩, ?_⟩
    rw [Browser.itemsRenewed, lookup_setEntry, if_pos rfl]
  | idle | checking | lacking | refreshing | refused | rechecking | rejected =>
    exact absurd rfl hsession

/-- Restoring that has ended with the user of a token has signed them in. -/
theorem signedIn_of_named (stands : Restoration browser replies requests session items)
    (ended : ¬Sent.Waits requests) {token : String} {reply : Reply} {user : User}
    (hcall : (requests.map Sent.call).getLast? = some (.currentUser token))
    (hreply : replies.getLast? = some reply) (hnamed : reply.user = .ok user) :
    session ≠ .signedOut := by
  rw [stands.waits_iff] at ended
  cases stands with
  | known | renewed => exact nofun
  | idle => cases hcall
  | checking | refreshing | rechecking => exact absurd (Nat.lt_succ_self _) ended
  | lacking _ hrejected | rejected _ _ hrejected =>
    cases hreply
    cases hrejected.symm.trans hnamed
  | refused => cases hcall

/-- Where the tokens turn out to be worth nothing, both are gone. -/
theorem forgotten (stands : Restoration browser replies requests session items)
    (h : (∃ reply error, replies[0]? = some reply ∧ reply.user = .error error ∧
        browser.refreshToken? = none) ∨
      ∃ reply error, replies[1]? = some reply ∧ reply.refreshed = .error error) :
    ¬Sent.Waits requests ∧ session = .signedOut ∧
      items.lookup Browser.accessTokenItem = none ∧
      items.lookup Browser.refreshTokenItem = none := by
  rw [stands.waits_iff]
  cases stands with
  | lacking | refused => exact ⟨Nat.lt_irrefl _, rfl, browser.lookup_itemsCleared⟩
  | idle | checking => simp at h
  | known _ hnamed => simp [hnamed] at h
  | refreshing exchanges => simp [exchanges.refresh_eq] at h
  | rechecking exchanges hissued | renewed exchanges hissued | rejected exchanges hissued =>
    simp [exchanges.refresh_eq, hissued] at h

/-- Where only the new access token turns out to be worth nothing, it stays with the refresh
token. -/
theorem kept (stands : Restoration browser replies requests session items)
    (h : ∃ reply error, replies[2]? = some reply ∧ reply.user = .error error) :
    ¬Sent.Waits requests ∧ session = .signedOut ∧
      (∃ issue answer, replies[1]? = some issue ∧ issue.refreshed = .ok answer ∧
        items.lookup Browser.accessTokenItem = some answer.accessToken) ∧
      items.lookup Browser.refreshTokenItem = browser.items.lookup Browser.refreshTokenItem := by
  rw [stands.waits_iff]
  cases stands with
  | @rejected _ _ _ issue _ answer _ _ hissued =>
    refine ⟨Nat.lt_irrefl 3, rfl, ⟨issue, answer, rfl, hissued, ?_⟩, ?_⟩
    · rw [Browser.itemsRenewed, lookup_setEntry, if_pos rfl]
    · rw [Browser.itemsRenewed, lookup_setEntry, if_neg (by decide)]
  | renewed _ _ hnamed => simp [hnamed] at h
  | idle | checking | known | lacking | refreshing | refused | rechecking => simp at h

end Restoration

namespace Console

/-! ## Runs -/

/-- The consoles that restoring leads to, and the answers it got, while nobody signs in or out.
Controls are used, requests are answered in any order, with anything, and time passes. -/
inductive RestoredAlone (browser : Browser) : List Reply → Console → Prop
  | opened : RestoredAlone browser [] (start browser)
  | used {replies : List Reply} {console : Console} (run : RestoredAlone browser replies console)
      (live : console.host.halted = false) {event : ConsoleEvent}
      (other : event.aboutSession = false) : RestoredAlone browser replies (console.handle event)
  /-- An answer comes that restoring waits for. -/
  | restored {replies : List Reply} {console : Console}
      (run : RestoredAlone browser replies console)
      (live : console.host.halted = false) {place : Nat} {stage : RestoreStage}
      (waits : console.host.Waits place (.restore stage)) (reply : Reply) :
      RestoredAlone browser (replies ++ [reply]) (console.answer place reply).2
  /-- Another answer comes. -/
  | answered {replies : List Reply} {console : Console}
      (run : RestoredAlone browser replies console)
      (live : console.host.halted = false) {place : Nat}
      (other : ∀ stage, ¬console.host.Waits place (.restore stage)) (reply : Reply) :
      RestoredAlone browser replies (console.answer place reply).2
  | ticked {replies : List Reply} {console : Console} (run : RestoredAlone browser replies console)
      (live : console.host.halted = false) (clock : Clock) :
      RestoredAlone browser replies
        (stage.setBrowser console { console.host.browser with clock })

/-- Restoring has come somewhere, in a browser that still stores items. -/
structure RestoreHolds (browser : Browser) (replies : List Reply) (console : Console) : Prop where
  stored : browser.StoresItems
  stores : console.host.browser.StoresItems
  stands : Restoration browser replies console.host.sessionRequests console.session
    console.host.browser.items

namespace RestoreHolds

variable {browser : Browser} {replies : List Reply} {console next : Console}

theorem start (stores : browser.StoresItems) : RestoreHolds browser [] (start browser) := by
  rw [Console.start, startRestore]
  cases haccess : browser.accessToken? with
  | none => exact ⟨stores, stores, .idle haccess⟩
  | some token => exact ⟨stores, stores, .checking haccess⟩

theorem keep (holds : RestoreHolds browser replies console) (keeps : KeepsSession console next) :
    RestoreHolds browser replies next := by
  refine ⟨holds.stored, ?_, ?_⟩
  · rw [keeps.browser_eq]
    exact holds.stores
  · rw [keeps.requests_eq, keeps.session_eq, keeps.browser_eq]
    exact holds.stands

/-- What is done for an answer, and the session if it is known now. -/
theorem perform {effects : List Effect} {session? : Option Session}
    (stored : browser.StoresItems)
    (stores : (console.host.performAll effects).browser.StoresItems)
    (stands : Restoration browser replies
      (console.host.sessionRequests ++ Host.sessionAsks effects) (session?.getD console.session)
      (console.host.performAll effects).browser.items) :
    RestoreHolds browser replies ((console.perform effects).setSession? session?) := by
  rw [← Host.sessionRequests_performAll] at stands
  cases session? with
  | none => exact ⟨stored, stores, stands⟩
  | some session =>
    obtain ⟨hrequests, hbrowser⟩ := keeps_setSession (console.perform effects) session
    refine ⟨stored, ?_, ?_⟩
    · rw [setSession?, hbrowser]
      exact stores
    · rw [setSession?, hrequests, hbrowser]
      exact stands

/-- The answer to whose the stored access token is. -/
theorem checked (stored : browser.StoresItems) (stores : console.host.browser.StoresItems)
    {token : String} (haccess : browser.accessToken? = some token)
    (hrequests : console.host.sessionRequests = [.checks token true])
    (hsession : console.session = .signedOut)
    (hitems : console.host.browser.items = browser.items) (reply : Reply) :
    RestoreHolds browser [reply] (console.receive (.restore (.checking token)) reply) := by
  have hrefresh : console.host.browser.refreshToken? = browser.refreshToken? := by
    rw [Browser.refreshToken?, Browser.refreshToken?, Browser.token?_of_storesItems stores,
      Browser.token?_of_storesItems stored, hitems]
  rw [receive_restore, resumeRestore]
  cases hreply : reply.user with
  | ok user =>
    refine perform stored stores ?_
    rw [hrequests]
    exact hitems ▸ .known haccess hreply
  | error error =>
    rw [hrefresh]
    cases htoken : browser.refreshToken? with
    | none =>
      have hcleared := Browser.clearTokens_of_storesItems stores
      refine perform stored ?_ ?_
      · change console.host.browser.clearTokens.StoresItems
        rw [hcleared]
        exact stores
      · change Restoration browser [reply] (console.host.sessionRequests ++ []) console.session
          console.host.browser.clearTokens.items
        rw [hrequests, hsession, hcleared, hitems]
        exact .lacking haccess hreply htoken
    | some refreshToken =>
      refine perform stored stores ?_
      change Restoration browser [reply]
        (console.host.sessionRequests ++ [.exchanges refreshToken false]) console.session
        console.host.browser.items
      rw [hrequests, hsession, hitems]
      exact .refreshing ⟨haccess, ⟨error, hreply⟩, htoken⟩

/-- The answer to the exchange of the refresh token. -/
theorem exchanged (stored : browser.StoresItems) (stores : console.host.browser.StoresItems)
    {token refreshToken : String} {reply : Reply}
    (exchanges : browser.Exchanges token refreshToken reply)
    (hrequests : console.host.sessionRequests =
      [.checks token true, .exchanges refreshToken true])
    (hsession : console.session = .signedOut)
    (hitems : console.host.browser.items = browser.items) (issue : Reply) :
    RestoreHolds browser [reply, issue] (console.receive (.restore .refreshing) issue) := by
  rw [receive_restore, resumeRestore]
  cases hissue : issue.refreshed with
  | ok answer =>
    have hsaved := Browser.saveToken_of_storesItems stores Browser.accessTokenItem
      answer.accessToken
    have hbrowser : (console.host.performAll [.saveToken Browser.accessTokenItem answer.accessToken,
        askUser answer.accessToken (.rechecking answer.accessToken)]).browser =
        (console.host.browser.saveToken Browser.accessTokenItem answer.accessToken).1 := rfl
    refine perform stored ?_ ?_
    · rw [hbrowser, hsaved]
      exact stores
    · rw [hbrowser, hsaved, hrequests]
      change Restoration browser [reply, issue] [.checks token true, .exchanges refreshToken true,
        .rechecks answer.accessToken false] console.session
        (setEntry Browser.accessTokenItem answer.accessToken console.host.browser.items)
      rw [hsession, hitems]
      exact .rechecking exchanges hissue
  | error error =>
    have hcleared := Browser.clearTokens_of_storesItems stores
    refine perform stored ?_ ?_
    · change console.host.browser.clearTokens.StoresItems
      rw [hcleared]
      exact stores
    · change Restoration browser [reply, issue] (console.host.sessionRequests ++ [])
        console.session console.host.browser.clearTokens.items
      rw [hrequests, hsession, hcleared, hitems]
      exact .refused exchanges hissue

/-- The answer to whose the new access token is. -/
theorem rechecked (stored : browser.StoresItems) (stores : console.host.browser.StoresItems)
    {token refreshToken : String} {reply issue : Reply} {answer : RefreshAnswer}
    (exchanges : browser.Exchanges token refreshToken reply)
    (hissued : issue.refreshed = .ok answer)
    (hrequests : console.host.sessionRequests = [.checks token true,
      .exchanges refreshToken true, .rechecks answer.accessToken true])
    (hsession : console.session = .signedOut)
    (hitems : console.host.browser.items = browser.itemsRenewed answer.accessToken)
    (last : Reply) :
    RestoreHolds browser [reply, issue, last]
      (console.receive (.restore (.rechecking answer.accessToken)) last) := by
  rw [receive_restore, resumeRestore]
  cases hlast : last.user with
  | ok user =>
    refine perform stored stores ?_
    rw [hrequests]
    exact hitems ▸ .renewed exchanges hissued hlast
  | error error =>
    refine perform stored stores ?_
    rw [hrequests]
    exact hitems ▸ hsession ▸ .rejected exchanges hissued hlast

/-- **An answer leads restoring on.** -/
theorem restored (holds : RestoreHolds browser replies console) {place : Nat}
    {stage : RestoreStage} (waits : console.host.Waits place (.restore stage)) (reply : Reply) :
    RestoreHolds browser (replies ++ [reply]) (console.answer place reply).2 := by
  obtain ⟨stored, stores, stands⟩ := holds
  obtain ⟨call, hmem⟩ := Host.mem_sessionRequests_of_waits waits rfl
  obtain ⟨host, htake, hanswer⟩ := answer_of_waits waits reply
  have hbrowser : host.browser = console.host.browser := Host.browser_take htake
  have htaken {done : List Sent} {last : Sent}
      (hrequests : console.host.sessionRequests = done ++ [last])
      (hdone : ∀ sent ∈ done, sent.answered = true) :=
    Host.sessionRequests_take htake rfl hrequests hdone
  rw [hanswer]
  rw [← hbrowser] at stores stands
  obtain ⟨requests, session, items, hrequests, hsession, hitems, stands⟩ :
      ∃ requests session items, console.host.sessionRequests = requests ∧
        console.session = session ∧ host.browser.items = items ∧
        Restoration browser replies requests session items := ⟨_, _, _, rfl, rfl, rfl, stands⟩
  rw [hrequests] at hmem
  -- restoring waits for an answer in three places, and only for the request that was sent last
  cases stands with
  | checking haccess =>
    obtain ⟨hpurpose, hnext⟩ := @htaken [] _ hrequests (by simp)
    cases hpurpose
    exact @checked _ { console with host } stored stores _ haccess hnext hsession hitems reply
  | refreshing exchanges =>
    obtain ⟨hpurpose, hnext⟩ := @htaken [_] _ hrequests (by simp [Sent.checks])
    cases hpurpose
    exact @exchanged _ { console with host } stored stores _ _ _ exchanges hnext hsession hitems
      reply
  | rechecking exchanges hissued =>
    obtain ⟨hpurpose, hnext⟩ := @htaken [_, _] _ hrequests (by simp [Sent.checks, Sent.exchanges])
    cases hpurpose
    exact @rechecked _ { console with host } stored stores _ _ _ _ _ exchanges hissued hnext
      hsession hitems reply
  | idle | known | lacking | refused | renewed | rejected =>
    simp [Sent.checks, Sent.exchanges, Sent.rechecks] at hmem

/-- Any other answer leaves restoring alone. -/
theorem answered (holds : RestoreHolds browser replies console) {place : Nat}
    (other : ∀ stage, ¬console.host.Waits place (.restore stage)) (reply : Reply) :
    RestoreHolds browser replies (console.answer place reply).2 := by
  rcases answer_cases console place reply with ⟨heq, -⟩ | ⟨purpose, host, htake, heq⟩
  · rw [heq]
    exact holds
  · have waits := Host.waits_of_take htake
    cases habout : purpose.aboutSession with
    | true =>
      obtain ⟨call, hmem⟩ := Host.mem_sessionRequests_of_waits waits habout
      obtain ⟨stage, rfl⟩ := holds.stands.purpose_eq hmem
      exact absurd waits (other stage)
    | false =>
      have taken : KeepsSession console { console with host } :=
        ⟨rfl, Host.sessionRequests_take_page htake habout, Host.browser_take htake⟩
      rw [heq]
      exact (holds.keep taken).keep (keeps_receive habout _ reply)

end RestoreHolds

/-- At every moment of such a run restoring has come somewhere. -/
theorem RestoredAlone.holds {browser : Browser} {replies : List Reply} {console : Console}
    (run : RestoredAlone browser replies console) (stores : browser.StoresItems) :
    RestoreHolds browser replies console := by
  induction run with
  | opened => exact .start stores
  | used _ _ other ih => exact ih.keep (keeps_handle other _)
  | restored _ _ waits reply ih => exact ih.restored waits reply
  | answered _ _ other reply ih => exact ih.answered other reply
  | ticked _ _ clock ih => exact ⟨ih.stored, ih.stores, ih.stands⟩

/-! ## What restoring does -/

/-- The calls about the session that were made so far, in their order. -/
def sessionCalls (console : Console) : List Call := console.host.sessionRequests.map Sent.call

/-- Something is awaited exactly where a request about the session waits. -/
theorem awaits_iff {console : Console} :
    console.Awaits ↔ Sent.Waits console.host.sessionRequests := by
  constructor
  · rintro ⟨place, purpose, waits, habout⟩
    obtain ⟨call, hmem⟩ := Host.mem_sessionRequests_of_waits waits habout
    exact ⟨_, hmem, rfl⟩
  · rintro ⟨⟨call, purpose, answered⟩, hmem, hanswered⟩
    cases hanswered
    obtain ⟨hsent, habout⟩ := List.mem_filter.1 hmem
    obtain ⟨place, hplace⟩ := List.mem_iff_getElem?.1 hsent
    exact ⟨place, purpose, ⟨call, hplace⟩, habout⟩

/-- What restoring does in a browser, by the answers it got. -/
structure Restores (browser : Browser) (replies : List Reply) (console : Console) : Prop where
  /-- Without a stored access token nothing is sent and nothing changes. -/
  idle : browser.accessToken? = none → console.sessionCalls = [] ∧ console.session = .signedOut ∧
    console.host.browser.items = browser.items
  /-- With one, the gateway is asked first whose it is. -/
  first_iff : ∀ call, console.sessionCalls[0]? = some call ↔
    ∃ token, browser.accessToken? = some token ∧ call = .currentUser token
  /-- Once that has failed, the stored refresh token is exchanged, if there is one. -/
  second_iff : ∀ call, console.sessionCalls[1]? = some call ↔
    ∃ reply error token, replies[0]? = some reply ∧ reply.user = .error error ∧
      browser.refreshToken? = some token ∧ call = .refresh token
  /-- Once that has succeeded, the gateway is asked whose the new access token is. -/
  third_iff : ∀ call, console.sessionCalls[2]? = some call ↔
    ∃ reply answer, replies[1]? = some reply ∧ reply.refreshed = .ok answer ∧
      call = .currentUser answer.accessToken
  /-- Nothing else is sent. -/
  length_le : console.sessionCalls.length ≤ 3
  /-- The answers are those to the requests in their order, and restoring has ended when every
  request has its own. -/
  answered_le : replies.length ≤ console.sessionCalls.length
  awaits_iff : console.Awaits ↔ replies.length < console.sessionCalls.length
  /-- It has ended with someone signed in exactly if the last request asked for a user and its
  answer is a success that names one. -/
  signedIn_iff : ¬console.Awaits → (console.session ≠ .signedOut ↔ ∃ token status body user,
    console.sessionCalls.getLast? = some (.currentUser token) ∧
      replies.getLast? = some (.answered status body) ∧ (200 ≤ status ∧ status ≤ 299) ∧
      Json.decode User.decoder body = .ok user)
  /-- Then they are signed in with the token of that request, which is the one that is stored. -/
  signedIn : console.session ≠ .signedOut → ¬console.Awaits ∧
    ∃ token user, console.session = ⟨some token, some user⟩ ∧
      console.sessionCalls.getLast? = some (.currentUser token) ∧
      (∃ reply, replies.getLast? = some reply ∧ reply.user = .ok user) ∧
      console.host.browser.items.lookup Browser.accessTokenItem = some token
  /-- Without a refresh token, or where it was not exchanged, both tokens are gone. -/
  forgotten : ((∃ reply error, replies[0]? = some reply ∧ reply.user = .error error ∧
        browser.refreshToken? = none) ∨
      ∃ reply error, replies[1]? = some reply ∧ reply.refreshed = .error error) →
    ¬console.Awaits ∧ console.session = .signedOut ∧
      console.host.browser.items.lookup Browser.accessTokenItem = none ∧
      console.host.browser.items.lookup Browser.refreshTokenItem = none
  /-- Where the new access token has no user, it is kept, and so is the refresh token. -/
  kept : (∃ reply error, replies[2]? = some reply ∧ reply.user = .error error) →
    ¬console.Awaits ∧ console.session = .signedOut ∧
      (∃ issue answer, replies[1]? = some issue ∧ issue.refreshed = .ok answer ∧
        console.host.browser.items.lookup Browser.accessTokenItem = some answer.accessToken) ∧
      console.host.browser.items.lookup Browser.refreshTokenItem =
        browser.items.lookup Browser.refreshTokenItem

/-- **Restoring on its own.**  Whatever the browser has kept and whatever the gateway answers, while
nobody signs in or out restoring asks at most three times, each time only after what came before,
and the session and the stored tokens at its end are those that the answers lead to. -/
theorem restores_alone {browser : Browser} {replies : List Reply} {console : Console}
    (stores : browser.StoresItems) (run : RestoredAlone browser replies console) :
    Restores browser replies console := by
  have stands := (run.holds stores).stands
  constructor
  case idle =>
    intro haccess
    obtain ⟨hrequests, hsession, hitems⟩ := stands.nothing haccess
    exact ⟨by rw [sessionCalls, hrequests]; rfl, hsession, hitems⟩
  case first_iff => exact stands.first_iff
  case second_iff => exact stands.second_iff
  case third_iff => exact stands.third_iff
  case length_le => exact stands.length_le
  case answered_le => exact stands.answered_le
  case awaits_iff => exact awaits_iff.trans stands.waits_iff
  case signedIn_iff =>
    intro ended
    rw [awaits_iff] at ended
    constructor
    · intro hsession
      obtain ⟨-, token, user, -, hcall, ⟨reply, hreply, hnamed⟩, -⟩ :=
        stands.signedIn stores hsession
      obtain ⟨status, body, rfl, hstatus, hread⟩ := Reply.decode_eq_ok_iff.1 hnamed
      exact ⟨token, status, body, user, hcall, hreply, hstatus, hread⟩
    · rintro ⟨token, status, body, user, hcall, hreply, hstatus, hread⟩
      have hnamed : (Reply.answered status body).user = .ok user :=
        Reply.decode_eq_ok_iff.2 ⟨status, body, rfl, hstatus, hread⟩
      exact stands.signedIn_of_named ended hcall hreply hnamed
  case signedIn =>
    rw [awaits_iff]
    exact stands.signedIn stores
  case forgotten =>
    rw [awaits_iff]
    exact stands.forgotten
  case kept =>
    rw [awaits_iff]
    exact stands.kept

/-- A browser that has kept an access token and a refresh token. -/
def keepsTokens : Browser :=
  ⟨true, true, true, .working, some "https://gw.test",
    [("auth_access_token", "old"), ("auth_refresh_token", "r")], none, ⟨1710496800, 0⟩⟩

/-- The stored token is refused, another one is issued in its place, and its user is named. -/
theorem restores_alone_renewed : ∃ (browser : Browser) (replies : List Reply) (console : Console),
    (browser.StoresItems ∧ RestoredAlone browser replies console) ∧ replies.length = 3 ∧
      console.session = ⟨some "new", some ⟨"1", "ann", none, none, .internalUser⟩⟩ ∧
      console.host.browser.items.lookup Browser.accessTokenItem = some "new" := by
  have checks : (start keepsTokens).host.Waits 0 (.restore (.checking "old")) :=
    ⟨.currentUser "old", by decide +kernel⟩
  have refused := RestoredAlone.opened.restored (by decide +kernel) checks (.answered 401 "")
  have exchanges : ((start keepsTokens).answer 0 (.answered 401 "")).2.host.Waits 1
      (.restore .refreshing) := ⟨.refresh "r", by decide +kernel⟩
  have issued := refused.restored (by decide +kernel) exchanges
    (.answered 200 "\x7b\"access_token\":\"new\"\x7d")
  have rechecks : (((start keepsTokens).answer 0 (.answered 401 "")).2.answer 1
      (.answered 200 "\x7b\"access_token\":\"new\"\x7d")).2.host.Waits 2
      (.restore (.rechecking "new")) := ⟨.currentUser "new", by decide +kernel⟩
  have named := issued.restored (by decide +kernel) rechecks (.answered 200
    "\x7b\"id\":\"1\",\"username\":\"ann\",\"role\":\"internal_user\"\x7d")
  obtain ⟨replies, console, run, hlength, hann⟩ : ∃ replies console,
      RestoredAlone keepsTokens replies console ∧ replies.length = 3 ∧
      console.session = ⟨some "new", some ⟨"1", "ann", none, none, .internalUser⟩⟩ :=
    ⟨_, _, named, rfl, by decide +kernel⟩
  have stores : keepsTokens.StoresItems := ⟨rfl, rfl⟩
  have signs : console.session ≠ .signedOut := by
    rw [hann]
    exact nofun
  obtain ⟨-, token, user, hsession, -, -, hstored⟩ := (restores_alone stores run).signedIn signs
  rw [hann] at hsession
  cases hsession
  exact ⟨keepsTokens, replies, console, ⟨stores, run⟩, hlength, hann, hstored⟩

end Console

end BillingConsole
