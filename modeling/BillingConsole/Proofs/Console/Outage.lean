import BillingConsole.Proofs.Console.Restore

/-!
# Restoring through an outage

A gateway that is out of reach says nothing about the stored tokens; only a rejection, status 401,
says that they are worth nothing.  Restoring does not tell the two apart.  It goes by whether an
answer brings what was asked for, and it forgets the tokens when the first answer brings no user and
no new access token can be had.

## What is here

* `Reply.Brings`, `Reply.Rejects` — an answer brings a value, or it is a rejection.
* `Browser.GivesUp` — neither was a user named nor another access token issued.
* `Restoration.items_cases` — what can be stored, by whether restoring gave up.
* `Console.TokensKept`, `Console.tokensKept_iff` — **the tokens are kept exactly as long as
  restoring does not give up**; `Console.not_tokensKept_offline` — an outage is enough to lose them.
-/

set_option autoImplicit false

namespace BillingConsole

/-! ## Answers -/

namespace Reply

/-- An answer is a success whose body has a value. -/
def Brings {α : Type} (reply : Reply) (decoder : Json.Decoder α) : Prop :=
  ∃ status body value, reply = .answered status body ∧ (200 ≤ status ∧ status ≤ 299) ∧
    Json.decode decoder body = .ok value

/-- The gateway rejects what it was sent. -/
def Rejects (reply : Reply) : Prop := ∃ body, reply = .answered 401 body

theorem brings_of_ok {α : Type} {reply : Reply} {decoder : Json.Decoder α} {value : α}
    (h : reply.decode decoder = .ok value) : reply.Brings decoder := by
  obtain ⟨status, body, hreply, hstatus, hread⟩ := decode_eq_ok_iff.1 h
  exact ⟨status, body, value, hreply, hstatus, hread⟩

theorem not_brings_of_error {α : Type} {reply : Reply} {decoder : Json.Decoder α} {error : ApiError}
    (h : reply.decode decoder = .error error) : ¬reply.Brings decoder := by
  rintro ⟨status, body, value, hreply, hstatus, hread⟩
  cases h.symm.trans (decode_eq_ok_iff.2 ⟨status, body, hreply, hstatus, hread⟩)

end Reply

/-! ## What is stored -/

/-- Of the answers that restoring got, the first brings no user, and no access token is issued
instead: there is no refresh token, or the answer for it does not bring one. -/
structure Browser.GivesUp (browser : Browser) (replies : List Reply) : Prop where
  unnamed : ∃ reply, replies[0]? = some reply ∧ ¬reply.Brings User.decoder
  unissued : browser.refreshToken? = none ∨
    ∃ reply, replies[1]? = some reply ∧ ¬reply.Brings RefreshAnswer.decoder

namespace Browser.GivesUp

variable {browser : Browser} {replies : List Reply} {reply : Reply}

theorem ne_nil : ¬browser.GivesUp [] := fun gives => by
  obtain ⟨reply, hreply, -⟩ := gives.unnamed
  cases hreply

theorem not_brings_user (gives : browser.GivesUp (reply :: replies)) :
    ¬reply.Brings User.decoder := by
  obtain ⟨first, hfirst, hunnamed⟩ := gives.unnamed
  cases hfirst
  exact hunnamed

theorem not_brings_token {issue : Reply} {refreshToken : String}
    (hrefresh : browser.refreshToken? = some refreshToken)
    (gives : browser.GivesUp (reply :: issue :: replies)) :
    ¬issue.Brings RefreshAnswer.decoder := by
  rcases gives.unissued with hnone | ⟨second, hsecond, hunissued⟩
  · cases hrefresh.symm.trans hnone
  · cases hsecond
    exact hunissued

end Browser.GivesUp

/-- **What can be stored.**  Where restoring gave up, it forgot both tokens of a browser that had an
access token; elsewhere the items are those of the start, but for a new access token. -/
theorem Restoration.items_cases {browser : Browser} {replies : List Reply} {requests : List Sent}
    {session : Session} {items : List (String × String)}
    (stands : Restoration browser replies requests session items) :
    (browser.GivesUp replies ∧ browser.accessToken? ≠ none ∧ items = browser.itemsCleared) ∨
      (¬browser.GivesUp replies ∧
        (items = browser.items ∨ ∃ token, items = browser.itemsRenewed token)) := by
  cases stands with
  | idle | checking => exact .inr ⟨Browser.GivesUp.ne_nil, .inl rfl⟩
  | known _ hnamed =>
    exact .inr ⟨fun gives => gives.not_brings_user (Reply.brings_of_ok hnamed), .inl rfl⟩
  | lacking haccess hrejected hrefresh =>
    have gives := Reply.not_brings_of_error hrejected
    exact .inl ⟨⟨⟨_, rfl, gives⟩, .inl hrefresh⟩, haccess ▸ nofun, rfl⟩
  | refreshing exchanges =>
    refine .inr ⟨fun gives => ?_, .inl rfl⟩
    rcases gives.unissued with hnone | ⟨second, hsecond, -⟩
    · cases exchanges.refresh_eq.symm.trans hnone
    · cases hsecond
  | refused exchanges hrefused =>
    obtain ⟨error, hrejected⟩ := exchanges.rejected
    refine .inl ⟨⟨⟨_, rfl, Reply.not_brings_of_error hrejected⟩, .inr ⟨_, rfl, ?_⟩⟩,
      exchanges.access_eq ▸ nofun, rfl⟩
    exact Reply.not_brings_of_error hrefused
  | rechecking exchanges hissued | renewed exchanges hissued | rejected exchanges hissued =>
    exact .inr ⟨fun gives =>
      gives.not_brings_token exchanges.refresh_eq (Reply.brings_of_ok hissued), .inr ⟨_, rfl⟩⟩

namespace Console

/-! ## What is kept -/

/-- An access token is stored if there was one at first, and the refresh token is the one that was
stored at first. -/
structure TokensKept (browser : Browser) (console : Console) : Prop where
  access : browser.accessToken? ≠ none →
    ∃ token, console.host.browser.items.lookup Browser.accessTokenItem = some token
  refresh : console.host.browser.items.lookup Browser.refreshTokenItem =
    browser.items.lookup Browser.refreshTokenItem

/-- **The tokens are kept exactly as long as restoring does not give up**, whatever the answers that
brought nothing were: rejections, other failures, lost answers or bodies that cannot be read. -/
theorem tokensKept_iff {browser : Browser} {replies : List Reply} {console : Console}
    (stores : browser.StoresItems) (run : RestoredAlone browser replies console) :
    console.TokensKept browser ↔ ¬browser.GivesUp replies := by
  rcases (run.holds stores).stands.items_cases with ⟨gives, haccess, hitems⟩ | ⟨keeps, hitems⟩
  · refine iff_of_false (fun kept => ?_) (not_not_intro gives)
    obtain ⟨token, htoken⟩ := kept.access haccess
    rw [hitems, browser.lookup_itemsCleared.1] at htoken
    cases htoken
  · refine iff_of_true ?_ keeps
    rcases hitems with hitems | ⟨token, hitems⟩
    · refine ⟨fun haccess => ?_, congrArg _ hitems⟩
      obtain ⟨token, htoken⟩ := Option.ne_none_iff_exists'.1 haccess
      rw [Browser.accessToken?, Browser.token?_of_storesItems stores, Option.filter_eq_some_iff]
        at htoken
      exact ⟨token, hitems ▸ htoken.1⟩
    · constructor
      · exact fun _ => ⟨token, by rw [hitems, Browser.itemsRenewed, lookup_setEntry, if_pos rfl]⟩
      · rw [hitems, Browser.itemsRenewed, lookup_setEntry, if_neg (by decide)]

/-- A console that restores a session, and its first answer is lost. -/
def cutOff : Console := ((start keepsTokens).answer 0 (.lost "offline")).2

/-- It goes on with the refresh token. -/
theorem cutOff_run : RestoredAlone keepsTokens [.lost "offline"] cutOff ∧
    cutOff.host.Waits 1 (.restore .refreshing) := by
  have checks : (start keepsTokens).host.Waits 0 (.restore (.checking "old")) :=
    ⟨.currentUser "old", by decide +kernel⟩
  exact ⟨RestoredAlone.opened.restored (by decide +kernel) checks _,
    .refresh "r", by decide +kernel⟩

/-- The tokens are lost although the gateway never rejected them. -/
theorem not_tokensKept_offline : ¬∀ (browser : Browser) (replies : List Reply) (console : Console),
    browser.StoresItems → RestoredAlone browser replies console → ¬console.Awaits →
      (∀ reply ∈ replies, ¬reply.Rejects) → console.TokensKept browser := by
  intro keeps
  obtain ⟨before, waits⟩ := cutOff_run
  have run := before.restored (by decide +kernel) waits (.lost "offline")
  have ended : ¬(cutOff.answer 1 (.lost "offline")).2.Awaits := fun awaits =>
    absurd ((run.holds ⟨rfl, rfl⟩).stands.waits_iff.1 (awaits_iff.1 awaits)) (by decide +kernel)
  have unrejected : ∀ reply ∈ [Reply.lost "offline", .lost "offline"], ¬reply.Rejects := by
    rintro reply hreply ⟨body, rfl⟩
    simp at hreply
  have gone : (cutOff.answer 1 (.lost "offline")).2.host.browser.items = [] := by decide +kernel
  obtain ⟨token, htoken⟩ :=
    (keeps keepsTokens _ _ ⟨rfl, rfl⟩ run ended unrejected).access (by decide +kernel)
  rw [gone] at htoken
  cases htoken

/-- The gateway issues another access token. -/
def issuesNew : Reply := .answered 200 "\x7b\"access_token\":\"new\"\x7d"

/-- Another access token is issued and its user cannot be learned, but the tokens are kept. -/
theorem tokensKept_iff_unnamed : ∃ (browser : Browser) (replies : List Reply) (console : Console),
    (browser.StoresItems ∧ RestoredAlone browser replies console) ∧
      (replies.length = 3 ∧ ∀ reply ∈ replies, ¬reply.Rejects) ∧
      console.session = .signedOut ∧ console.TokensKept browser := by
  obtain ⟨before, waits⟩ := cutOff_run
  have issued := before.restored (by decide +kernel) waits issuesNew
  have rechecks : (cutOff.answer 1 issuesNew).2.host.Waits 2 (.restore (.rechecking "new")) :=
    ⟨.currentUser "new", by decide +kernel⟩
  have run := issued.restored (by decide +kernel) rechecks (.answered 502 "")
  have brings : issuesNew.Brings RefreshAnswer.decoder :=
    ⟨200, _, ⟨"new"⟩, rfl, by decide, Reply.eq_ok_of_toOption (by decide +kernel)⟩
  have refreshes : keepsTokens.refreshToken? = some "r" := by decide +kernel
  have keeps : ¬keepsTokens.GivesUp [.lost "offline", issuesNew, .answered 502 ""] :=
    fun gives => gives.not_brings_token refreshes brings
  refine ⟨keepsTokens, _, _, ⟨⟨rfl, rfl⟩, run⟩, ⟨rfl, ?_⟩, by decide +kernel,
    (tokensKept_iff ⟨rfl, rfl⟩ run).2 keeps⟩
  rintro reply hreply ⟨body, rfl⟩
  simp [issuesNew] at hreply

end Console

end BillingConsole
