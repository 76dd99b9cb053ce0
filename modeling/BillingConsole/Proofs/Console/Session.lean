import BillingConsole.Proofs.Browser.Tokens
import BillingConsole.Proofs.Console.Form
import BillingConsole.Proofs.Screen.Billing

/-!
# Answers that change the session

Restoring a session, signing in and signing out all wait for the gateway, and each of them changes
the session and the stored tokens when its answer comes, whatever happened meanwhile.  This file
says when a late answer can still do that.

## What is here

* `Console.credentials` — the session and the stored tokens.
* `Console.Awaits` — a request about the session waits for its answer.
* `Console.Settled` — no request sent so far can change the credentials any more.
* `Console.settled_of_not_awaits` — without such a request everything is settled.
* `Console.settled_iff` — **the exact condition**: in a browser that stores items, everything is
  settled only without such a request.
* `Console.not_settled_signedIn` — someone who signed in is replaced by the user of an older
  session.
-/

set_option autoImplicit false

namespace BillingConsole

namespace Console

/-- The session, the stored access token and the stored refresh token. -/
def credentials (console : Console) : Session × Option String × Option String :=
  (console.session, console.host.browser.items.lookup Browser.accessTokenItem,
    console.host.browser.items.lookup Browser.refreshTokenItem)

/-- A request about the session waits for its answer. -/
def Awaits (console : Console) : Prop :=
  ∃ place purpose, console.host.Waits place purpose ∧ purpose.aboutSession = true

/-- Whatever happens, no answer to a request that was sent so far changes the credentials. -/
def Settled (console : Console) : Prop :=
  ∀ later, Reaches console later → later.host.halted = false →
    ∀ place < console.host.sent.length, ∀ reply,
      (later.answer place reply).2.credentials = later.credentials

/-! ## Answers for a page -/

/-- Only answers about the session change the credentials. -/
theorem credentials_receive {purpose : Purpose} (h : purpose.aboutSession = false)
    (console : Console) (reply : Reply) :
    (console.receive purpose reply).credentials = console.credentials := by
  rcases receive_page h console reply with heq | ⟨page, -, heq⟩
  · rw [heq]
  · have hbrowser : (console.host.performAll
        (page.receive console.host.browser.clock purpose reply).2).browser = console.host.browser :=
      Host.browser_performAll _ fun effect heffect => by
        obtain ⟨entry, rfl⟩ := BillingPage.eq_log_of_mem_receive heffect
        exact trivial
    rw [heq, credentials, credentials, perform, hbrowser]

/-- **Without a request about the session everything is settled.** -/
theorem settled_of_not_awaits {console : Console} (h : ¬ console.Awaits) : console.Settled := by
  intro later reaches _ place hplace reply
  rcases answer_cases later place reply with ⟨heq, -⟩ | ⟨purpose, host, htake, heq⟩
  · rw [heq]
  · have hwaits := (grown_of_reaches reaches).waits hplace (Host.waits_of_take htake)
    have habout : purpose.aboutSession = false :=
      Bool.eq_false_iff.2 fun habout => h ⟨place, purpose, hwaits, habout⟩
    rw [heq, credentials_receive habout, Host.take_eq htake]
    rfl

/-! ## What is not settled -/

/-- An answer that changes the credentials now shows that they are not settled. -/
theorem not_settled_of_ne {console : Console} (live : console.host.halted = false) {place : Nat}
    {purpose : Purpose} (waits : console.host.Waits place purpose) (reply : Reply)
    (hne : (console.answer place reply).2.credentials ≠ console.credentials) :
    ¬ console.Settled :=
  fun settled => hne (settled console .refl live place waits.lt_length reply)

theorem credentials_ne_of_session {console other : Console} (h : console.session ≠ other.session) :
    console.credentials ≠ other.credentials := fun heq => h (congrArg Prod.fst heq)

/-- An answer that names a user makes them the user of the session. -/
theorem user_receive_restore {stage : RestoreStage} (hstage : stage ≠ .refreshing) {reply : Reply}
    {user : User} (h : reply.user = .ok user) (console : Console) :
    (console.receive (.restore stage) reply).session.user = some user := by
  cases stage with
  | checking | rechecking => simp only [receive_restore, resumeRestore, h]; rfl
  | refreshing => exact absurd rfl hstage

theorem session_receive_signIn {reply : Reply} {answer : SignInAnswer}
    (h : reply.signedIn = .ok answer) (console : Console) (id : Nat) :
    (console.receive (.signIn id) reply).session = answer.session := by
  rw [receive_signIn_ok h, setSession_session]

/-- Whatever the answer is, who wants to sign out is signed out. -/
theorem session_receive_signOut (console : Console) (reply : Reply) :
    (console.receive .signOut reply).session = .signedOut := by
  obtain ⟨effects, heq⟩ := receive_signOut console reply
  rw [heq, endSession, setSession_session]

/-- A refreshed access token is stored. -/
theorem stored_receive_refreshing (console : Console) (h : console.host.browser.StoresItems)
    {reply : Reply} {answer : RefreshAnswer} (hreply : reply.refreshed = .ok answer) :
    (console.receive (.restore .refreshing) reply).credentials.2.1 = some answer.accessToken := by
  simp only [receive_restore, resumeRestore, hreply]
  exact Browser.lookup_saveToken h _ _

theorem not_settled_of_signIn {console : Console} (live : console.host.halted = false)
    {place id : Nat} (waits : console.host.Waits place (.signIn id)) : ¬ console.Settled := by
  obtain ⟨reply, answer, hreply, -, hother⟩ := Reply.exists_signedIn_ne console.session.user
  obtain ⟨host, -, hanswer⟩ := answer_of_waits waits reply
  refine not_settled_of_ne live waits reply (credentials_ne_of_session fun heq => hother ?_)
  rw [hanswer, session_receive_signIn hreply] at heq
  exact congrArg Session.user heq

theorem not_settled_of_restore {console : Console} (live : console.host.halted = false)
    (stores : console.host.browser.StoresItems) {place : Nat} {stage : RestoreStage}
    (waits : console.host.Waits place (.restore stage)) : ¬ console.Settled := by
  by_cases hstage : stage = .refreshing
  · subst hstage
    obtain ⟨reply, answer, hreply, hother⟩ :=
      Reply.exists_refreshed_ne (console.host.browser.items.lookup Browser.accessTokenItem)
    obtain ⟨host, htake, hanswer⟩ := answer_of_waits waits reply
    have hstores : host.browser.StoresItems := by
      rw [Host.take_eq htake]
      exact stores
    refine not_settled_of_ne live waits reply fun heq => hother ?_
    have hstored := stored_receive_refreshing { console with host } hstores hreply
    rw [← hanswer, heq] at hstored
    exact hstored.symm
  · obtain ⟨reply, user, hreply, hother⟩ := Reply.exists_user_ne console.session.user
    obtain ⟨host, -, hanswer⟩ := answer_of_waits waits reply
    refine not_settled_of_ne live waits reply (credentials_ne_of_session fun heq => hother ?_)
    rw [← user_receive_restore hstage hreply { console with host }, ← hanswer, heq]

/-- A sign-out that completes while someone is signed in changes the session, now or later. -/
theorem not_settled_of_signedIn {console later : Console} (reaches : Reaches console later)
    (live : later.host.halted = false) {place : Nat} (hplace : place < console.host.sent.length)
    (waits : later.host.Waits place .signOut) (hsession : later.session ≠ .signedOut) :
    ¬ console.Settled := by
  intro settled
  obtain ⟨host, -, hanswer⟩ := answer_of_waits waits (.lost "")
  have hkept := settled later reaches live place hplace (.lost "")
  refine hsession ?_
  rw [← session_receive_signOut { later with host } (.lost ""), ← hanswer]
  exact (congrArg Prod.fst hkept).symm

/-- Who is signed out can sign in first, and is signed out again. -/
theorem not_settled_of_signOut {console : Console} (holds : console.FormHolds)
    (live : console.host.halted = false) {place : Nat}
    (waits : console.host.Waits place .signOut) : ¬ console.Settled := by
  by_cases hsession : console.session = .signedOut
  · obtain ⟨form, hscreen⟩ := holds.shown (hsession ▸ rfl)
    cases hloading : form.loading with
    | true =>
      -- the sign-in that is under way can itself change the session
      obtain ⟨signing, hsigning⟩ := holds.waits form hscreen hloading
      exact not_settled_of_signIn live hsigning
    | false =>
      obtain ⟨later, reaches, hlive, hsigned, hwaits⟩ := exists_signedIn live hscreen hloading
      exact not_settled_of_signedIn reaches hlive waits.lt_length (hwaits _ _ waits) hsigned
  · exact not_settled_of_signedIn .refl live waits.lt_length waits hsession

/-! ## The exact condition -/

/-- **The exact condition.**  At any moment of any run the answers to the requests sent so far leave
the credentials alone for good if no request about the session waits for its answer, and, where
items can be stored, only then. -/
theorem settled_iff {browser : Browser} {console : Console}
    (reaches : Reaches (start browser) console) (live : console.host.halted = false) :
    (¬ console.Awaits → console.Settled) ∧
      (console.host.browser.StoresItems → (console.Settled ↔ ¬ console.Awaits)) := by
  refine ⟨settled_of_not_awaits, fun stores => ⟨fun settled => ?_, settled_of_not_awaits⟩⟩
  rintro ⟨place, purpose, waits, habout⟩
  cases purpose with
  | restore stage => exact not_settled_of_restore live stores waits settled
  | signIn id => exact not_settled_of_signIn live waits settled
  | signOut =>
    exact not_settled_of_signOut ((formHolds_start browser).reaches reaches) live waits settled
  | customers | report | detail => cases habout

/-- A console opens with a stored access token, and before the gateway says whose it is someone
signs in. -/
theorem signedIn_run : ∃ (browser : Browser) (before : Console) (reply : Reply),
    Reaches (start browser) before ∧ before.host.halted = false ∧
      before.host.Waits 1 (.signIn 0) ∧ (before.answer 1 reply).2.host.halted = false ∧
      (before.answer 1 reply).2.session.user = some ⟨"1", "ann", none, none, .internalUser⟩ ∧
      (before.answer 1 reply).2.host.Waits 0 (.restore (.checking "old")) ∧
      (before.answer 1 reply).2.host.browser.StoresItems := by
  have opens : (start ⟨true, true, true, .working, some "https://gw.test",
      [("auth_access_token", "old")], none, ⟨1710496800, 0⟩⟩).host.halted = false := rfl
  refine ⟨_, _, .answered 200 ("\x7b\"access_token\":\"a\",\"refresh_token\":\"r\",\"user\":" ++
    "\x7b\"id\":\"1\",\"username\":\"ann\",\"role\":\"internal_user\"\x7d\x7d"),
    .single (.used opens .submit), by decide +kernel, ⟨.signIn ⟨"", ""⟩, by decide +kernel⟩,
    by decide +kernel, by decide +kernel, ⟨.currentUser "old", by decide +kernel⟩,
    by decide +kernel, by decide +kernel⟩

/-- Someone who signed in is replaced by the user of an older session. -/
theorem not_settled_signedIn : ∃ (browser : Browser) (before : Console) (signs names : Reply),
    Reaches (start browser) before ∧ before.host.Waits 1 (.signIn 0) ∧
      (before.answer 1 signs).2.session.user.map User.username = some "ann" ∧
      ((before.answer 1 signs).2.answer 0 names).2.session ≠ (before.answer 1 signs).2.session := by
  obtain ⟨browser, before, signs, reaches, -, signing, -, hann, waits, -⟩ := signedIn_run
  obtain ⟨names, user, hnames, hother⟩ :=
    Reply.exists_user_ne (some ⟨"1", "ann", none, none, .internalUser⟩)
  obtain ⟨host, -, hanswer⟩ := answer_of_waits waits names
  refine ⟨browser, before, signs, names, reaches, signing, ?_, fun heq => hother ?_⟩
  · rw [hann]
    rfl
  · rw [← hann, ← heq, hanswer]
    exact (user_receive_restore (by decide) hnames _).symm

/-- After that sign-in an older request about the session is still waiting, and not all is
settled. -/
theorem settled_iff_signedIn : ∃ (browser : Browser) (console : Console),
    Reaches (start browser) console ∧ console.host.halted = false ∧
      console.host.browser.StoresItems ∧ console.Awaits ∧ ¬ console.Settled := by
  obtain ⟨browser, before, reply, reaches, live, -, hlive, -, waits, stores⟩ := signedIn_run
  have run := reaches.tail (.answered live 1 reply)
  have awaits : (before.answer 1 reply).2.Awaits := ⟨0, _, waits, rfl⟩
  exact ⟨browser, _, run, hlive, stores, awaits, fun settled =>
    ((settled_iff run hlive).2 stores).1 settled awaits⟩

end Console

end BillingConsole
