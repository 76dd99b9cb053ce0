import BillingConsole.Proofs.Console.Turn

/-!
# Requests about the session

Of all that is asked for, some is about the session, and of all that is done, some changes the
stored tokens.  Neither comes from the billing page: whatever is done there, by whoever uses it, by
an answer for it or by a change of the session, leaves both alone.

## What is here

* `Host.sessionRequests` — the requests about the session; `Host.sessionRequests_take` says what an
  answer does to them.
* `Effect.LeavesSession` — what is done neither asks about the session nor changes a stored token.
* `BillingPage.leaves_update`, `BillingPage.leaves_sessionChanged`, `BillingPage.leaves_open` —
  **what a page does leaves the session alone.**
* `Console.KeepsSession` — the session, the requests about it and the browser stay as they are;
  `Console.keeps_handle`, `Console.keeps_receive` and `Console.keeps_setSession` say when they do.
-/

set_option autoImplicit false

namespace BillingConsole

/-! ## Requests -/

namespace Host

/-- The requests about the session that were sent so far. -/
def sessionRequests (host : Host) : List Sent := host.sent.filter (·.purpose.aboutSession)

/-- The requests about the session that effects send. -/
def sessionAsks (effects : List Effect) : List Sent :=
  (effects.filterMap Effect.sent?).filter (·.purpose.aboutSession)

theorem sessionRequests_performAll (host : Host) (effects : List Effect) :
    (host.performAll effects).sessionRequests = host.sessionRequests ++ sessionAsks effects := by
  rw [sessionRequests, sent_performAll, List.filter_append]
  rfl

variable {host next : Host} {place : Nat} {purpose : Purpose}

/-- An answer leaves the browser as it is. -/
theorem browser_take (h : host.take place = .waiting purpose next) :
    next.browser = host.browser := by
  obtain ⟨_, -, -, -, rfl⟩ := take_eq_waiting_iff.1 h
  rfl

/-- A request about the session that waits is one of those requests. -/
theorem mem_sessionRequests_of_waits (waits : host.Waits place purpose)
    (habout : purpose.aboutSession = true) :
    ∃ call, ⟨call, purpose, false⟩ ∈ host.sessionRequests := by
  obtain ⟨call, hsent⟩ := waits
  exact ⟨call, List.mem_filter.2 ⟨List.mem_of_getElem? hsent, habout⟩⟩

/-- Replacing an element that a filter drops by another one. -/
theorem filter_set_of_neg {α : Type} {p : α → Bool} {l : List α} {x x' : α} {i : Nat}
    (hget : l[i]? = some x) (hx : p x = false) (hx' : p x' = false) :
    (l.set i x').filter p = l.filter p := by
  induction l generalizing i with
  | nil => cases hget
  | cons first rest ih =>
    cases i with
    | zero =>
      cases hget
      rw [List.set_cons_zero, List.filter_cons_of_neg (Bool.not_eq_true _ ▸ hx'),
        List.filter_cons_of_neg (Bool.not_eq_true _ ▸ hx)]
    | succ i =>
      have hrest : (rest.set i x').filter p = rest.filter p := ih hget
      rw [List.set_cons_succ, List.filter_cons, List.filter_cons, hrest]

/-- Replacing an element that a filter keeps, where it is the last one that is kept. -/
theorem filter_set_last {α : Type} {p : α → Bool} {l done : List α} {x x' : α} {i : Nat}
    (hfilter : l.filter p = done ++ [x]) (hnew : x ∉ done) (hget : l[i]? = some x)
    (hx : p x' = true) : (l.set i x').filter p = done ++ [x'] := by
  obtain ⟨hlt, rfl⟩ := List.getElem?_eq_some_iff.1 hget
  have hkept : p l[i] = true := by
    have hmem : l[i] ∈ l.filter p := hfilter ▸ List.mem_append_right _ List.mem_cons_self
    exact (List.mem_filter.1 hmem).2
  have hsplit : l.filter p =
      (l.take i).filter p ++ l[i] :: (l.drop (i + 1)).filter p := by
    conv_lhs => rw [← List.take_append_drop i l, List.drop_eq_getElem_cons hlt]
    rw [List.filter_append, List.filter_cons_of_pos hkept]
  have hset : (l.set i x').filter p =
      (l.take i).filter p ++ x' :: (l.drop (i + 1)).filter p := by
    rw [List.set_eq_take_append_cons_drop, if_pos hlt, List.filter_append,
      List.filter_cons_of_pos hx]
  rw [hfilter] at hsplit
  -- behind the element nothing else is kept, since it would be kept twice
  rcases List.append_eq_append_iff.1 hsplit with ⟨more, hbefore, hlast⟩ | ⟨more, hdone, hlast⟩
  · cases more with
    | nil =>
      rw [List.nil_append, List.cons.injEq] at hlast
      rw [hset, hbefore, List.append_nil, ← hlast.2]
    | cons first rest =>
      rw [List.cons_append, List.cons.injEq] at hlast
      exact absurd hlast.2 (by simp)
  · cases more with
    | nil =>
      rw [List.nil_append, List.cons.injEq] at hlast
      rw [hset, ← hlast.2, hdone, List.append_nil]
    | cons first rest =>
      rw [List.cons_append, List.cons.injEq] at hlast
      exact absurd (hdone ▸ List.mem_append_right _ (hlast.1 ▸ List.mem_cons_self)) hnew

/-- An answer about the session is for the request that was sent last, if all the others have been
answered. -/
theorem sessionRequests_take (htake : host.take place = .waiting purpose next)
    (habout : purpose.aboutSession = true) {done : List Sent} {last : Sent}
    (hrequests : host.sessionRequests = done ++ [last])
    (hdone : ∀ sent ∈ done, sent.answered = true) :
    last.purpose = purpose ∧ next.sessionRequests = done ++ [{ last with answered := true }] := by
  obtain ⟨sent, hplace, hanswered, rfl, rfl⟩ := take_eq_waiting_iff.1 htake
  have hnew : sent ∉ done := fun hmem => by
    rw [hdone sent hmem] at hanswered
    cases hanswered
  have hmem : sent ∈ host.sessionRequests :=
    List.mem_filter.2 ⟨List.mem_of_getElem? hplace, habout⟩
  rw [hrequests, List.mem_append, or_iff_right hnew, List.mem_singleton] at hmem
  subst hmem
  exact ⟨rfl, filter_set_last hrequests hnew hplace habout⟩

/-- Any other answer leaves those requests alone. -/
theorem sessionRequests_take_page (htake : host.take place = .waiting purpose next)
    (hpage : purpose.aboutSession = false) : next.sessionRequests = host.sessionRequests := by
  obtain ⟨sent, hplace, -, rfl, rfl⟩ := take_eq_waiting_iff.1 htake
  exact filter_set_of_neg hplace hpage hpage

end Host

/-! ## What leaves the session alone -/

/-- What is done neither asks about the session nor changes a stored token. -/
def Effect.LeavesSession : Effect → Prop
  | .send _ purpose => purpose.aboutSession = false
  | .saveToken .. | .clearTokens => False
  | .log _ | .saveFile _ | .halt => True

/-- So it is with all that is done. -/
def LeaveSession (effects : List Effect) : Prop := ∀ effect ∈ effects, effect.LeavesSession

theorem LeaveSession.append {effects more : List Effect} (h : LeaveSession effects)
    (h' : LeaveSession more) : LeaveSession (effects ++ more) :=
  List.forall_mem_append.2 ⟨h, h'⟩

theorem leaveSession_nil : LeaveSession [] := nofun

theorem leaveSession_singleton {effect : Effect} (h : effect.LeavesSession) :
    LeaveSession [effect] :=
  List.forall_mem_singleton.2 h

namespace Host

variable {effects : List Effect}

theorem browser_of_leaves (host : Host) (h : LeaveSession effects) :
    (host.performAll effects).browser = host.browser := by
  refine browser_performAll host fun effect heffect => ?_
  have hleaves := h effect heffect
  cases effect with
  | saveToken | clearTokens => exact hleaves.elim
  | send | log | saveFile | halt => trivial

theorem sessionRequests_of_leaves (host : Host) (h : LeaveSession effects) :
    (host.performAll effects).sessionRequests = host.sessionRequests := by
  have hnone : sessionAsks effects = [] := by
    rw [sessionAsks, List.filter_eq_nil_iff]
    intro sent hsent habout
    obtain ⟨effect, heffect, hsome⟩ := List.mem_filterMap.1 hsent
    have hleaves := h effect heffect
    cases effect with
    | send call purpose =>
      cases hsome
      exact Bool.false_ne_true (hleaves.symm.trans habout)
    | log | saveToken | clearTokens | saveFile | halt => cases hsome
  rw [sessionRequests_performAll, hnone, List.append_nil]

end Host

/-! ## What a page does -/

theorem CustomerList.leaves_load (list : CustomerList) (session : Session) (page : Nat) :
    LeaveSession (list.load session page).2 := by
  rcases list.load_cases session page with ⟨-, heq⟩ | ⟨token, -, heq⟩
  · rw [heq]
    exact leaveSession_singleton trivial
  · rw [heq]
    exact leaveSession_singleton rfl

theorem SpendScreen.leaves_load (screen : SpendScreen) (token? : Option String) (page : Nat) :
    LeaveSession (screen.load token? page).2 := by
  rcases screen.load_cases token? page with ⟨-, heq⟩ | ⟨token, -, heq⟩
  · rw [heq]
    exact leaveSession_nil
  · rw [heq]
    exact leaveSession_singleton rfl

theorem DetailDialog.leaves_load (dialog : DetailDialog) (token? : Option String) (page : Nat) :
    LeaveSession (dialog.load token? page).2 := by
  rcases dialog.load_cases token? page with heq | ⟨token, id, -, heq⟩
  · rw [heq]
    exact leaveSession_nil
  · rw [heq]
    exact leaveSession_singleton rfl

theorem CustomerTable.leaves_update (table : CustomerTable) (browser : Browser)
    (customers : List Customer) (event : CustomerTableEvent) :
    LeaveSession (table.update browser customers event).2 := by
  cases event with
  | typeSearch | clearSearch => exact leaveSession_nil
  | exportShown =>
    rw [update]
    refine List.forall_mem_cons.2 ⟨trivial, ?_⟩
    split
    · exact leaveSession_singleton trivial
    · exact leaveSession_nil

theorem SpendScreen.leaves_update (screen : SpendScreen) (browser : Browser)
    (token? : Option String) (page : Nat) (event : SpendEvent) :
    LeaveSession (screen.update browser token? page event).2 := by
  cases event with
  | dates event =>
    rw [update]
    cases event.answer (screen.panel.first, screen.panel.last) browser.clock with
    | range | nothing => exact leaveSession_nil
    | outOfCalendar => exact leaveSession_singleton trivial
  | applyFilter => exact leaves_load _ token? page
  | exportReport =>
    rw [update]
    refine List.forall_mem_cons.2 ⟨trivial, ?_⟩
    split
    · exact leaveSession_singleton trivial
    · exact leaveSession_nil
  | pager event =>
    rw [update.eq_def]
    dsimp only
    cases event.ask? with
    | none => cases event <;> exact leaveSession_nil
    | some ask => cases ask <;> exact leaves_load _ token? page
  | toggle | closeDetail => exact leaveSession_nil
  | openDetail id => exact DetailDialog.leaves_load _ token? page

namespace BillingPage

/-- What someone does on a page. -/
theorem leaves_update (page : BillingPage) (browser : Browser) (session : Session)
    (event : BillingEvent) : LeaveSession (page.update browser session event).2 := by
  cases event with
  | showTab => exact leaveSession_nil
  | refresh => exact page.list.leaves_load session page.id
  | table event => exact page.table.leaves_update browser page.list.customers event
  | spend event => exact page.spend.leaves_update browser session.adminToken page.id event

/-- What a change of the session does to a page. -/
theorem leaves_sessionChanged (page : BillingPage) (old new : Session) :
    LeaveSession (page.sessionChanged old new).2 := by
  have hlisted : LeaveSession (if (old.token, old.role) = (new.token, new.role) then (page, [])
      else page.loadList new).2 := by
    split
    · exact leaveSession_nil
    · exact page.list.leaves_load new page.id
  rw [sessionChanged]
  split
  · exact hlisted
  · exact (hlisted.append (SpendScreen.leaves_load _ _ _)).append (DetailDialog.leaves_load _ _ _)

/-- What is done where a page opens. -/
theorem leaves_open {id : Nat} {session : Session} {clock : Clock}
    {opened : BillingPage × List Effect} (h : open? id session clock = some opened) :
    LeaveSession opened.2 := by
  obtain ⟨panel, -, rfl⟩ := Option.map_eq_some_iff.1 h
  exact (CustomerList.leaves_load _ _ _).append (SpendScreen.leaves_load _ _ _)

/-- What an answer for a page does. -/
theorem leaves_receive (page : BillingPage) (clock : Clock) (purpose : Purpose) (reply : Reply) :
    LeaveSession (page.receive clock purpose reply).2 := by
  intro effect heffect
  obtain ⟨entry, rfl⟩ := eq_log_of_mem_receive heffect
  trivial

end BillingPage

/-! ## The console -/

/-- What is used for anything but signing in and out. -/
def ConsoleEvent.aboutSession : ConsoleEvent → Bool
  | .form .submit | .signOut => true
  | .form (.typeUsername _) | .form (.typePassword _) | .billing _ => false

namespace Console

/-- The session, the requests about it and the browser are as they were. -/
structure KeepsSession (console next : Console) : Prop where
  session_eq : next.session = console.session
  requests_eq : next.host.sessionRequests = console.host.sessionRequests
  browser_eq : next.host.browser = console.host.browser

theorem KeepsSession.refl (console : Console) : KeepsSession console console := ⟨rfl, rfl, rfl⟩

theorem keeps_perform (console : Console) (screen : Screen) {effects : List Effect}
    (h : LeaveSession effects) :
    KeepsSession console ({ console with screen }.perform effects) :=
  ⟨rfl, Host.sessionRequests_of_leaves _ h, Host.browser_of_leaves _ h⟩

/-- Whatever is used but the form and the way out leaves the session alone. -/
theorem keeps_handle {event : ConsoleEvent} (h : event.aboutSession = false) (console : Console) :
    KeepsSession console (console.handle event) := by
  cases event with
  | form entry =>
    rw [handle.eq_def]
    cases console.screen with
    | denied | billing => exact .refl console
    | signIn form =>
      cases entry with
      | typeUsername | typePassword => exact keeps_perform console _ leaveSession_nil
      | submit => cases h
  | signOut => cases h
  | billing entry =>
    rw [handle.eq_def]
    cases console.screen with
    | denied | signIn => exact .refl console
    | billing page => exact keeps_perform console _ (page.leaves_update _ _ _)

/-- So does an answer that is not about it. -/
theorem keeps_receive {purpose : Purpose} (h : purpose.aboutSession = false) (console : Console)
    (reply : Reply) : KeepsSession console (console.receive purpose reply) := by
  rcases receive_page h console reply with heq | ⟨page, -, heq⟩
  · rw [heq]
    exact .refl console
  · rw [heq]
    exact keeps_perform console _ (page.leaves_receive _ _ _)

/-- A change of the session asks for nothing about it and keeps the browser. -/
theorem keeps_setSession (console : Console) (session : Session) :
    (console.setSession session).host.sessionRequests = console.host.sessionRequests ∧
      (console.setSession session).host.browser = console.host.browser := by
  have hleaves : LeaveSession (console.nextScreen session).2 := by
    rcases console.nextScreen_cases session with ⟨-, form, heq⟩ | ⟨-, -, heq⟩ |
      ⟨token, -, heq | ⟨page, -, heq⟩ | ⟨opened, hopen, heq⟩⟩
    · rw [heq]
      exact leaveSession_nil
    · rw [heq]
      exact leaveSession_nil
    · rw [heq]
      exact leaveSession_singleton trivial
    · rw [heq]
      exact page.leaves_sessionChanged _ _
    · rw [heq]
      exact BillingPage.leaves_open hopen
  rw [setSession_host]
  exact ⟨Host.sessionRequests_of_leaves _ hleaves, Host.browser_of_leaves _ hleaves⟩

end Console

end BillingConsole
