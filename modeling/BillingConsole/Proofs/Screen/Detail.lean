import BillingConsole.Proofs.Screen.Requests

/-!
# The dialog over the report

The dialog keeps in separate places whether it is open, for whom, and what it shows, and its answers
may come when it is closed or open for someone else.  This file says what these places hold
together: an open dialog shows one thing, about the customer it is open for.

## What is here

* `DetailContent` — what an open dialog shows: that it waits, why that failed, or what came.
* `Reply.Tells`, `Reply.tells_ofReply` — which of these an answer leads to, said of its status and
  its body.
* `DetailDialog.showing`, `DetailDialog.view_showing` — the dialog that shows it, and its view.
* `DetailDialog.openFor_eq`, `load_showing`, `receive_showing` — opening it, asking again, and the
  answer.
* `DialogTurn` — what becomes of a dialog on a page, with what is asked for on its behalf.
* `BillingPage.dialogTurn_update`, `BillingPage.dialogTurn_sessionChanged` — all a page does is of
  that kind.
-/

set_option autoImplicit false

namespace BillingConsole

/-! ## What a dialog shows -/

/-- What an open dialog shows. -/
inductive DetailContent where
  | waiting
  | failed (message : String)
  | answered (detail : SpendDetail)
deriving DecidableEq

namespace DetailContent

/-- What there is to show of an answer. -/
def ofReply (reply : Reply) : DetailContent :=
  match reply.detail with
  | .ok detail => .answered detail
  | .error error => .failed error.message

/-- How it is shown. -/
def view {Event : Type} : DetailContent → View Event
  | .waiting => .block [.span [.text "Loading..."]]
  | .failed message => .blockText message
  | .answered detail => detail.view

end DetailContent

/-- What an answer to a request for the spending of a customer tells: the spending that stands in
its body, or why there is none. -/
inductive Reply.Tells : Reply → DetailContent → Prop
  | spending {status : Nat} {body : String} {detail : SpendDetail}
      (succeeds : 200 ≤ status ∧ status ≤ 299)
      (reads : Json.decode SpendDetail.decoder body = .ok detail) :
      Tells (.answered status body) (.answered detail)
  | unreadable {status : Nat} {body : String} {error : Json.DecodeError}
      (succeeds : 200 ≤ status ∧ status ≤ 299)
      (fails : Json.decode SpendDetail.decoder body = .error error) :
      Tells (.answered status body) (.failed ("Failed to parse response: " ++ error.message))
  | notAuthenticated (body : String) : Tells (.answered 401 body) (.failed "Not authenticated")
  | refused {status : Nat} (body : String) (fails : ¬(200 ≤ status ∧ status ≤ 299))
      (ne : status ≠ 401) : Tells (.answered status body)
        (.failed ("Request failed with status " ++ String.ofList (digits10 status)))
  | lost (reason : String) :
      Tells (.lost reason) (.failed ("Failed to send request: " ++ reason))

/-- What there is to show of an answer is what it tells. -/
theorem Reply.tells_ofReply (reply : Reply) : reply.Tells (.ofReply reply) := by
  cases reply with
  | lost reason => exact .lost reason
  | answered status body =>
    by_cases succeeds : 200 ≤ status ∧ status ≤ 299
    · have hbody : (Reply.answered status body).body = .ok body := by
        rw [Reply.body, statusError?, if_pos succeeds]
      rw [DetailContent.ofReply, Reply.detail, decode, hbody]
      cases hread : Json.decode SpendDetail.decoder body with
      | ok detail =>
        simp only [bind, Except.bind, hread]
        exact .spending succeeds hread
      | error error =>
        simp only [bind, Except.bind, hread]
        exact .unreadable succeeds hread
    · by_cases h401 : status = 401
      · subst h401
        exact .notAuthenticated body
      · have hbody : (Reply.answered status body).body = .error (.refused status) := by
          rw [Reply.body, statusError?, if_neg succeeds, if_neg h401]
        rw [DetailContent.ofReply, Reply.detail, decode, hbody]
        exact .refused body succeeds h401

namespace DetailDialog

/-- The dialog that is open for a customer. -/
def showing (id : String) (tickets : Tickets) : DetailContent → DetailDialog
  | .waiting => ⟨true, some id, none, none, true, tickets⟩
  | .failed message => ⟨true, some id, none, some message, false, tickets⟩
  | .answered detail => ⟨true, some id, some detail, none, false, tickets⟩

/-- It shows its customer, and nothing else but the one content. -/
theorem view_showing (id : String) (tickets : Tickets) (content : DetailContent) {Event : Type}
    (close : Event) : (showing id tickets content).view close =
      [.block [
        .element "h2" [] [.text ("Customer spend: " ++ id)],
        .block [content.view],
        .block [.plainButton close [.text "Close"]]]] := by
  cases content <;> rfl

/-- Whoever it is opened for, and whatever it has shown, it asks for that customer and waits. -/
theorem openFor_eq (dialog : DetailDialog) (id token : String) (page : Nat) :
    dialog.openFor id (some token) page =
      (showing id dialog.tickets.issue.2 .waiting,
        [.send (.detail token id) (.detail page dialog.tickets.issue.1 id)]) := rfl

/-- An open dialog asks again for its customer. -/
theorem load_showing (id token : String) (tickets : Tickets) (content : DetailContent)
    (page : Nat) : (showing id tickets content).load (some token) page =
      (showing id tickets.issue.2 .waiting,
        [.send (.detail token id) (.detail page tickets.issue.1 id)]) := by
  cases content <;> rfl

/-- A closed dialog asks for nothing. -/
theorem load_closed {dialog : DetailDialog} (h : dialog.isOpen = false) (token? : Option String)
    (page : Nat) : dialog.load token? page = (dialog, []) := by
  rw [load.eq_def, h]

/-- The answer that an open dialog waits for is what it shows from then on. -/
theorem receive_showing (id : String) (tickets : Tickets) (asked : String) (reply : Reply) :
    ((showing id tickets .waiting).receive tickets.latest asked reply).1 =
      showing id tickets (.ofReply reply) := by
  rw [receive, showing, if_pos (Tickets.isLatest_iff_eq.2 rfl), DetailContent.ofReply]
  cases reply.detail <;> rfl

/-- Any other answer changes nothing. -/
theorem receive_of_ne {dialog : DetailDialog} {ticket : Nat} (h : ticket ≠ dialog.tickets.latest)
    (id : String) (reply : Reply) : (dialog.receive ticket id reply).1 = dialog := by
  rw [receive, if_neg fun hlatest => h (Tickets.isLatest_iff_eq.1 hlatest)]

/-- No answer opens a dialog, closes it, or hands out tickets. -/
theorem receive_keeps (dialog : DetailDialog) (ticket : Nat) (id : String) (reply : Reply) :
    (dialog.receive ticket id reply).1.isOpen = dialog.isOpen ∧
      (dialog.receive ticket id reply).1.tickets = dialog.tickets := by
  rw [receive]
  split
  · cases reply.detail <;> exact ⟨rfl, rfl⟩
  · exact ⟨rfl, rfl⟩

end DetailDialog

/-! ## What a page asks for on behalf of its dialog -/

/-- A call for the spending of a single customer. -/
def Call.isDetail : Call → Bool
  | .detail .. => true
  | .customers _ | .report .. | .currentUser _ | .signIn _ | .refresh _ | .signOut _ => false

/-- An answer that a dialog waits for. -/
def Purpose.isDetail : Purpose → Bool
  | .detail .. => true
  | .restore _ | .signIn _ | .signOut | .customers .. | .report .. => false

/-- Nothing is asked for on behalf of a dialog. -/
def NoDetail (effects : List Effect) : Prop :=
  ∀ call purpose, .send call purpose ∈ effects → call.isDetail = false ∧ purpose.isDetail = false

theorem noDetail_of_no_send {effects : List Effect}
    (h : ∀ call purpose, .send call purpose ∉ effects) : NoDetail effects :=
  fun call purpose hmem => absurd hmem (h call purpose)

theorem noDetail_nil : NoDetail [] := fun _ _ hmem => nomatch hmem

theorem NoDetail.append {effects more : List Effect} (h : NoDetail effects) (h' : NoDetail more) :
    NoDetail (effects ++ more) := by
  intro call purpose hmem
  rcases List.mem_append.1 hmem with hmem | hmem
  · exact h call purpose hmem
  · exact h' call purpose hmem

/-- What becomes of the dialog on a page. -/
inductive DialogTurn (page : Nat) (dialog next : DetailDialog) (effects : List Effect) : Prop
  /-- It stays as it is or is closed. -/
  | rests (tickets_eq : next.tickets = dialog.tickets) (kept : next.isOpen = true → next = dialog)
      (silent : NoDetail effects)
  /-- It asks for the customer it is open for, under a new ticket. -/
  | asks {token id : String} {others : List Effect} (silent : NoDetail others)
      (next_eq : next = .showing id dialog.tickets.issue.2 .waiting)
      (effects_eq : effects = others ++
        [.send (.detail token id) (.detail page dialog.tickets.issue.1 id)])

theorem DialogTurn.refl (page : Nat) (dialog : DetailDialog) {effects : List Effect}
    (silent : NoDetail effects) : DialogTurn page dialog dialog effects :=
  .rests rfl (fun _ => rfl) silent

/-- Other things may be done before. -/
theorem DialogTurn.after {page : Nat} {dialog next : DetailDialog} {effects before : List Effect}
    (turn : DialogTurn page dialog next effects) (silent : NoDetail before) :
    DialogTurn page dialog next (before ++ effects) := by
  cases turn with
  | rests tickets_eq kept silent' => exact .rests tickets_eq kept (silent.append silent')
  | asks silent' next_eq effects_eq =>
    rw [effects_eq, ← List.append_assoc]
    exact .asks (silent.append silent') next_eq rfl

/-- The report is loaded without its dialog. -/
theorem SpendScreen.load_dialog (screen : SpendScreen) (token? : Option String) (page : Nat) :
    (screen.load token? page).1.dialog = screen.dialog ∧
      NoDetail (screen.load token? page).2 := by
  rcases screen.load_cases token? page with ⟨-, heq⟩ | ⟨token, -, heq⟩
  · rw [heq]
    exact ⟨rfl, noDetail_nil⟩
  · rw [heq]
    refine ⟨rfl, fun call purpose hmem => ?_⟩
    cases List.mem_singleton.1 hmem
    exact ⟨rfl, rfl⟩

/-- Where there is a token, an event on the report opens the dialog, or lets it rest. -/
theorem SpendScreen.dialogTurn_update (screen : SpendScreen) (browser : Browser)
    {token? : Option String} (admin : token? ≠ none) (page : Nat) (event : SpendEvent) :
    DialogTurn page screen.dialog (screen.update browser token? page event).1.dialog
      (screen.update browser token? page event).2 := by
  have hload (asked : SpendScreen) (hdialog : asked.dialog = screen.dialog) :
      DialogTurn page screen.dialog (asked.load token? page).1.dialog
        (asked.load token? page).2 := by
    obtain ⟨hkept, silent⟩ := asked.load_dialog token? page
    rw [hkept, hdialog]
    exact .refl page screen.dialog silent
  cases event with
  | dates event =>
    rw [update]
    cases event.answer (screen.panel.first, screen.panel.last) browser.clock with
    | range | nothing => exact .refl page screen.dialog noDetail_nil
    | outOfCalendar => exact .refl page screen.dialog (noDetail_of_no_send (by simp))
  | applyFilter => exact hload (screen.put screen.panel.applyFilter) rfl
  | exportReport =>
    refine .refl page screen.dialog (noDetail_of_no_send fun call purpose => ?_)
    rw [update]
    cases (browser.exportTable csvOfSpend screen.panel.report.records
      "customer_spend.csv").error <;> simp [Effect.say]
  | pager event =>
    rw [update.eq_def]
    dsimp only
    cases event.ask? with
    | none =>
      cases event <;>
        exact .refl page screen.dialog noDetail_nil
    | some ask =>
      cases ask with
      | page n => exact hload (screen.put (screen.panel.setPage n)) rfl
      | size n => exact hload (screen.put (screen.panel.setPageSize n)) rfl
  | toggle => exact .refl page screen.dialog noDetail_nil
  | openDetail id =>
    obtain ⟨token, rfl⟩ := Option.ne_none_iff_exists'.1 admin
    have hopen := screen.dialog.openFor_eq id token page
    rw [update, hopen]
    exact .asks noDetail_nil rfl rfl
  | closeDetail =>
    refine .rests rfl (fun hopen => ?_) noDetail_nil
    cases hopen

namespace BillingPage

theorem noDetail_loadList (page : BillingPage) (session : Session) :
    NoDetail (page.loadList session).2 := by
  rw [loadList]
  rcases page.list.load_cases session page.id with ⟨-, heq⟩ | ⟨token, -, heq⟩
  · rw [heq]
    exact noDetail_of_no_send (by simp [Effect.say])
  · rw [heq]
    intro call purpose hmem
    cases List.mem_singleton.1 hmem
    exact ⟨rfl, rfl⟩

theorem loadReport_dialog (page : BillingPage) (session : Session) :
    (page.loadReport session).1.spend.dialog = page.spend.dialog ∧
      NoDetail (page.loadReport session).2 :=
  page.spend.load_dialog session.adminToken page.id

/-- A page opens with its dialog closed, and asks for no single customer. -/
theorem dialog_open {id : Nat} {session : Session} {clock : Clock}
    {opened : BillingPage × List Effect} (h : open? id session clock = some opened) :
    opened.1.spend.dialog = .closed ∧ NoDetail opened.2 := by
  obtain ⟨panel, -, rfl⟩ := Option.map_eq_some_iff.1 h
  obtain ⟨hdialog, silent⟩ := loadReport_dialog
    (loadList ⟨id, .customers, .empty, .empty, .ofPanel panel⟩ session).1 session
  exact ⟨hdialog, (noDetail_loadList _ session).append silent⟩

/-- Whatever is done on a page that is open for a session, its dialog is opened or rests. -/
theorem dialogTurn_update (page : BillingPage) (browser : Browser) {session : Session}
    (admin : session.adminToken ≠ none) (event : BillingEvent) :
    DialogTurn page.id page.spend.dialog (page.update browser session event).1.spend.dialog
      (page.update browser session event).2 := by
  cases event with
  | showTab => exact .refl page.id _ noDetail_nil
  | refresh => exact .refl page.id _ (page.noDetail_loadList session)
  | table event =>
    refine .refl page.id _ (noDetail_of_no_send fun call purpose => ?_)
    cases event with
    | typeSearch | clearSearch => simp [update, CustomerTable.update]
    | exportShown =>
      rw [update, CustomerTable.update]
      cases (browser.exportTable csvOfCustomers (page.table.shown page.list.customers)
        "customers.csv").error <;> simp [Effect.say]
  | spend event => exact page.spend.dialogTurn_update browser admin page.id event

/-- When the session changes, an open dialog asks again for its customer, with the new token. -/
theorem dialogTurn_sessionChanged (page : BillingPage) (old : Session) {new : Session}
    (admin : new.adminToken ≠ none)
    (shows : page.spend.dialog.isOpen = true →
      ∃ id content, page.spend.dialog = .showing id page.spend.dialog.tickets content) :
    DialogTurn page.id page.spend.dialog (page.sessionChanged old new).1.spend.dialog
      (page.sessionChanged old new).2 := by
  have hlisted : (if (old.token, old.role) = (new.token, new.role) then (page, [])
        else page.loadList new).1.id = page.id ∧
      (if (old.token, old.role) = (new.token, new.role) then (page, [])
        else page.loadList new).1.spend.dialog = page.spend.dialog ∧
      NoDetail (if (old.token, old.role) = (new.token, new.role) then (page, [])
        else page.loadList new).2 := by
    split
    · exact ⟨rfl, rfl, noDetail_nil⟩
    · exact ⟨rfl, rfl, page.noDetail_loadList new⟩
  rw [sessionChanged]
  generalize (if (old.token, old.role) = (new.token, new.role) then (page, [])
    else page.loadList new) = listed at hlisted ⊢
  obtain ⟨hid, hdialog, silent⟩ := hlisted
  split
  · rw [hdialog]
    exact .refl page.id _ silent
  · obtain ⟨hkept, silent'⟩ := listed.1.loadReport_dialog new
    have hreported : (listed.1.loadReport new).1.id = page.id := hid
    have hdone : (listed.1.loadReport new).1.spend.dialog.load new.adminToken
        (listed.1.loadReport new).1.id = page.spend.dialog.load new.adminToken page.id := by
      rw [hkept, hdialog, hreported]
    have turn : DialogTurn page.id page.spend.dialog
        (page.spend.dialog.load new.adminToken page.id).1
        (page.spend.dialog.load new.adminToken page.id).2 := by
      obtain ⟨token, htoken⟩ := Option.ne_none_iff_exists'.1 admin
      cases hopen : page.spend.dialog.isOpen with
      | false =>
        rw [DetailDialog.load_closed hopen]
        exact .refl page.id _ noDetail_nil
      | true =>
        obtain ⟨id, content, hshows⟩ := shows hopen
        have hload := (congrArg (·.load (some token) page.id) hshows).trans
          (DetailDialog.load_showing id token _ content page.id)
        rw [htoken, hload]
        exact .asks noDetail_nil rfl rfl
    rw [← hdone] at turn
    exact turn.after (silent.append silent')

end BillingPage

end BillingConsole
