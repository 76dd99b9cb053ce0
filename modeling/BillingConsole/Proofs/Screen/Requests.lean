import BillingConsole.Proofs.Gateway.Billing
import BillingConsole.Proofs.Load.CustomerList
import BillingConsole.Proofs.Load.SpendPanel
import BillingConsole.Proofs.Screen.Billing

/-!
# What the billing page asks for

Whatever happens to a billing page, it only asks for billing data, on its own behalf and with the
token of a session that billing is open to, under tickets that count up.

## What is here

* `Purpose.page?` — the page an answer is for.
* `BillingPage.HasIssued`, `BillingPage.Expects` — the tickets a page has handed out, and the latest
  of them, whose answers it will take over.
* `BillingPage.Later`, `BillingPage.Asks` — the page went on, and asked for data on the way.
* `BillingPage.asks_open`, `BillingPage.asks_sessionChanged`, `BillingPage.asks_update` — all a page
  does is of that kind.
* `BillingPage.renewed_sessionChanged` — with another token a page expects nothing of before.
* `BillingPage.later_receive` — an answer keeps the tickets.
* `BillingPage.expects_of_receive` — only an expected answer changes what was loaded.
-/

set_option autoImplicit false

namespace BillingConsole

/-- The page an answer is for. -/
def Purpose.page? : Purpose → Option Nat
  | .customers page _ | .report page _ | .detail page _ _ => some page
  | .restore _ | .signIn _ | .signOut => none

theorem Tickets.isLatest_iff_eq {tickets : Tickets} {ticket : Nat} :
    tickets.isLatest ticket = true ↔ ticket = tickets.latest := beq_iff_eq

/-! ## Loads -/

/-- Without access to billing the customers are not asked for; otherwise they are, under the next
ticket. -/
theorem CustomerList.load_cases (list : CustomerList) (session : Session) (page : Nat) :
    (session.adminToken = none ∧
      list.load session page = (list, [.say .debug "Customers not loaded: no admin session"])) ∨
    ∃ token, session.adminToken = some token ∧ list.load session page =
      ({ list with loading := true, tickets := list.tickets.issue.2 },
        [.send (.customers token) (.customers page list.tickets.issue.1)]) := by
  rw [load, beginLoad]
  cases session.adminToken with
  | none => exact .inl ⟨rfl, rfl⟩
  | some token => exact .inr ⟨token, rfl, rfl⟩

/-- Without a token the report is not asked for; otherwise it is, under the next ticket. -/
theorem SpendScreen.load_cases (screen : SpendScreen) (token? : Option String) (page : Nat) :
    (token? = none ∧ screen.load token? page = (screen.put screen.panel, [])) ∨
    ∃ token, token? = some token ∧ screen.load token? page =
      (screen.put { screen.panel with loading := true, tickets := screen.panel.tickets.issue.2 },
        [.send (.report token screen.panel.query)
          (.report page screen.panel.tickets.issue.1)]) := by
  rw [load, SpendPanel.beginLoad]
  cases token? with
  | none => exact .inl ⟨rfl, rfl⟩
  | some token => exact .inr ⟨token, rfl, rfl⟩

/-- Where the dialog asks for something, it is the spending of a customer. -/
theorem DetailDialog.load_cases (dialog : DetailDialog) (token? : Option String) (page : Nat) :
    (dialog.load token? page).2 = [] ∨
    ∃ token id, token? = some token ∧ (dialog.load token? page).2 =
      [.send (.detail token id) (.detail page dialog.tickets.issue.1 id)] := by
  rw [load.eq_def]
  split
  · next id token _ _ => exact .inr ⟨token, id, rfl, rfl⟩
  · exact .inl rfl

/-- An event on the report asks for it after a change that keeps the tickets, or keeps them and asks
for nothing, or only on behalf of the dialog. -/
theorem SpendScreen.update_cases (screen : SpendScreen) (browser : Browser)
    (token? : Option String) (page : Nat) (event : SpendEvent) :
    (∃ asked : SpendScreen, asked.panel.tickets = screen.panel.tickets ∧
      screen.update browser token? page event = asked.load token? page) ∨
    (screen.update browser token? page event).1.panel.tickets = screen.panel.tickets ∧
      ((∀ call purpose, .send call purpose ∉ (screen.update browser token? page event).2) ∨
        ∃ dialog : DetailDialog,
          (screen.update browser token? page event).2 = (dialog.load token? page).2) := by
  cases event with
  | dates event =>
    rw [update]
    cases event.answer (screen.panel.first, screen.panel.last) browser.clock with
    | range | nothing | outOfCalendar => exact .inr ⟨rfl, .inl (by simp)⟩
  | applyFilter => exact .inl ⟨screen.put screen.panel.applyFilter, rfl, rfl⟩
  | exportReport =>
    refine .inr ⟨rfl, .inl fun call purpose => ?_⟩
    rw [update]
    cases (browser.exportTable csvOfSpend screen.panel.report.records
      "customer_spend.csv").error <;> simp [Effect.say]
  | pager event =>
    rw [update.eq_def]
    dsimp only
    cases event.ask? with
    | none => cases event <;> exact .inr ⟨rfl, .inl (by simp)⟩
    | some ask =>
      cases ask with
      | page n => exact .inl ⟨screen.put (screen.panel.setPage n), rfl, rfl⟩
      | size n => exact .inl ⟨screen.put (screen.panel.setPageSize n), rfl, rfl⟩
  | toggle | closeDetail => exact .inr ⟨rfl, .inl (by simp [update])⟩
  | openDetail => exact .inr ⟨rfl, .inr ⟨_, rfl⟩⟩

/-- The answer to a load keeps the tickets, and changes nothing unless it is to the latest one. -/
theorem CustomerList.receive_cases (list : CustomerList) (ticket : Nat) (reply : Reply)
    (time : String) :
    (list.receive ticket reply time).1.tickets = list.tickets ∧
      (list.tickets.isLatest ticket = false → (list.receive ticket reply time).1 = list) := by
  rw [receive]
  cases hfinish : list.finishLoad ticket reply.customers time with
  | mk outcome next =>
    rcases finishLoad_cases hfinish with ⟨-, -, rfl⟩ | ⟨hlatest, error, -, -, rfl⟩ |
      ⟨hlatest, customers, -, -, rfl⟩
    · exact ⟨rfl, fun _ => rfl⟩
    · exact ⟨rfl, fun h => absurd (hlatest.symm.trans h) (by decide)⟩
    · exact ⟨rfl, fun h => absurd (hlatest.symm.trans h) (by decide)⟩

/-- So does the answer to a load of the report. -/
theorem SpendScreen.receive_cases (screen : SpendScreen) (ticket : Nat) (reply : Reply) :
    (screen.receive ticket reply).1.panel.tickets = screen.panel.tickets ∧
      (screen.panel.tickets.isLatest ticket = false →
        (screen.receive ticket reply).1.panel = screen.panel) := by
  rw [receive]
  cases hfinish : screen.panel.finishLoad ticket reply.report with
  | mk outcome next =>
    rcases SpendPanel.finishLoad_cases hfinish with ⟨-, -, rfl⟩ | ⟨hlatest, error, -, -, rfl⟩ |
      ⟨hlatest, report, -, -, rfl⟩
    · exact ⟨rfl, fun _ => rfl⟩
    · exact ⟨rfl, fun h => absurd (hlatest.symm.trans h) (by decide)⟩
    · exact ⟨rfl, fun h => absurd (hlatest.symm.trans h) (by decide)⟩

/-! ## Pages that went on -/

namespace BillingPage

/-- The tickets that a page has handed out. -/
def HasIssued (page : BillingPage) : Purpose → Prop
  | .customers _ ticket => ticket ≤ page.list.tickets.latest
  | .report _ ticket => ticket ≤ page.spend.panel.tickets.latest
  | .detail .. | .restore _ | .signIn _ | .signOut => True

/-- The answers that a page will take over into the customers or the report. -/
def Expects (page : BillingPage) : Purpose → Prop
  | .customers _ ticket => page.list.tickets.isLatest ticket = true
  | .report _ ticket => page.spend.panel.tickets.isLatest ticket = true
  | .detail .. | .restore _ | .signIn _ | .signOut => False

/-- The page went on. -/
structure Later (page next : BillingPage) : Prop where
  id_eq : next.id = page.id
  list_le : page.list.tickets.latest ≤ next.list.tickets.latest
  report_le : page.spend.panel.tickets.latest ≤ next.spend.panel.tickets.latest

/-- The page has handed out new tickets, for both the customers and the report. -/
structure Renewed (page next : BillingPage) : Prop where
  list_lt : page.list.tickets.latest < next.list.tickets.latest
  report_lt : page.spend.panel.tickets.latest < next.spend.panel.tickets.latest

/-- What a page may send with a token. -/
structure MaySend (page : BillingPage) (token? : Option String) (call : Call) (purpose : Purpose) :
    Prop where
  page_eq : purpose.page? = some page.id
  issued : page.HasIssued purpose
  token_eq : ∃ token, token? = some token ∧ call.billingToken? = some token

/-- The page went on, and asked for data on the way. -/
structure Asks (page next : BillingPage) (token? : Option String) (effects : List Effect) :
    Prop where
  later : page.Later next
  sends : ∀ call purpose, .send call purpose ∈ effects → next.MaySend token? call purpose

variable {page next last : BillingPage} {token? : Option String} {effects more : List Effect}

theorem Later.refl (page : BillingPage) : page.Later page := ⟨rfl, le_rfl, le_rfl⟩

theorem Later.trans (h : page.Later next) (h' : next.Later last) : page.Later last :=
  ⟨h'.id_eq.trans h.id_eq, Nat.le_trans h.list_le h'.list_le,
    Nat.le_trans h.report_le h'.report_le⟩

theorem HasIssued.later {purpose : Purpose} (h : page.HasIssued purpose) (later : page.Later next) :
    next.HasIssued purpose := by
  cases purpose with
  | customers => exact Nat.le_trans h later.list_le
  | report => exact Nat.le_trans h later.report_le
  | detail | restore | signIn | signOut => trivial

/-- What a page expects of what it asked for earlier, it expected then. -/
theorem Expects.of_later {purpose : Purpose} (h : next.Expects purpose)
    (issued : page.HasIssued purpose) (later : page.Later next) : page.Expects purpose := by
  cases purpose with
  | customers =>
    have heq := Tickets.isLatest_iff_eq.1 h
    exact Tickets.isLatest_iff_eq.2 (Nat.le_antisymm issued (heq ▸ later.list_le))
  | report =>
    have heq := Tickets.isLatest_iff_eq.1 h
    exact Tickets.isLatest_iff_eq.2 (Nat.le_antisymm issued (heq ▸ later.report_le))
  | detail | restore | signIn | signOut => exact h.elim

/-- With new tickets a page expects nothing that it asked for earlier. -/
theorem Renewed.not_expects {purpose : Purpose} (renewed : page.Renewed next)
    (issued : page.HasIssued purpose) : ¬ next.Expects purpose := by
  intro h
  cases purpose with
  | customers =>
    have heq := Tickets.isLatest_iff_eq.1 h
    exact absurd (heq ▸ issued) (Nat.not_le_of_lt renewed.list_lt)
  | report =>
    have heq := Tickets.isLatest_iff_eq.1 h
    exact absurd (heq ▸ issued) (Nat.not_le_of_lt renewed.report_lt)
  | detail | restore | signIn | signOut => exact h

theorem MaySend.later {call : Call} {purpose : Purpose} (h : page.MaySend token? call purpose)
    (later : page.Later next) : next.MaySend token? call purpose :=
  ⟨later.id_eq ▸ h.page_eq, h.issued.later later, h.token_eq⟩

theorem Later.asks (h : page.Later next) (hsends : ∀ call purpose, .send call purpose ∉ effects) :
    page.Asks next token? effects :=
  ⟨h, fun call purpose hmem => absurd hmem (hsends call purpose)⟩

theorem Asks.andThen (h : page.Asks next token? effects) (h' : next.Asks last token? more) :
    page.Asks last token? (effects ++ more) := by
  refine ⟨h.later.trans h'.later, fun call purpose hmem => ?_⟩
  rcases List.mem_append.1 hmem with hmem | hmem
  · exact (h.sends call purpose hmem).later h'.later
  · exact h'.sends call purpose hmem

/-! ## What a page does -/

theorem asks_loadList (page : BillingPage) (session : Session) :
    page.Asks (page.loadList session).1 session.adminToken (page.loadList session).2 := by
  rw [loadList]
  rcases page.list.load_cases session page.id with ⟨-, hload⟩ | ⟨token, htoken, hload⟩
  · rw [hload]
    exact Later.asks ⟨rfl, le_rfl, le_rfl⟩ (by simp [Effect.say])
  · rw [hload]
    refine ⟨⟨rfl, Nat.le_succ _, le_rfl⟩, fun call purpose hmem => ?_⟩
    cases List.mem_singleton.1 hmem
    exact ⟨rfl, le_rfl, token, htoken, rfl⟩

theorem asks_loadReport (page : BillingPage) (session : Session) :
    page.Asks (page.loadReport session).1 session.adminToken (page.loadReport session).2 := by
  rw [loadReport]
  rcases page.spend.load_cases session.adminToken page.id with ⟨-, hload⟩ | ⟨token, htoken, hload⟩
  · rw [hload]
    exact Later.asks ⟨rfl, le_rfl, le_rfl⟩ (by simp)
  · rw [hload]
    refine ⟨⟨rfl, le_rfl, Nat.le_succ _⟩, fun call purpose hmem => ?_⟩
    cases List.mem_singleton.1 hmem
    exact ⟨rfl, le_rfl, token, htoken, rfl⟩

/-- What the dialog asks for is asked for by its page. -/
theorem maySend_of_dialog {dialog : DetailDialog} {call : Call} {purpose : Purpose}
    (h : .send call purpose ∈ (dialog.load token? page.id).2) :
    page.MaySend token? call purpose := by
  rcases dialog.load_cases token? page.id with hload | ⟨token, id, htoken, hload⟩
  · rw [hload] at h
    cases h
  · rw [hload] at h
    cases List.mem_singleton.1 h
    exact ⟨rfl, trivial, token, htoken, rfl⟩

theorem asks_loadDetail (page : BillingPage) (session : Session) :
    page.Asks (page.loadDetail session).1 session.adminToken (page.loadDetail session).2 :=
  ⟨⟨rfl, le_rfl, le_rfl⟩, fun _ _ hmem => (maySend_of_dialog hmem).later ⟨rfl, le_rfl, le_rfl⟩⟩

/-- A page that opens asks for the customers and the report. -/
theorem asks_open {id : Nat} {session : Session} {clock : Clock}
    {opened : BillingPage × List Effect} (h : open? id session clock = some opened) :
    ∃ page : BillingPage, page.id = id ∧
      page.Asks opened.1 session.adminToken opened.2 := by
  obtain ⟨panel, -, rfl⟩ := Option.map_eq_some_iff.1 h
  exact ⟨⟨id, .customers, .empty, .empty, .ofPanel panel⟩, rfl,
    (asks_loadList _ session).andThen (asks_loadReport _ session)⟩

theorem asks_sessionChanged (page : BillingPage) (old new : Session) :
    page.Asks (page.sessionChanged old new).1 new.adminToken (page.sessionChanged old new).2 := by
  have hlisted : page.Asks
      (if (old.token, old.role) = (new.token, new.role) then (page, [])
        else page.loadList new).1 new.adminToken
      (if (old.token, old.role) = (new.token, new.role) then (page, [])
        else page.loadList new).2 := by
    split
    · exact (Later.refl page).asks (by simp)
    · exact asks_loadList page new
  rw [sessionChanged]
  split
  · exact hlisted
  · exact (hlisted.andThen (asks_loadReport _ new)).andThen (asks_loadDetail _ new)

theorem lt_loadList {session : Session} {token : String} (h : session.adminToken = some token)
    (page : BillingPage) :
    page.list.tickets.latest < (page.loadList session).1.list.tickets.latest := by
  rw [loadList]
  rcases page.list.load_cases session page.id with ⟨hnone, -⟩ | ⟨token, -, hload⟩
  · rw [h] at hnone
    cases hnone
  · rw [hload]
    exact Nat.lt_succ_self _

theorem lt_loadReport {session : Session} {token : String} (h : session.adminToken = some token)
    (page : BillingPage) :
    page.spend.panel.tickets.latest < (page.loadReport session).1.spend.panel.tickets.latest := by
  rw [loadReport]
  rcases page.spend.load_cases session.adminToken page.id with ⟨hnone, -⟩ | ⟨token, -, hload⟩
  · rw [h] at hnone
    cases hnone
  · rw [hload]
    exact Nat.lt_succ_self _

/-- With another token both the customers and the report are asked for again. -/
theorem renewed_sessionChanged {old new : Session} {token : String}
    (h : new.adminToken = some token) (hne : old.adminToken ≠ new.adminToken)
    (page : BillingPage) : page.Renewed (page.sessionChanged old new).1 := by
  have hkey : ¬(old.token, old.role) = (new.token, new.role) := by
    rw [Prod.mk.injEq]
    rintro ⟨htoken, hrole⟩
    have hadmin : old.isAdmin = new.isAdmin := by
      rw [Session.isAdmin, Session.isAdmin, hrole]
    refine hne ?_
    rw [Session.adminToken, Session.adminToken, hadmin, htoken]
  rw [sessionChanged, if_neg hkey, if_neg hne]
  exact ⟨lt_loadList h page, lt_loadReport h (page.loadList new).1⟩

/-- Whatever is done on the page, it asks with the token of the session. -/
theorem asks_update (page : BillingPage) (browser : Browser) (session : Session)
    (event : BillingEvent) :
    page.Asks (page.update browser session event).1 session.adminToken
      (page.update browser session event).2 := by
  cases event with
  | showTab => exact Later.asks ⟨rfl, le_rfl, le_rfl⟩ (by simp [update])
  | refresh => exact asks_loadList page session
  | table event =>
    refine Later.asks ⟨rfl, le_rfl, le_rfl⟩ fun call purpose => ?_
    cases event with
    | typeSearch | clearSearch => simp [update, CustomerTable.update]
    | exportShown =>
      rw [update, CustomerTable.update]
      cases (browser.exportTable csvOfCustomers (page.table.shown page.list.customers)
        "customers.csv").error <;> simp [Effect.say]
  | spend event =>
    rw [update]
    rcases page.spend.update_cases browser session.adminToken page.id event with
      ⟨asked, htickets, heq⟩ | ⟨htickets, hsends | ⟨dialog, heq⟩⟩
    · have hload := asks_loadReport { page with spend := asked } session
      rw [loadReport, ← heq] at hload
      have hbefore : page.Asks { page with spend := asked } session.adminToken [] :=
        Later.asks ⟨rfl, le_rfl, htickets ▸ le_rfl⟩ (by simp)
      exact hbefore.andThen hload
    · exact Later.asks ⟨rfl, le_rfl, htickets ▸ le_rfl⟩ hsends
    · have hlater : page.Later { page with
          spend := (page.spend.update browser session.adminToken page.id event).1 } :=
        ⟨rfl, le_rfl, htickets ▸ le_rfl⟩
      refine ⟨hlater, fun call purpose hmem => ?_⟩
      rw [heq] at hmem
      exact (maySend_of_dialog hmem).later hlater

/-! ## What a page takes over -/

/-- An answer hands out no tickets. -/
theorem later_receive (page : BillingPage) (clock : Clock) (purpose : Purpose) (reply : Reply) :
    page.Later (page.receive clock purpose reply).1 := by
  cases purpose with
  | customers _ ticket =>
    exact ⟨rfl, (page.list.receive_cases ticket reply clock.label).1 ▸ le_rfl, le_rfl⟩
  | report _ ticket => exact ⟨rfl, le_rfl, (page.spend.receive_cases ticket reply).1 ▸ le_rfl⟩
  | detail | restore | signIn | signOut => exact ⟨rfl, le_rfl, le_rfl⟩

/-- The customers and the report of a page, with the state of their loads. -/
def loaded (page : BillingPage) : CustomerList × SpendPanel := (page.list, page.spend.panel)

/-- Only an expected answer changes what was loaded. -/
theorem expects_of_receive {clock : Clock} {purpose : Purpose} {reply : Reply}
    (h : (page.receive clock purpose reply).1.loaded ≠ page.loaded) : page.Expects purpose := by
  cases purpose with
  | customers _ ticket =>
    by_contra hlatest
    have hkept := (page.list.receive_cases ticket reply clock.label).2 (Bool.eq_false_iff.2 hlatest)
    exact h (Prod.ext hkept rfl)
  | report _ ticket =>
    by_contra hlatest
    have hkept := (page.spend.receive_cases ticket reply).2 (Bool.eq_false_iff.2 hlatest)
    exact h (Prod.ext rfl hkept)
  | detail | restore | signIn | signOut => exact absurd rfl h

end BillingPage

end BillingConsole
