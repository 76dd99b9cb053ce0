import BillingConsole.Proofs.Load.History
import BillingConsole.Screen.CustomerTable

/-!
# The latest load of the customers wins

Any number of loads may be on their way at once, and their answers may come in any order.

## What is here

* `CustomerList.beginLoad_eq_some_iff`, `CustomerList.finishLoad_cases` — all that a step can do.
* `CustomerList.After` — the lists that a history of loads leads to.
* `CustomerList.After.agrees`, `CustomerList.After.holds` — what such a list holds, by what was
  seen.
* `CustomerList.After.latestWins` — **the latest load wins**, whatever the order of the answers.
-/

set_option autoImplicit false

namespace BillingConsole

/-- The token is there exactly for a user whose role opens billing. -/
theorem Session.adminToken_eq_some_iff {session : Session} {token : String} :
    session.adminToken = some token ↔
      (∃ user, session.user = some user ∧ user.role.isAdmin = true) ∧
        session.token = some token := by
  rw [adminToken, Option.ite_none_right_eq_some, isAdmin, role]
  cases session.user <;> simp

namespace CustomerList

/-! ## What a step can do -/

theorem beginLoad_eq_some_iff {list next : CustomerList} {session : Session} {ticket : Nat}
    {token : String} :
    list.beginLoad session = some (ticket, token, next) ↔
      session.adminToken = some token ∧ ticket = list.tickets.issue.1 ∧
        next = { list with loading := true, tickets := list.tickets.issue.2 } := by
  rw [beginLoad, Option.map_eq_some_iff]
  constructor
  · rintro ⟨_, htoken, h⟩
    cases h
    exact ⟨htoken, rfl, rfl⟩
  · rintro ⟨htoken, rfl, rfl⟩
    exact ⟨token, htoken, rfl⟩

/-- The answer to a superseded ticket leaves the whole list as it is. -/
theorem finishLoad_stale {list : CustomerList} {ticket : Nat}
    (h : list.tickets.isLatest ticket = false) (result : Except ApiError (List Customer))
    (time : String) : list.finishLoad ticket result time = (.stale, list) := by
  rw [finishLoad.eq_def, if_neg (Bool.not_eq_true _ ▸ h)]

theorem finishLoad_cases {list next : CustomerList} {ticket : Nat}
    {result : Except ApiError (List Customer)} {time : String} {outcome : LoadOutcome}
    (h : list.finishLoad ticket result time = (outcome, next)) :
    (list.tickets.isLatest ticket = false ∧ outcome = .stale ∧ next = list) ∨
    (list.tickets.isLatest ticket = true ∧ ∃ error, result = .error error ∧
      outcome = .failed error ∧ next = { list with loading := false }) ∨
    (list.tickets.isLatest ticket = true ∧ ∃ customers, result = .ok customers ∧
      outcome = .applied ∧ next = { list with
        customers, loading := false, lastRefreshed := some time,
        generation := list.generation + 1 }) := by
  cases hlatest : list.tickets.isLatest ticket with
  | false =>
    rw [finishLoad_stale hlatest] at h
    cases h
    exact .inl ⟨rfl, rfl, rfl⟩
  | true =>
    rw [finishLoad.eq_def, if_pos hlatest] at h
    cases result with
    | error error => cases h; exact .inr (.inl ⟨rfl, error, rfl, rfl, rfl⟩)
    | ok customers => cases h; exact .inr (.inr ⟨rfl, customers, rfl, rfl, rfl⟩)

/-! ## Lists after a history -/

/-- What is seen of loading customers: each load asks with a token, and receives the customers at
some time of day. -/
abbrev Loads := LoadHistory String (List Customer × String)

/-- The lists that a history of loads leads to.  Loads are begun under any session, and tickets that
were handed out are answered in any order, with anything. -/
inductive After : Loads → CustomerList → Prop
  | empty : After [] .empty
  | refused {history : Loads} {list : CustomerList} {session : Session}
      (after : After history list) (refuses : list.beginLoad session = none) : After history list
  | began {history : Loads} {list next : CustomerList} {session : Session} {ticket : Nat}
      {token : String} (after : After history list)
      (begins : list.beginLoad session = some (ticket, token, next)) :
      After (.began ticket token :: history) next
  | ended {history : Loads} {list next : CustomerList} {ticket : Nat}
      {result : Except ApiError (List Customer)} {time : String} {outcome : LoadOutcome}
      (after : After history list) (hticket : ticket ∈ history.issued)
      (finishes : list.finishLoad ticket result time = (outcome, next)) :
      After (.ended ticket (result.map fun customers => (customers, time)) outcome :: history) next

/-- The customers and their time that a list holds after a history. -/
def Holds (history : Loads) (list : CustomerList) : Prop :=
  match history.takenOver.head? with
  | some taken => list.customers = taken.value.1 ∧ list.lastRefreshed = some taken.value.2
  | none => list.customers = [] ∧ list.lastRefreshed = none

namespace After

variable {history : Loads} {list : CustomerList}

theorem agrees (after : After history list) :
    history.Agrees list.tickets list.loading list.generation := by
  induction after with
  | empty => exact .nil
  | refused _ _ ih => exact ih
  | began _ begins ih =>
    obtain ⟨-, rfl, rfl⟩ := beginLoad_eq_some_iff.1 begins
    exact ih.began _
  | ended _ hticket finishes ih =>
    rcases finishLoad_cases finishes with ⟨hlatest, rfl, rfl⟩ | ⟨hlatest, error, rfl, rfl, rfl⟩ |
      ⟨hlatest, customers, rfl, rfl, rfl⟩
    · exact ih.stale hticket hlatest _
    · exact ih.failed hticket hlatest error
    · exact ih.applied hticket hlatest _

/-- Failures and superseded answers keep the customers and their time. -/
theorem holds (after : After history list) : Holds history list := by
  induction after with
  | empty => exact ⟨rfl, rfl⟩
  | refused _ _ ih => exact ih
  | began _ begins ih =>
    obtain ⟨-, rfl, rfl⟩ := beginLoad_eq_some_iff.1 begins
    exact ih
  | ended after hticket finishes ih =>
    rcases finishLoad_cases finishes with ⟨hlatest, rfl, rfl⟩ | ⟨hlatest, error, rfl, rfl, rfl⟩ |
      ⟨hlatest, customers, rfl, rfl, rfl⟩
    · rw [Holds, LoadHistory.takenOver, after.agrees.taken?_stale hticket hlatest]
      exact ih
    · exact ih
    · obtain ⟨asked, htaken⟩ := after.agrees.taken?_applied hticket hlatest (customers, _)
      rw [Holds, LoadHistory.takenOver, Except.map, htaken]
      exact ⟨rfl, rfl⟩

end After

/-! ## The latest load wins -/

/-- What holds of a list after a history of loads. -/
structure LatestWins (history : Loads) (list : CustomerList) : Prop where
  /-- A load begins exactly under a session with a token and a role that billing is open to. -/
  begins_iff : ∀ session : Session,
    (∃ ticket token next, list.beginLoad session = some (ticket, token, next)) ↔
      (∃ user, session.user = some user ∧ user.role.isAdmin = true) ∧
        ∃ token, session.token = some token
  /-- It asks with the token of the session, under a ticket above all earlier ones. -/
  ticket_above : ∀ {session : Session} {ticket : Nat} {token : String} {next : CustomerList},
    list.beginLoad session = some (ticket, token, next) →
      session.token = some token ∧ ∀ earlier ∈ history.issued, earlier < ticket
  /-- Under any other session the list stays as it is. -/
  refused_keeps : ∀ {session : Session}, list.beginLoad session = none →
    ∀ page, (list.load session page).1 = list
  /-- The answer to a ticket that is not the latest changes nothing. -/
  stale_keeps : ∀ ticket ∈ history.issued, history.issued.head? ≠ some ticket →
    ∀ result time, list.finishLoad ticket result time = (.stale, list)
  /-- The list holds what the last good answer to a then latest ticket brought. -/
  holds : Holds history list
  /-- The generation counts the answers that were applied. -/
  generation_eq : list.generation = history.appliedCount
  /-- The list is loading while the latest ticket waits for its answer. -/
  loading_iff : list.loading = true ↔
    ∃ ticket, history.issued.head? = some ticket ∧ ticket ∉ history.answered
  /-- Tickets are numbered from one, so as many loads as a counter has room for fit into it. -/
  issued_le : ∀ ticket ∈ history.issued, 1 ≤ ticket ∧ ticket ≤ history.issued.length

/-- **The latest load wins.**  After any history of loads the list is what the latest load that was
taken over brought, and only the answer to the latest ticket can still change it. -/
theorem After.latestWins {history : Loads} {list : CustomerList} (after : After history list) :
    LatestWins history list where
  begins_iff session := by
    simp only [beginLoad_eq_some_iff, Session.adminToken_eq_some_iff]
    constructor
    · rintro ⟨_, token, _, ⟨huser, htoken⟩, -, -⟩
      exact ⟨huser, token, htoken⟩
    · rintro ⟨huser, token, htoken⟩
      exact ⟨_, token, _, ⟨huser, htoken⟩, rfl, rfl⟩
  ticket_above begins := by
    obtain ⟨htoken, rfl, -⟩ := beginLoad_eq_some_iff.1 begins
    refine ⟨(Session.adminToken_eq_some_iff.1 htoken).2, fun earlier hearlier => ?_⟩
    exact Nat.lt_succ_of_le (after.agrees.mem_issued_iff.1 hearlier).2
  refused_keeps refuses page := by rw [load, refuses]
  stale_keeps ticket hticket hhead result time := by
    rw [ne_eq, ← after.agrees.isLatest_iff hticket, Bool.not_eq_true] at hhead
    exact finishLoad_stale hhead result time
  holds := after.holds
  generation_eq := after.agrees.generation_eq.trans after.agrees.appliedCount_eq.symm
  loading_iff := after.agrees.loading_iff
  issued_le ticket hticket := by
    rw [after.agrees.length_issued]
    exact after.agrees.mem_issued_iff.1 hticket

/-- Two loads overlap, and the answer to the first one comes last. -/
theorem After.latestWins_overtaken :
    ∃ history list, After history list ∧ LatestWins history list ∧ history.issued = [2, 1] ∧
      history.answered = [1, 2] ∧ list.lastRefreshed = some "14:02" := by
  have begins (list : CustomerList) :
      list.beginLoad ⟨some "sk", some ⟨"1", "ops", none, none, .proxyAdmin⟩⟩ =
        some (list.tickets.issue.1, "sk",
          { list with loading := true, tickets := list.tickets.issue.2 }) := rfl
  have ends (list : CustomerList) (ticket : Nat) (time : String) :
      list.finishLoad ticket (.ok []) time = ((list.finishLoad ticket (.ok []) time).1,
        (list.finishLoad ticket (.ok []) time).2) := rfl
  have both := (After.empty.began (begins _)).began (begins _)
  have run := (both.ended (by decide) (ends _ 2 "14:02")).ended (by decide) (ends _ 1 "14:03")
  exact ⟨_, _, run, run.latestWins, rfl, rfl, rfl⟩

end CustomerList

end BillingConsole
