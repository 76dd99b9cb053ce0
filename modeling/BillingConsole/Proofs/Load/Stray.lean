import BillingConsole.Proofs.Load.CustomerList
import BillingConsole.Proofs.Load.SpendPanel

/-!
# Answers under numbers that were never handed out

A counter knows the ticket it handed out last, but not whether it handed out any.  Tickets are
numbered from one and a new counter stands at zero, so until the first request zero passes for the
latest ticket.  Elsewhere answers come under tickets that were handed out; here they come under any
number.

## What is here

* `Tickets.HandedOut` — the counters that requests for tickets lead to.
* `Tickets.Counts`, `Tickets.HandedOut.isLatest_iff` — the numbers that pass for the latest ticket.
* `CustomerList.Answered`, `SpendPanel.Answered` — the lists and panels that loads lead to, with
  answers under any number; `CustomerList.Answered.handedOut` and `SpendPanel.Answered.handedOut`
  say that these change no counter.
* `Tickets.SortsOut`, `Tickets.HandedOut.sortsOut` — what becomes of such answers.
* `Tickets.onlyLast_counts` — **only the ticket handed out last counts, once there is one**;
  `Tickets.not_onlyLast_zero` — before that, zero does.
-/

set_option autoImplicit false

namespace BillingConsole

/-! ## Counters -/

namespace Tickets

/-- The counters that requests for tickets lead to, with the tickets handed out, the latest
first. -/
inductive HandedOut : List Nat → Tickets → Prop
  | none : HandedOut [] {}
  | issue {issued : List Nat} {tickets : Tickets} (handed : HandedOut issued tickets) :
      HandedOut (tickets.issue.1 :: issued) tickets.issue.2

/-- The numbers that pass for the latest ticket: the one handed out last or, before the first one,
zero. -/
def Counts (issued : List Nat) (ticket : Nat) : Prop :=
  issued.head? = some ticket ∨ issued = [] ∧ ticket = 0

/-- Of the numbers that were not handed out only zero ever counts. -/
theorem counts_iff_of_not_mem {issued : List Nat} {ticket : Nat} (h : ticket ∉ issued) :
    Counts issued ticket ↔ issued = [] ∧ ticket = 0 :=
  or_iff_right fun hhead => h (List.mem_of_head? hhead)

namespace HandedOut

variable {issued : List Nat} {tickets : Tickets}

theorem isLatest_iff (handed : HandedOut issued tickets) (ticket : Nat) :
    tickets.isLatest ticket = true ↔ Counts issued ticket := by
  cases handed with
  | none => simp [isLatest, Counts]
  | issue =>
    simp only [isLatest_issue, Counts, List.head?_cons, Option.some_inj, reduceCtorEq, false_and,
      or_false]
    exact eq_comm

theorem latest_eq (handed : HandedOut issued tickets) : tickets.latest = issued.length := by
  induction handed with
  | none => rfl
  | issue _ ih => rw [List.length_cons, ← ih, Tickets.issue]

/-- Tickets are numbered from one, so zero is never handed out, and as many requests as a counter
has room for fit into it. -/
theorem issued_le (handed : HandedOut issued tickets) :
    ∀ ticket ∈ issued, 1 ≤ ticket ∧ ticket ≤ issued.length := by
  induction handed with
  | none => exact fun ticket hticket => nomatch hticket
  | issue handed ih =>
    intro ticket hticket
    rw [List.length_cons]
    rcases List.mem_cons.1 hticket with rfl | hearlier
    · rw [Tickets.issue, handed.latest_eq]
      omega
    · have := ih ticket hearlier
      omega

end HandedOut

/-! ## Answers under any number -/

/-- What becomes of the answers under all numbers, where `finish` ends a load of `state`. -/
structure SortsOut {State : Type} (issued : List Nat) (finish : Nat → LoadOutcome × State)
    (state : State) : Prop where
  /-- Under a number that does not count nothing changes. -/
  stale_keeps : ∀ ticket, ¬Counts issued ticket → finish ticket = (.stale, state)
  /-- Under one that counts the answer is taken over, or the load has failed. -/
  counts_ends : ∀ ticket, Counts issued ticket → (finish ticket).1 ≠ .stale
  /-- So under a number that was never handed out nothing changes, unless it is the zero of a
  counter that has handed out nothing. -/
  stray_iff : ∀ ticket ∉ issued,
    (finish ticket = (.stale, state) ↔ ¬(issued = [] ∧ ticket = 0))

/-- The counter alone decides what becomes of an answer. -/
theorem HandedOut.sortsOut {issued : List Nat} {tickets : Tickets} {State : Type}
    {finish : Nat → LoadOutcome × State} {state : State} (handed : HandedOut issued tickets)
    (stale : ∀ ticket, tickets.isLatest ticket = false → finish ticket = (.stale, state))
    (ends : ∀ ticket, tickets.isLatest ticket = true → (finish ticket).1 ≠ .stale) :
    SortsOut issued finish state := by
  have keeps : ∀ ticket, ¬Counts issued ticket → finish ticket = (.stale, state) := by
    intro ticket hcounts
    rw [← handed.isLatest_iff, Bool.not_eq_true] at hcounts
    exact stale ticket hcounts
  have counts : ∀ ticket, Counts issued ticket → (finish ticket).1 ≠ .stale := by
    intro ticket hcounts
    exact ends ticket ((handed.isLatest_iff ticket).2 hcounts)
  refine ⟨keeps, counts, fun ticket hticket => ?_⟩
  rw [← counts_iff_of_not_mem hticket]
  exact ⟨fun hstale hcounts => counts ticket hcounts (congrArg Prod.fst hstale), keeps ticket⟩

end Tickets

/-! ## The customers -/

namespace CustomerList

theorem finishLoad_ne_stale {list : CustomerList} {ticket : Nat}
    (h : list.tickets.isLatest ticket = true) (result : Except ApiError (List Customer))
    (time : String) : (list.finishLoad ticket result time).1 ≠ .stale := by
  rcases finishLoad_cases (Prod.eta (list.finishLoad ticket result time)).symm with
    ⟨hfalse, -⟩ | ⟨-, _, -, houtcome, -⟩ | ⟨-, _, -, houtcome, -⟩
  · exact absurd (h.symm.trans hfalse) (by decide)
  · simp [houtcome]
  · simp [houtcome]

/-- No answer changes the counter. -/
theorem tickets_finishLoad (list : CustomerList) (ticket : Nat)
    (result : Except ApiError (List Customer)) (time : String) :
    (list.finishLoad ticket result time).2.tickets = list.tickets := by
  rcases finishLoad_cases (Prod.eta (list.finishLoad ticket result time)).symm with
    ⟨-, -, hnext⟩ | ⟨-, _, -, -, hnext⟩ | ⟨-, _, -, -, hnext⟩ <;> rw [hnext]

/-- The lists that loads lead to, with the tickets handed out, the latest first.  Loads are begun
under any session, and answers come under any number, whether it was handed out or not. -/
inductive Answered : List Nat → CustomerList → Prop
  | empty : Answered [] .empty
  | refused {issued : List Nat} {list : CustomerList} {session : Session}
      (answered : Answered issued list) (refuses : list.beginLoad session = none) :
      Answered issued list
  | began {issued : List Nat} {list next : CustomerList} {session : Session} {ticket : Nat}
      {token : String} (answered : Answered issued list)
      (begins : list.beginLoad session = some (ticket, token, next)) :
      Answered (ticket :: issued) next
  | ended {issued : List Nat} {list : CustomerList} (answered : Answered issued list)
      (ticket : Nat) (result : Except ApiError (List Customer)) (time : String) :
      Answered issued (list.finishLoad ticket result time).2

theorem Answered.handedOut {issued : List Nat} {list : CustomerList}
    (answered : Answered issued list) : Tickets.HandedOut issued list.tickets := by
  induction answered with
  | empty => exact .none
  | refused _ _ ih => exact ih
  | began _ begins ih =>
    obtain ⟨-, rfl, rfl⟩ := beginLoad_eq_some_iff.1 begins
    exact ih.issue
  | ended _ ticket result time ih =>
    rw [tickets_finishLoad]
    exact ih

end CustomerList

/-! ## The spend report -/

namespace SpendPanel

theorem finishLoad_ne_stale {panel : SpendPanel} {ticket : Nat}
    (h : panel.tickets.isLatest ticket = true) (result : Except ApiError SpendReport) :
    (panel.finishLoad ticket result).1 ≠ .stale := by
  rcases finishLoad_cases (Prod.eta (panel.finishLoad ticket result)).symm with
    ⟨hfalse, -⟩ | ⟨-, _, -, houtcome, -⟩ | ⟨-, _, -, houtcome, -⟩
  · exact absurd (h.symm.trans hfalse) (by decide)
  · simp [houtcome]
  · simp [houtcome]

/-- No answer changes the counter. -/
theorem tickets_finishLoad (panel : SpendPanel) (ticket : Nat)
    (result : Except ApiError SpendReport) :
    (panel.finishLoad ticket result).2.tickets = panel.tickets := by
  rcases finishLoad_cases (Prod.eta (panel.finishLoad ticket result)).symm with
    ⟨-, -, hnext⟩ | ⟨-, _, -, -, hnext⟩ | ⟨-, _, -, -, hnext⟩ <;> rw [hnext]

/-- The panels that edits and loads lead to, with the tickets handed out, the latest first.  Answers
come under any number, whether it was handed out or not. -/
inductive Answered (today : Date) : List Nat → SpendPanel → Prop
  | opened {panel : SpendPanel} (opens : start? today = some panel) : Answered today [] panel
  | rangeSet {issued : List Nat} {panel : SpendPanel} (answered : Answered today issued panel)
      (first last : Option Date) : Answered today issued (panel.setRange first last)
  | filterApplied {issued : List Nat} {panel : SpendPanel}
      (answered : Answered today issued panel) : Answered today issued panel.applyFilter
  | pageSet {issued : List Nat} {panel : SpendPanel} (answered : Answered today issued panel)
      (page : UInt32) : Answered today issued (panel.setPage page)
  | pageSizeSet {issued : List Nat} {panel : SpendPanel} (answered : Answered today issued panel)
      (size : UInt32) : Answered today issued (panel.setPageSize size)
  | toggled {issued : List Nat} {panel : SpendPanel} (answered : Answered today issued panel)
      (id : String) : Answered today issued (panel.toggle id)
  | refused {issued : List Nat} {panel : SpendPanel} {token : Option String}
      (answered : Answered today issued panel) (refuses : panel.beginLoad token = none) :
      Answered today issued panel
  | began {issued : List Nat} {panel next : SpendPanel} {token : Option String} {ticket : Nat}
      {asked : String} {query : SpendQuery} (answered : Answered today issued panel)
      (begins : panel.beginLoad token = some (ticket, asked, query, next)) :
      Answered today (ticket :: issued) next
  | ended {issued : List Nat} {panel : SpendPanel} (answered : Answered today issued panel)
      (ticket : Nat) (result : Except ApiError SpendReport) :
      Answered today issued (panel.finishLoad ticket result).2

/-- A panel that was opened on a day in March. -/
theorem Answered.opened_march : Answered ⟨2024, 3, 15, by decide⟩ []
    (.ofRange ⟨2024, 2, 14, by decide⟩ ⟨2024, 3, 15, by decide⟩) := .opened rfl

theorem Answered.handedOut {today : Date} {issued : List Nat} {panel : SpendPanel}
    (answered : Answered today issued panel) : Tickets.HandedOut issued panel.tickets := by
  induction answered with
  | opened opens =>
    obtain ⟨_, -, rfl⟩ := Option.map_eq_some_iff.1 opens
    exact .none
  | rangeSet _ _ _ ih | filterApplied _ ih | pageSet _ _ ih | pageSizeSet _ _ ih | toggled _ _ ih
  | refused _ _ ih => exact ih
  | began _ begins ih =>
    obtain ⟨-, rfl, -, rfl⟩ := beginLoad_eq_some_iff.1 begins
    exact ih.issue
  | ended _ ticket result ih =>
    rw [tickets_finishLoad]
    exact ih

end SpendPanel

/-! ## Which tickets count -/

namespace Tickets

/-- **Only the ticket handed out last counts, once there is one.**  However many tickets were handed
out, they are numbered from one, and a number passes for the latest ticket exactly if it was handed
out last, or if it is zero and none was.  After any loads, edits and answers that handed them out,
an answer under any other number changes neither the customers nor the report. -/
theorem onlyLast_counts {issued : List Nat} {tickets : Tickets}
    (handed : HandedOut issued tickets) :
    ((∀ ticket ∈ issued, 1 ≤ ticket ∧ ticket ≤ issued.length) ∧
      ∀ ticket, tickets.isLatest ticket = true ↔
        issued.head? = some ticket ∨ issued = [] ∧ ticket = 0) ∧
    (∀ {list : CustomerList}, CustomerList.Answered issued list →
      ∀ result time, SortsOut issued (list.finishLoad · result time) list) ∧
    ∀ {today : Date} {panel : SpendPanel}, SpendPanel.Answered today issued panel →
      ∀ result, SortsOut issued (panel.finishLoad · result) panel := by
  refine ⟨⟨handed.issued_le, handed.isLatest_iff⟩, fun answered result time => ?_,
    fun answered result => ?_⟩
  · exact answered.handedOut.sortsOut
      (fun _ hstale => CustomerList.finishLoad_stale hstale result time)
      (fun _ hlatest => CustomerList.finishLoad_ne_stale hlatest result time)
  · exact answered.handedOut.sortsOut
      (fun _ hstale => SpendPanel.finishLoad_stale hstale result)
      (fun _ hlatest => SpendPanel.finishLoad_ne_stale hlatest result)

/-- The first request comes after an answer under zero, which the list has taken.  From then on it
takes none under zero and none under seven, and neither does a panel. -/
theorem onlyLast_counts_stray :
    ∃ tickets list panel, HandedOut [1] tickets ∧ tickets.isLatest 1 = true ∧
      tickets.isLatest 0 = false ∧
      CustomerList.Answered [1] list ∧ list.generation = 1 ∧
      (∀ result time, list.finishLoad 0 result time = (.stale, list) ∧
        list.finishLoad 7 result time = (.stale, list)) ∧
      SpendPanel.Answered ⟨2024, 3, 15, by decide⟩ [1] panel ∧
      ∀ result, panel.finishLoad 0 result = (.stale, panel) := by
  have begins (list : CustomerList) :
      list.beginLoad ⟨some "sk", some ⟨"1", "ops", none, none, .proxyAdmin⟩⟩ =
        some (list.tickets.issue.1, "sk",
          { list with loading := true, tickets := list.tickets.issue.2 }) := rfl
  have asks (panel : SpendPanel) : panel.beginLoad (some "sk") = some (panel.tickets.issue.1,
      "sk", panel.query, { panel with loading := true, tickets := panel.tickets.issue.2 }) := rfl
  have one := HandedOut.none.issue
  have list := (CustomerList.Answered.empty.ended 0 (.ok []) "14:02").began (begins _)
  have panel := SpendPanel.Answered.opened_march.began (asks _)
  obtain ⟨⟨-, latest⟩, customers, report⟩ := onlyLast_counts one
  refine ⟨_, _, _, one, (latest 1).2 (.inl rfl), ?_, list, rfl, fun result time => ⟨?_, ?_⟩,
    panel, fun result => ?_⟩
  · exact Bool.eq_false_iff.2 fun h => absurd ((latest 0).1 h) (by decide)
  · exact ((customers list result time).stray_iff 0 (by decide)).2 (by decide)
  · exact ((customers list result time).stray_iff 7 (by decide)).2 (by decide)
  · exact ((report panel result).stray_iff 0 (by decide)).2 (by decide)

/-- Before the first request zero passes for the latest ticket, and an answer under it is taken. -/
theorem not_onlyLast_zero :
    ¬(∀ {issued : List Nat} {tickets : Tickets}, HandedOut issued tickets →
      ∀ ticket, tickets.isLatest ticket = true ↔ issued.head? = some ticket) ∧
    ¬(∀ {issued : List Nat} {list : CustomerList}, CustomerList.Answered issued list →
      ∀ ticket ∉ issued, ∀ result time, list.finishLoad ticket result time = (.stale, list)) ∧
    ¬(∀ {today : Date} {issued : List Nat} {panel : SpendPanel},
      SpendPanel.Answered today issued panel →
        ∀ ticket ∉ issued, ∀ result, panel.finishLoad ticket result = (.stale, panel)) := by
  refine ⟨fun h => ?_, fun h => ?_, fun h => ?_⟩
  · exact absurd ((h .none 0).1 rfl) (by decide)
  · exact absurd (congrArg Prod.fst (h .empty 0 (by decide) (.ok []) "14:02")) (by decide)
  · exact absurd (congrArg Prod.fst (h .opened_march 0 (by decide) (.ok .empty))) (by decide)

end Tickets

end BillingConsole
