import BillingConsole.Load.SpendPanel
import BillingConsole.Proofs.Load.History
import Mathlib.Algebra.Ring.Parity

/-!
# The spend panel under edits and loads

The dates, the page, the page size and the expanded rows may be changed while any number of loads
are on their way.  This file says what the panel holds after any such run, by what was done to it.

## What is here

* `PanelEvent`, `PanelHistory` — what was done to a panel, the latest first.
* `PanelHistory.range`, `PanelHistory.page`, `PanelHistory.pageSize`, `PanelHistory.toggles`,
  `PanelHistory.loads` — the settings in force after a history, and the loads in it.
* `SpendPanel.beginLoad_eq_some_iff`, `SpendPanel.finishLoad_cases` — all that a load can do.
* `SpendPanel.After` — the panels that a history leads to.
* `SpendPanel.After.settings`, `SpendPanel.After.agrees`, `SpendPanel.After.holds` — what such a
  panel holds.
* `SpendPanel.After.follows` — **the panel follows its history**: its report is the latest one that
  was taken over, and each query carries the settings in force when it is handed out.
-/

set_option autoImplicit false

namespace BillingConsole

theorem one_le_max_one (n : UInt32) : 1 ≤ max n 1 := by
  change 1 ≤ if n ≤ 1 then 1 else n
  split
  · exact UInt32.le_refl 1
  · rename_i h
    exact (UInt32.le_total n 1).resolve_left h

theorem max_one_eq {n : UInt32} (h : 1 ≤ n) : max n 1 = n := by
  change (if n ≤ 1 then 1 else n) = n
  split
  · rename_i h'
    exact UInt32.le_antisymm h h'
  · rfl

/-! ## What was done to a panel -/

/-- Something done to the panel. -/
inductive PanelEvent where
  | rangeSet (first last : Option Date)
  | filterApplied
  | pageSet (page : UInt32)
  | pageSizeSet (size : UInt32)
  | toggled (id : String)
  /-- A load asks with a token for what a query says. -/
  | load (event : LoadEvent (String × SpendQuery) SpendReport)

/-- What was done to a panel, the latest first. -/
abbrev PanelHistory := List PanelEvent

namespace PanelHistory

/-- The loads. -/
def loads : PanelHistory → LoadHistory (String × SpendQuery) SpendReport
  | [] => []
  | .load event :: earlier => event :: loads earlier
  | .rangeSet .. :: earlier | .filterApplied :: earlier | .pageSet _ :: earlier
  | .pageSizeSet _ :: earlier | .toggled _ :: earlier => loads earlier

/-- The range of dates that was set last, or else the one a panel opens with on a day. -/
def range (today : Date) : PanelHistory → Option Date × Option Date
  | [] => ((defaultWindow today).map Prod.fst, (defaultWindow today).map Prod.snd)
  | .rangeSet first last :: _ => (first, last)
  | .load _ :: earlier | .filterApplied :: earlier | .pageSet _ :: earlier
  | .pageSizeSet _ :: earlier | .toggled _ :: earlier => range today earlier

/-- The page in force: the one that was set last, unless the filter was applied or the page size was
set since. -/
def page : PanelHistory → UInt32
  | [] => 1
  | .pageSet page :: _ => max page 1
  | .filterApplied :: _ | .pageSizeSet _ :: _ => 1
  | .rangeSet .. :: earlier | .toggled _ :: earlier | .load _ :: earlier => page earlier

/-- The page size in force. -/
def pageSize : PanelHistory → UInt32
  | [] => SpendPanel.defaultPageSize
  | .pageSizeSet size :: _ => max size 1
  | .rangeSet .. :: earlier | .filterApplied :: earlier | .pageSet _ :: earlier
  | .toggled _ :: earlier | .load _ :: earlier => pageSize earlier

/-- How often the row of a customer was toggled. -/
def toggles (id : String) : PanelHistory → Nat
  | [] => 0
  | .toggled other :: earlier => toggles id earlier + if other = id then 1 else 0
  | .rangeSet .. :: earlier | .filterApplied :: earlier | .pageSet _ :: earlier
  | .pageSizeSet _ :: earlier | .load _ :: earlier => toggles id earlier

theorem mem_of_mem_loads {history : PanelHistory}
    {event : LoadEvent (String × SpendQuery) SpendReport} (h : event ∈ history.loads) :
    .load event ∈ history := by
  induction history with
  | nil => cases h
  | cons last earlier ih =>
    cases last with
    | load load =>
      rw [loads, List.mem_cons] at h
      rcases h with rfl | h
      · exact List.mem_cons_self
      · exact List.mem_cons_of_mem _ (ih h)
    | rangeSet | filterApplied | pageSet | pageSizeSet | toggled =>
      exact List.mem_cons_of_mem _ (ih h)

/-- The dates stay while none are set. -/
theorem range_append_of_unset {today : Date} {since before : PanelHistory}
    (unset : ∀ first last, .rangeSet first last ∉ since) :
    range today (since ++ before) = range today before := by
  induction since with
  | nil => rfl
  | cons event since ih =>
    have hsince := ih fun first last hmem => unset first last (List.mem_cons_of_mem _ hmem)
    cases event with
    | rangeSet first last => exact absurd List.mem_cons_self (unset first last)
    | filterApplied | pageSet | pageSizeSet | toggled | load => exact hsince

/-- The page size stays while none is set. -/
theorem pageSize_append_of_unset {since before : PanelHistory}
    (unset : ∀ size, .pageSizeSet size ∉ since) :
    pageSize (since ++ before) = pageSize before := by
  induction since with
  | nil => rfl
  | cons event since ih =>
    have hsince := ih fun size hmem => unset size (List.mem_cons_of_mem _ hmem)
    cases event with
    | pageSizeSet size => exact absurd List.mem_cons_self (unset size)
    | rangeSet | filterApplied | pageSet | toggled | load => exact hsince

theorem one_le_page (history : PanelHistory) : 1 ≤ history.page := by
  induction history with
  | nil => exact UInt32.le_refl 1
  | cons event earlier ih =>
    cases event with
    | pageSet => exact one_le_max_one _
    | filterApplied | pageSizeSet => exact UInt32.le_refl 1
    | rangeSet | toggled | load => exact ih

theorem one_le_pageSize (history : PanelHistory) : 1 ≤ history.pageSize := by
  induction history with
  | nil => decide
  | cons event earlier ih =>
    cases event with
    | pageSizeSet => exact one_le_max_one _
    | rangeSet | filterApplied | pageSet | toggled | load => exact ih

end PanelHistory

namespace SpendPanel

/-! ## What a load can do -/

theorem beginLoad_eq_some_iff {panel next : SpendPanel} {token : Option String} {ticket : Nat}
    {asked : String} {query : SpendQuery} :
    panel.beginLoad token = some (ticket, asked, query, next) ↔
      token = some asked ∧ ticket = panel.tickets.issue.1 ∧ query = panel.query ∧
        next = { panel with loading := true, tickets := panel.tickets.issue.2 } := by
  rw [beginLoad, Option.map_eq_some_iff]
  constructor
  · rintro ⟨_, htoken, h⟩
    cases h
    exact ⟨htoken, rfl, rfl, rfl⟩
  · rintro ⟨htoken, rfl, rfl, rfl⟩
    exact ⟨asked, htoken, rfl⟩

/-- The answer to a superseded ticket leaves the whole panel as it is. -/
theorem finishLoad_stale {panel : SpendPanel} {ticket : Nat}
    (h : panel.tickets.isLatest ticket = false) (result : Except ApiError SpendReport) :
    panel.finishLoad ticket result = (.stale, panel) := by
  rw [finishLoad.eq_def, if_neg (Bool.not_eq_true _ ▸ h)]

theorem finishLoad_cases {panel next : SpendPanel} {ticket : Nat}
    {result : Except ApiError SpendReport} {outcome : LoadOutcome}
    (h : panel.finishLoad ticket result = (outcome, next)) :
    (panel.tickets.isLatest ticket = false ∧ outcome = .stale ∧ next = panel) ∨
    (panel.tickets.isLatest ticket = true ∧ ∃ error, result = .error error ∧
      outcome = .failed error ∧ next = { panel with loading := false }) ∨
    (panel.tickets.isLatest ticket = true ∧ ∃ report, result = .ok report ∧
      outcome = .applied ∧
        next = { panel with report, loading := false, generation := panel.generation + 1 }) := by
  cases hlatest : panel.tickets.isLatest ticket with
  | false =>
    rw [finishLoad_stale hlatest] at h
    cases h
    exact .inl ⟨rfl, rfl, rfl⟩
  | true =>
    rw [finishLoad.eq_def, if_pos hlatest] at h
    cases result with
    | error error => cases h; exact .inr (.inl ⟨rfl, error, rfl, rfl, rfl⟩)
    | ok report => cases h; exact .inr (.inr ⟨rfl, report, rfl, rfl, rfl⟩)

/-- A toggle flips one row and no other. -/
theorem isExpanded_toggle (panel : SpendPanel) (id other : String) :
    (panel.toggle other).isExpanded id =
      if other = id then !panel.isExpanded id else panel.isExpanded id := by
  have hmem : ∀ p : SpendPanel, p.isExpanded id = true ↔ id ∈ p.expanded := fun p => by
    rw [isExpanded, List.contains_iff_mem]
  rw [Bool.eq_iff_iff, hmem, toggle]
  by_cases hopen : panel.isExpanded other = true
  · rw [if_pos hopen, List.mem_filter, ← hmem]
    by_cases heq : other = id
    · subst heq; simp [hopen]
    · simp [heq, Ne.symm heq]
  · rw [if_neg hopen, List.mem_cons, ← hmem]
    by_cases heq : other = id
    · subst heq; simpa using hopen
    · simp [heq, Ne.symm heq]

/-! ## Panels after a history -/

/-- The panels that a history leads to from the day a panel was opened on.  Settings are changed at
any time, loads are begun with any token or refused without one, and tickets that were handed out
are answered in any order, with anything. -/
inductive After (today : Date) : PanelHistory → SpendPanel → Prop
  | opened {panel : SpendPanel} (opens : start? today = some panel) : After today [] panel
  | rangeSet {history : PanelHistory} {panel : SpendPanel} (after : After today history panel)
      (first last : Option Date) :
      After today (.rangeSet first last :: history) (panel.setRange first last)
  | filterApplied {history : PanelHistory} {panel : SpendPanel}
      (after : After today history panel) :
      After today (.filterApplied :: history) panel.applyFilter
  | pageSet {history : PanelHistory} {panel : SpendPanel} (after : After today history panel)
      (page : UInt32) : After today (.pageSet page :: history) (panel.setPage page)
  | pageSizeSet {history : PanelHistory} {panel : SpendPanel} (after : After today history panel)
      (size : UInt32) : After today (.pageSizeSet size :: history) (panel.setPageSize size)
  | toggled {history : PanelHistory} {panel : SpendPanel} (after : After today history panel)
      (id : String) : After today (.toggled id :: history) (panel.toggle id)
  | refused {history : PanelHistory} {panel : SpendPanel} {token : Option String}
      (after : After today history panel) (refuses : panel.beginLoad token = none) :
      After today history panel
  | began {history : PanelHistory} {panel next : SpendPanel} {token : Option String} {ticket : Nat}
      {asked : String} {query : SpendQuery} (after : After today history panel)
      (begins : panel.beginLoad token = some (ticket, asked, query, next)) :
      After today (.load (.began ticket (asked, query)) :: history) next
  | ended {history : PanelHistory} {panel next : SpendPanel} {ticket : Nat}
      {result : Except ApiError SpendReport} {outcome : LoadOutcome}
      (after : After today history panel) (hticket : ticket ∈ history.loads.issued)
      (finishes : panel.finishLoad ticket result = (outcome, next)) :
      After today (.load (.ended ticket result outcome) :: history) next

/-- The settings of a panel are the ones in force after a history. -/
structure Settings (today : Date) (history : PanelHistory) (panel : SpendPanel) : Prop where
  range_eq : (panel.first, panel.last) = history.range today
  page_eq : panel.page = history.page
  pageSize_eq : panel.pageSize = history.pageSize
  expanded_iff : ∀ id, panel.isExpanded id = true ↔ Odd (history.toggles id)

/-- The report that a panel holds after a history. -/
def Holds (history : PanelHistory) (panel : SpendPanel) : Prop :=
  match history.loads.takenOver.head? with
  | some taken => panel.report = taken.value
  | none => panel.report = .empty

/-- The query for the settings in force after a history. -/
def queryAfter (today : Date) (history : PanelHistory) : SpendQuery :=
  ⟨(history.range today).1.map Date.text, (history.range today).2.map Date.text,
    some history.page, some history.pageSize⟩

theorem Settings.query_eq {today : Date} {history : PanelHistory} {panel : SpendPanel}
    (settings : Settings today history panel) : panel.query = queryAfter today history := by
  rw [query, SpendQuery.forRange, SpendQuery.withPage, queryAfter, ← settings.range_eq,
    settings.page_eq, settings.pageSize_eq, max_one_eq history.one_le_page]

namespace After

variable {today : Date} {history : PanelHistory} {panel : SpendPanel}

theorem agrees (after : After today history panel) :
    history.loads.Agrees panel.tickets panel.loading panel.generation := by
  induction after with
  | opened opens =>
    obtain ⟨_, -, rfl⟩ := Option.map_eq_some_iff.1 opens
    exact .nil
  | rangeSet _ _ _ ih | filterApplied _ ih | pageSet _ _ ih | pageSizeSet _ _ ih | toggled _ _ ih
  | refused _ _ ih => exact ih
  | began _ begins ih =>
    obtain ⟨-, rfl, -, rfl⟩ := beginLoad_eq_some_iff.1 begins
    exact ih.began _
  | ended _ hticket finishes ih =>
    rcases finishLoad_cases finishes with ⟨hlatest, rfl, rfl⟩ | ⟨hlatest, error, rfl, rfl, rfl⟩ |
      ⟨hlatest, report, rfl, rfl, rfl⟩
    · exact ih.stale hticket hlatest _
    · exact ih.failed hticket hlatest error
    · exact ih.applied hticket hlatest report

/-- Only the answer that is taken over changes the report. -/
theorem holds (after : After today history panel) : Holds history panel := by
  induction after with
  | opened opens =>
    obtain ⟨_, -, rfl⟩ := Option.map_eq_some_iff.1 opens
    rfl
  | rangeSet _ _ _ ih | filterApplied _ ih | pageSet _ _ ih | pageSizeSet _ _ ih | toggled _ _ ih
  | refused _ _ ih => exact ih
  | began _ begins ih =>
    obtain ⟨-, rfl, -, rfl⟩ := beginLoad_eq_some_iff.1 begins
    exact ih
  | ended after hticket finishes ih =>
    rcases finishLoad_cases finishes with ⟨hlatest, rfl, rfl⟩ | ⟨hlatest, error, rfl, rfl, rfl⟩ |
      ⟨hlatest, report, rfl, rfl, rfl⟩
    · rw [Holds, PanelHistory.loads, LoadHistory.takenOver,
        after.agrees.taken?_stale hticket hlatest]
      exact ih
    · exact ih
    · obtain ⟨asked, htaken⟩ := after.agrees.taken?_applied hticket hlatest report
      rw [Holds, PanelHistory.loads, LoadHistory.takenOver, htaken]
      rfl

/-- No load changes a setting. -/
theorem settings (after : After today history panel) : Settings today history panel := by
  induction after with
  | opened opens =>
    obtain ⟨window, hwindow, rfl⟩ := Option.map_eq_some_iff.1 opens
    refine ⟨?_, rfl, rfl, fun id => ⟨fun h => (nomatch h), fun h => (nomatch h)⟩⟩
    rw [PanelHistory.range, hwindow]
    rfl
  | rangeSet _ _ _ ih => exact { ih with range_eq := rfl }
  | filterApplied _ ih => exact { ih with page_eq := rfl }
  | pageSet _ _ ih => exact { ih with page_eq := rfl }
  | pageSizeSet _ _ ih => exact { ih with page_eq := rfl, pageSize_eq := rfl }
  | toggled _ other ih =>
    refine { ih with expanded_iff := fun id => ?_ }
    rw [isExpanded_toggle, PanelHistory.toggles]
    by_cases heq : other = id
    · rw [if_pos heq, if_pos heq, Nat.odd_add_one, ← ih.expanded_iff, Bool.not_eq_true',
        Bool.not_eq_true]
    · rw [if_neg heq, if_neg heq, Nat.add_zero, ih.expanded_iff]
  | refused _ _ ih => exact ih
  | began _ begins ih =>
    obtain ⟨-, rfl, -, rfl⟩ := beginLoad_eq_some_iff.1 begins
    exact { ih with }
  | ended _ _ finishes ih =>
    rcases finishLoad_cases finishes with ⟨-, -, rfl⟩ | ⟨-, -, -, -, rfl⟩ | ⟨-, -, -, -, rfl⟩ <;>
      exact { ih with }

/-- Whatever was done last was done to a panel, which a load asked for its query. -/
theorem before_cons {event : PanelEvent} (after : After today (event :: history) panel) :
    ∃ before, After today history before ∧
      ∀ ticket asked, event = .load (.began ticket asked) → asked.2 = before.query := by
  generalize hwhole : event :: history = whole at after
  induction after with
  | opened => cases hwhole
  | refused _ _ ih => exact ih hwhole
  | rangeSet before | filterApplied before | pageSet before | pageSizeSet before
  | toggled before | ended before =>
    cases hwhole
    exact ⟨_, before, fun _ _ heq => (nomatch heq)⟩
  | began before begins =>
    cases hwhole
    obtain ⟨-, -, rfl, -⟩ := beginLoad_eq_some_iff.1 begins
    exact ⟨_, before, fun _ _ heq => by cases heq; rfl⟩

/-- Whatever came later, a query says what was in force when it was handed out. -/
theorem asked_eq {later before : PanelHistory} {ticket : Nat} {asked : String × SpendQuery}
    (after : After today (later ++ .load (.began ticket asked) :: before) panel) :
    asked.2 = queryAfter today before := by
  induction later generalizing panel with
  | nil =>
    obtain ⟨_, earlier, hquery⟩ := after.before_cons
    rw [hquery ticket asked rfl, earlier.settings.query_eq]
  | cons event later ih =>
    obtain ⟨_, earlier, -⟩ := after.before_cons
    exact ih earlier

end After

/-! ## The panel follows its history -/

/-- What holds of a panel after a history. -/
structure Follows (today : Date) (history : PanelHistory) (panel : SpendPanel) : Prop where
  /-- A load begins exactly with a token. -/
  begins_iff : ∀ token : Option String,
    (∃ ticket asked query next, panel.beginLoad token = some (ticket, asked, query, next)) ↔
      token.isSome = true
  /-- It asks for the range that was set last, on the page and with the page size in force. -/
  query_eq : ∀ {token : Option String} {ticket : Nat} {asked : String} {query : SpendQuery}
    {next : SpendPanel}, panel.beginLoad token = some (ticket, asked, query, next) →
      query = queryAfter today history ∧ 1 ≤ history.page ∧ 1 ≤ history.pageSize
  /-- Nothing done later has changed a query that was handed out. -/
  asked_eq : ∀ {later before : PanelHistory} {ticket : Nat} {asked : String × SpendQuery},
    history = later ++ .load (.began ticket asked) :: before → asked.2 = queryAfter today before
  /-- The settings are the ones in force, and the rows that are open were toggled an odd number of
  times. -/
  settings : Settings today history panel
  /-- The report is the last good answer to a then latest ticket. -/
  holds : Holds history panel
  /-- The generation counts such answers. -/
  generation_eq : panel.generation = history.loads.takenOver.length
  /-- Any other answer keeps the report and the generation. -/
  others_keep : ∀ ticket ∈ history.loads.issued, ∀ {result : Except ApiError SpendReport}
    {outcome : LoadOutcome} {next : SpendPanel},
      panel.finishLoad ticket result = (outcome, next) → history.loads.taken? ticket result = none →
        next.report = panel.report ∧ next.generation = panel.generation
  /-- The answer to a ticket that is not the latest changes nothing at all. -/
  stale_keeps : ∀ ticket ∈ history.loads.issued, history.loads.issued.head? ≠ some ticket →
    ∀ result, panel.finishLoad ticket result = (.stale, panel)
  /-- The panel is loading while the latest ticket waits for its answer. -/
  loading_iff : panel.loading = true ↔
    ∃ ticket, history.loads.issued.head? = some ticket ∧ ticket ∉ history.loads.answered
  /-- Tickets are numbered from one, so as many loads as a counter has room for fit into it. -/
  issued_le : ∀ ticket ∈ history.loads.issued, 1 ≤ ticket ∧ ticket ≤ history.loads.issued.length

/-- **The panel follows its history.**  Whatever was edited, asked for and answered in whatever
order, the report is the latest one that was taken over, the expanded rows are the ones toggled an
odd number of times, and a query says what was in force when it was handed out. -/
theorem After.follows {today : Date} {history : PanelHistory} {panel : SpendPanel}
    (after : After today history panel) : Follows today history panel where
  begins_iff token := by
    cases token with
    | none => exact ⟨fun ⟨_, _, _, _, h⟩ => (nomatch h), fun h => (nomatch h)⟩
    | some token => exact ⟨fun _ => rfl, fun _ => ⟨_, _, _, _, rfl⟩⟩
  query_eq begins := by
    obtain ⟨-, -, rfl, -⟩ := beginLoad_eq_some_iff.1 begins
    exact ⟨after.settings.query_eq, history.one_le_page, history.one_le_pageSize⟩
  asked_eq heq := (heq ▸ after).asked_eq
  settings := after.settings
  holds := after.holds
  generation_eq := after.agrees.generation_eq
  others_keep ticket hticket _ _ _ finishes hnone := by
    rcases finishLoad_cases finishes with ⟨-, -, rfl⟩ | ⟨-, -, -, -, rfl⟩ |
      ⟨hlatest, report, rfl, -, -⟩
    · exact ⟨rfl, rfl⟩
    · exact ⟨rfl, rfl⟩
    · -- a good answer to the latest ticket would have been taken over
      obtain ⟨asked, htaken⟩ := after.agrees.taken?_applied hticket hlatest report
      rw [hnone] at htaken
      cases htaken
  stale_keeps ticket hticket hhead result := by
    rw [ne_eq, ← after.agrees.isLatest_iff hticket, Bool.not_eq_true] at hhead
    exact finishLoad_stale hhead result
  loading_iff := after.agrees.loading_iff
  issued_le ticket hticket := by
    rw [after.agrees.length_issued]
    exact after.agrees.mem_issued_iff.1 hticket

/-- A load overtaken by an edit, a row and another load: its answer comes last and is dropped. -/
theorem After.follows_overtaken :
    ∃ today history panel, After today history panel ∧ Follows today history panel ∧
      history.loads.issued = [2, 1] ∧ history.loads.answered = [1, 2] ∧
        (queryAfter today history).start = some "2024-03-01" ∧ panel.isExpanded "c1" = true := by
  have begins (panel : SpendPanel) : panel.beginLoad (some "sk") = some (panel.tickets.issue.1,
      "sk", panel.query, { panel with loading := true, tickets := panel.tickets.issue.2 }) := rfl
  have ends (panel : SpendPanel) (ticket : Nat) :
      panel.finishLoad ticket (.ok .empty) = ((panel.finishLoad ticket (.ok .empty)).1,
        (panel.finishLoad ticket (.ok .empty)).2) := rfl
  have opens : start? ⟨2024, 3, 15, by decide⟩ =
      some (ofRange ⟨2024, 2, 14, by decide⟩ ⟨2024, 3, 15, by decide⟩) := rfl
  have sent := (After.opened opens).began (begins _)
  have edited := (sent.rangeSet (some ⟨2024, 3, 1, by decide⟩) none).toggled "c1"
  have both := edited.began (begins _)
  have run := (both.ended (by decide) (ends _ 2)).ended (by decide) (ends _ 1)
  refine ⟨_, _, _, run, run.follows, rfl, rfl, rfl, ?_⟩
  exact (run.settings.expanded_iff "c1").2 (by decide)

end SpendPanel

end BillingConsole
