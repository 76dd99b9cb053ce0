import BillingConsole.Proofs.Calendar.DateText
import BillingConsole.Proofs.Gateway.Reply
import BillingConsole.Proofs.Load.SpendPanel
import BillingConsole.Screen.Spend

/-!
# Which pages of a report belong together

The report is paged, and a page is asked for with the dates that are in the fields at that moment.
This file follows the report as its screen drives it, and says when the page that is asked for is
one of the report on screen.

## What is here

* `SpendScreen.edit?`, `SpendScreen.begun` — what an event changes, and the loads it begins.
* `SpendScreen.After` — the screens that a history leads to; `SpendScreen.After.panel` says that the
  panels on them are panels after that history.
* `SpendQuery.SameFilter` — two queries ask for pages of one report.
* `SpendScreen.After.sameFilter_of_unset` — without a change of dates or page size since a report
  was asked for, every page is one of that report.
* `SpendScreen.After.sameFilter_shown_iff` — **the exact condition**: the dates and the page size in
  force are those the report on screen was asked for with.
* `SpendScreen.After.not_sameFilter_typed` — dates that were typed but never applied reach the next
  page.
-/

set_option autoImplicit false

namespace BillingConsole

/-- Two queries ask for pages, of the same size, of the report on the same dates. -/
def SpendQuery.SameFilter (q r : SpendQuery) : Prop :=
  q.start = r.start ∧ q.stop = r.stop ∧ q.pageSize = r.pageSize

namespace SpendScreen

/-! ## What the screen does to the panel -/

/-- What an event changes of the report, before anything is asked for. -/
def edit? (screen : SpendScreen) (clock : Clock) : SpendEvent → Option PanelEvent
  | .dates event =>
    match event.answer (screen.panel.first, screen.panel.last) clock with
    | .range (first, last) => some (.rangeSet first last)
    | .nothing | .outOfCalendar => none
  | .applyFilter => some .filterApplied
  | .pager event =>
    match event.ask? with
    | some (.page page) => some (.pageSet page)
    | some (.size size) => some (.pageSizeSet size)
    | none => none
  | .toggle id => some (.toggled id)
  | .exportReport | .openDetail _ | .closeDetail => none

/-- The load that is begun where a report is asked for. -/
def begunLoad? : Effect → Option PanelEvent
  | .send (.report token query) (.report _ ticket) => some (.load (.began ticket (token, query)))
  | _ => none

/-- The loads that are begun by what is to be done, the latest first. -/
def begun (effects : List Effect) : PanelHistory := (effects.filterMap begunLoad?).reverse

section

variable {today : Date} {history : PanelHistory} {screen : SpendScreen}

theorem load_after (after : SpendPanel.After today history screen.panel) (token : Option String)
    (page : Nat) :
    SpendPanel.After today (begun (screen.load token page).2 ++ history)
      (screen.load token page).1.panel := by
  rw [load]
  cases hbegins : screen.panel.beginLoad token with
  | none => exact after
  | some load => exact after.began hbegins

theorem begun_openFor (dialog : DetailDialog) (id : String) (token : Option String) (page : Nat) :
    begun (dialog.openFor id token page).2 = [] := by
  cases token <;> rfl

theorem update_after (after : SpendPanel.After today history screen.panel) (browser : Browser)
    (token : Option String) (page : Nat) (event : SpendEvent) :
    SpendPanel.After today
      (begun (screen.update browser token page event).2 ++
        ((screen.edit? browser.clock event).toList ++ history))
      (screen.update browser token page event).1.panel := by
  cases event with
  | dates event =>
    rw [update, edit?]
    cases event.answer (screen.panel.first, screen.panel.last) browser.clock with
    | range asked => exact after.rangeSet asked.1 asked.2
    | nothing | outOfCalendar => exact after
  | applyFilter => exact load_after after.filterApplied token page
  | exportReport =>
    simp only [update, edit?]
    cases (browser.exportTable csvOfSpend screen.panel.report.records
      "customer_spend.csv").error <;> exact after
  | pager event =>
    simp only [update, edit?]
    cases event.ask? with
    | none => cases event <;> exact after
    | some ask =>
      cases ask with
      | page n => exact load_after (after.pageSet n) token page
      | size n => exact load_after (after.pageSizeSet n) token page
  | toggle id => exact after.toggled id
  | openDetail id =>
    simp only [update, edit?, begun_openFor]
    exact after
  | closeDetail => exact after

theorem receive_after (after : SpendPanel.After today history screen.panel) {ticket : Nat}
    (hticket : ticket ∈ history.loads.issued) (reply : Reply) :
    SpendPanel.After today (.load (.ended ticket reply.report
        (screen.panel.finishLoad ticket reply.report).1) :: history)
      (screen.receive ticket reply).1.panel :=
  after.ended hticket rfl

end

/-! ## Screens after a history -/

/-- The screens that a history leads to from the day a report was opened on.  The report is asked
for when its page says so, events do what they do, and tickets that were handed out are answered in
any order, with anything.  The dialog over the report goes its own way. -/
inductive After (today : Date) : PanelHistory → SpendScreen → Prop
  | opened {panel : SpendPanel} (opens : SpendPanel.start? today = some panel) :
      After today [] (ofPanel panel)
  | loaded {history : PanelHistory} {screen : SpendScreen} (after : After today history screen)
      (token : Option String) (page : Nat) :
      After today (begun (screen.load token page).2 ++ history) (screen.load token page).1
  | updated {history : PanelHistory} {screen : SpendScreen} (after : After today history screen)
      (browser : Browser) (token : Option String) (page : Nat) (event : SpendEvent) :
      After today
        (begun (screen.update browser token page event).2 ++
          ((screen.edit? browser.clock event).toList ++ history))
        (screen.update browser token page event).1
  | received {history : PanelHistory} {screen : SpendScreen} {ticket : Nat}
      (after : After today history screen) (hticket : ticket ∈ history.loads.issued)
      (reply : Reply) :
      After today (.load (.ended ticket reply.report
        (screen.panel.finishLoad ticket reply.report).1) :: history) (screen.receive ticket reply).1
  | dialogChanged {history : PanelHistory} {screen : SpendScreen}
      (after : After today history screen) (dialog : DetailDialog) :
      After today history { screen with dialog }

namespace After

variable {today : Date} {history : PanelHistory} {screen : SpendScreen}

/-- The panel on such a screen is one after the same history. -/
theorem panel (after : After today history screen) :
    SpendPanel.After today history screen.panel := by
  induction after with
  | opened opens => exact .opened opens
  | loaded _ token page ih => exact load_after ih token page
  | updated _ browser token page event ih => exact update_after ih browser token page event
  | received _ hticket reply ih => exact receive_after ih hticket reply
  | dialogChanged _ _ ih => exact ih

end After

/-! ## Pages of one report -/

/-- The queries of two moments ask for pages of one report exactly when the dates and the page size
are the same. -/
theorem sameFilter_queryAfter_iff {today : Date} {history before : PanelHistory} :
    (SpendPanel.queryAfter today history).SameFilter (SpendPanel.queryAfter today before) ↔
      history.range today = before.range today ∧ history.pageSize = before.pageSize := by
  have hdate : Function.Injective (Option.map Date.text) :=
    Option.map_injective Date.text_injective
  rw [SpendQuery.SameFilter, SpendPanel.queryAfter, SpendPanel.queryAfter, hdate.eq_iff,
    hdate.eq_iff, Option.some_inj, ← and_assoc, ← Prod.ext_iff]

/-- The report on screen was asked for by a load of the history. -/
theorem exists_began {history : PanelHistory}
    {taken : TakenLoad (String × SpendQuery) SpendReport}
    (shown : history.loads.takenOver.head? = some taken) :
    ∃ since before, history = since ++ .load (.began taken.ticket taken.asked) :: before :=
  List.append_of_mem (PanelHistory.mem_of_mem_loads
    (LoadHistory.began_mem_of_takenOver (List.mem_of_head? shown)))

namespace After

variable {today : Date} {history since before : PanelHistory} {screen : SpendScreen}
  {ticket earlier : Nat} {asked askedBefore : String × SpendQuery}

/-- A load asks for a page of the same report as an earlier one exactly when the dates and the page
size in force are still, or again, those of that moment. -/
theorem sameFilter_began_iff
    (after : After today (.load (.began ticket asked) :: history) screen)
    (hhistory : history = since ++ .load (.began earlier askedBefore) :: before) :
    asked.2.SameFilter askedBefore.2 ↔
      history.range today = before.range today ∧ history.pageSize = before.pageSize := by
  have hlast : SpendPanel.After today ([] ++ .load (.began ticket asked) :: history) screen.panel :=
    after.panel
  have hearlier : SpendPanel.After today ((.load (.began ticket asked) :: since) ++
      .load (.began earlier askedBefore) :: before) screen.panel := by
    rw [List.cons_append, ← hhistory]
    exact after.panel
  rw [hlast.asked_eq, hearlier.asked_eq, sameFilter_queryAfter_iff]

/-- **Pages of one report.**  While neither dates nor a page size are set after the report on screen
was asked for, every page that is asked for is one of that report. -/
theorem sameFilter_of_unset
    (after : After today (.load (.began ticket asked) :: history) screen)
    (hhistory : history = since ++ .load (.began earlier askedBefore) :: before)
    (dates : ∀ first last, .rangeSet first last ∉ since)
    (sizes : ∀ size, .pageSizeSet size ∉ since) : asked.2.SameFilter askedBefore.2 := by
  rw [after.sameFilter_began_iff hhistory, hhistory, PanelHistory.range_append_of_unset dates,
    PanelHistory.pageSize_append_of_unset sizes]
  exact ⟨rfl, rfl⟩

/-- **The exact condition.**  The page that is asked for is one of the report on screen exactly when
the dates and the page size in force are those that report was asked for with; whether they were
applied does not matter. -/
theorem sameFilter_shown_iff {taken : TakenLoad (String × SpendQuery) SpendReport}
    (after : After today (.load (.began ticket asked) :: history) screen)
    (shown : history.loads.takenOver.head? = some taken) :
    screen.panel.report = taken.value ∧
      (∃ since before, history = since ++ .load (.began taken.ticket taken.asked) :: before) ∧
      ∀ since before : PanelHistory,
        history = since ++ .load (.began taken.ticket taken.asked) :: before →
        (asked.2.SameFilter taken.asked.2 ↔
          history.range today = before.range today ∧ history.pageSize = before.pageSize) := by
  have holds := after.panel.holds
  rw [SpendPanel.Holds, PanelHistory.loads, LoadHistory.takenOver, shown] at holds
  exact ⟨holds, exists_began shown, fun _ _ => after.sameFilter_began_iff⟩

/-- From the fifteenth of March on the last thirty days are shown, the first of January is typed as
the first date, and the next page is asked for without applying it. -/
theorem typed_run : ∃ (h : ValidDate 2024 3 15) (history : PanelHistory) (screen : SpendScreen)
    (shown : TakenLoad (String × SpendQuery) SpendReport) (asked : SpendQuery),
    After ⟨2024, 3, 15, h⟩ (.load (.began 2 ("sk", asked)) :: history) screen ∧
      history.loads.takenOver.head? = some shown ∧ .filterApplied ∉ history ∧
      shown.asked.2 = ⟨some "2024-02-14", some "2024-03-15", some 1, some 50⟩ ∧
      asked = ⟨some "2024-01-01", some "2024-03-15", some 2, some 50⟩ := by
  have opens : SpendPanel.start? ⟨2024, 3, 15, by decide⟩ =
      some (.ofRange ⟨2024, 2, 14, by decide⟩ ⟨2024, 3, 15, by decide⟩) := rfl
  have hread : (Reply.answered 200 "\x7b\"total_pages\":3\x7d").report.toOption.isSome := by
    decide +kernel
  obtain ⟨report, hfound⟩ := Option.isSome_iff_exists.1 hread
  have hreport := Reply.eq_ok_of_toOption hfound
  have sent := (After.opened opens).loaded (some "sk") 0
  have answered := sent.received (List.mem_singleton.2 rfl)
    (.answered 200 "\x7b\"total_pages\":3\x7d")
  rw [receive, hreport] at answered
  have typed := answered.updated ⟨true, true, true, .working, none, [], none, ⟨1710496800, 0⟩⟩
    (some "sk") 0 (.dates (.typeFirst "2024-01-01"))
  have run := typed.updated ⟨true, true, true, .working, none, [], none, ⟨1710496800, 0⟩⟩
    (some "sk") 0 (.pager (.goTo 2))
  refine ⟨by decide, _, _, ⟨1, ("sk", _), report⟩, _, run, rfl, ?_, rfl, rfl⟩
  -- the page and the dates were set, and one load began and ended
  rintro (_ | ⟨_, _ | ⟨_, _ | ⟨_, _ | ⟨_, happlied⟩⟩⟩⟩)
  cases happlied

/-- Dates that were typed but never applied are asked for with the next page. -/
theorem not_sameFilter_typed : ∃ (today : Date) (history : PanelHistory) (screen : SpendScreen)
    (shown : TakenLoad (String × SpendQuery) SpendReport) (asked : String × SpendQuery),
    After today (.load (.began 2 asked) :: history) screen ∧
      history.loads.takenOver.head? = some shown ∧ .filterApplied ∉ history ∧
      asked.2.page = some 2 ∧ ¬asked.2.SameFilter shown.asked.2 := by
  obtain ⟨_, history, screen, shown, asked, run, hshown, happlied, hfirst, rfl⟩ := typed_run
  refine ⟨_, history, screen, shown, _, run, hshown, happlied, rfl, fun hsame => ?_⟩
  have hstart := hsame.1
  rw [hfirst] at hstart
  exact absurd hstart (by decide)

/-- In that run the dates in force are not those the report on screen was asked for with. -/
theorem sameFilter_shown_iff_typed : ∃ (today : Date) (history since before : PanelHistory)
    (screen : SpendScreen) (shown : TakenLoad (String × SpendQuery) SpendReport)
    (asked : String × SpendQuery),
    After today (.load (.began 2 asked) :: history) screen ∧
      history.loads.takenOver.head? = some shown ∧
      history = since ++ .load (.began shown.ticket shown.asked) :: before ∧
      ¬(history.range today = before.range today ∧ history.pageSize = before.pageSize) := by
  obtain ⟨h, history, screen, shown, asked, run, hshown, -, hfirst, rfl⟩ := typed_run
  obtain ⟨-, ⟨since, before, hhistory⟩, hiff⟩ := run.sameFilter_shown_iff hshown
  refine ⟨⟨2024, 3, 15, h⟩, history, since, before, screen, shown, _, run, hshown, hhistory,
    fun hsame => ?_⟩
  have hstart := ((hiff since before hhistory).2 hsame).1
  rw [hfirst] at hstart
  exact absurd hstart (by decide)

end After

end SpendScreen

end BillingConsole
