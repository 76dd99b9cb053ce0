import BillingConsole.Proofs.Screen.Spend
import BillingConsole.Proofs.Widget.Pager

/-!
# Where the pager stands

The pager goes to a page before the page is asked for, and the report on screen changes only when a
good answer is taken over.  So the pager may stand elsewhere than the report on screen: on a page
that could not be loaded, or beyond the last page of a report that has become shorter.  This file
says where it stands and which pages its buttons ask for.

## What is here

* `PanelHistory.Unasked` — the page or the page size was changed and not asked for since.
* `PanelHistory.mostPages` — the pages of the longest report that was taken over.
* `SpendScreen.After.pager_stands` — **where the pager stands** when nothing is loading: where the
  latest load asked, which was taken over or failed.
* `SpendScreen.Driven` — the screens that are reached with the controls of the pager;
  `SpendScreen.Driven.asksFor` says **which pages its buttons ask for**.
* `SpendScreen.After.not_pager_stands_failed`, `SpendScreen.Driven.not_inside_shrunk` — a page that
  could not be loaded, and a report that has become shorter.
-/

set_option autoImplicit false

namespace BillingConsole

theorem toNat_max_one (n : UInt32) : (max n 1).toNat = max 1 n.toNat := by
  have hone : (1 : UInt32).toNat = 1 := rfl
  change (if n ≤ 1 then 1 else n).toNat = max 1 n.toNat
  split
  · next h =>
    rw [UInt32.le_iff_toNat_le, hone] at h
    omega
  · next h =>
    rw [UInt32.le_iff_toNat_le, hone] at h
    omega

namespace PanelHistory

/-- The page or the page size was changed, and no load has begun since. -/
def Unasked : PanelHistory → Prop
  | [] => False
  | .filterApplied :: _ | .pageSet _ :: _ | .pageSizeSet _ :: _ => True
  | .load (.began ..) :: _ => False
  | .load (.ended ..) :: earlier | .rangeSet .. :: earlier | .toggled _ :: earlier =>
    Unasked earlier

/-- The number of pages of the longest report that was taken over, at least one. -/
def mostPages (history : PanelHistory) : Nat :=
  (history.loads.takenOver.map fun taken => taken.value.totalPages.toNat).foldr max 1

theorem one_le_mostPages (history : PanelHistory) : 1 ≤ history.mostPages := by
  rw [mostPages]
  induction history.loads.takenOver with
  | nil => exact Nat.le_refl 1
  | cons taken rest ih => exact Nat.le_trans ih (Nat.le_max_right _ _)

/-- An answer can only add a report. -/
theorem mostPages_le_ended (history : PanelHistory) (ticket : Nat)
    (result : Except ApiError SpendReport) (outcome : LoadOutcome) :
    history.mostPages ≤ mostPages (.load (.ended ticket result outcome) :: history) := by
  rw [mostPages, mostPages, loads, LoadHistory.takenOver]
  cases history.loads.taken? ticket result with
  | none => exact Nat.le_refl _
  | some taken => exact Nat.le_max_right _ _

/-- The report on screen has no more pages than the longest. -/
theorem totalPages_le_mostPages {history : PanelHistory} {panel : SpendPanel}
    (holds : SpendPanel.Holds history panel) : panel.totalPages.toNat ≤ history.mostPages := by
  have hone := history.one_le_mostPages
  rw [SpendPanel.totalPages, toNat_max_one]
  refine Nat.max_le.2 ⟨hone, ?_⟩
  rw [SpendPanel.Holds] at holds
  cases htaken : history.loads.takenOver with
  | nil =>
    rw [htaken] at holds
    rw [show panel.report = .empty from holds]
    exact Nat.zero_le _
  | cons taken rest =>
    rw [htaken] at holds
    rw [show panel.report = taken.value from holds, mostPages, htaken]
    exact Nat.le_max_left _ _

end PanelHistory

/-! ## The latest load -/

namespace SpendPanel.After

variable {today : Date} {history : PanelHistory} {panel : SpendPanel}

/-- Unless a change waits to be asked for, the page and the page size in force are those the latest
load asked for. -/
theorem latest_asked (after : After today history panel) (asks : ¬history.Unasked) {ticket : Nat}
    {asked : String × SpendQuery} (latest : history.loads.latest? = some (ticket, asked)) :
    asked.2.page = some panel.page ∧ asked.2.pageSize = some panel.pageSize := by
  induction after with
  | opened => cases latest
  | rangeSet _ _ _ ih | toggled _ _ ih | refused _ _ ih => exact ih asks latest
  | filterApplied | pageSet | pageSizeSet => exact absurd trivial asks
  | began after begins =>
    obtain ⟨-, -, rfl, rfl⟩ := beginLoad_eq_some_iff.1 begins
    cases latest
    have hpage := after.settings.page_eq
    refine ⟨?_, rfl⟩
    change some (max _ 1) = some _
    rw [hpage, max_one_eq (PanelHistory.one_le_page _)]
  | ended after _ finishes ih =>
    have hkept := ih asks latest
    rcases finishLoad_cases finishes with ⟨-, -, rfl⟩ | ⟨-, -, -, -, rfl⟩ | ⟨-, -, -, -, rfl⟩ <;>
      exact hkept

/-- When nothing is loading, the latest load was taken over or has failed. -/
theorem latest_ended (after : After today history panel) (idle : panel.loading = false)
    {ticket : Nat} {asked : String × SpendQuery}
    (latest : history.loads.latest? = some (ticket, asked)) :
    (∃ report, history.loads.takenOver.head? = some ⟨ticket, asked, report⟩) ∨
      ∃ error, .load (.ended ticket (.error error) (.failed error)) ∈ history := by
  induction after with
  | opened => cases latest
  | rangeSet _ _ _ ih | filterApplied _ ih | pageSet _ _ ih | pageSizeSet _ _ ih | toggled _ _ ih =>
    refine (ih idle latest).imp_right ?_
    rintro ⟨error, hfailed⟩
    exact ⟨error, List.mem_cons_of_mem _ hfailed⟩
  | refused _ _ ih => exact ih idle latest
  | began _ begins =>
    obtain ⟨-, -, -, rfl⟩ := beginLoad_eq_some_iff.1 begins
    cases idle
  | ended after hticket finishes ih =>
    rcases finishLoad_cases finishes with ⟨hlatest, rfl, rfl⟩ | ⟨hlatest, error, rfl, rfl, rfl⟩ |
      ⟨hlatest, report, rfl, rfl, rfl⟩
    · rw [PanelHistory.loads, LoadHistory.takenOver, after.agrees.taken?_stale hticket hlatest]
      refine (ih idle latest).imp_right ?_
      rintro ⟨error, hfailed⟩
      exact ⟨error, List.mem_cons_of_mem _ hfailed⟩
    · obtain ⟨_, hthis⟩ := after.agrees.latest?_eq hticket hlatest
      cases hthis.symm.trans latest
      exact .inr ⟨error, List.mem_cons_self⟩
    · obtain ⟨_, htaken⟩ := after.agrees.taken?_applied hticket hlatest report
      cases (LoadHistory.eq_some_of_taken? htaken).2.2.symm.trans latest
      exact .inl ⟨report, by rw [PanelHistory.loads, LoadHistory.takenOver, htaken]; rfl⟩

end SpendPanel.After

/-- There is a latest load where any has begun. -/
theorem LoadHistory.exists_latest {Asked Value : Type} {history : LoadHistory Asked Value}
    {ticket : Nat} {asked : Asked} (h : LoadEvent.began ticket asked ∈ history) :
    ∃ latest, history.latest? = some latest := by
  induction history with
  | nil => cases h
  | cons event earlier ih =>
    cases event with
    | began => exact ⟨_, rfl⟩
    | ended =>
      obtain _ | ⟨_, hmem⟩ := h
      exact ih hmem

namespace SpendScreen

namespace After

variable {today : Date} {history : PanelHistory} {screen : SpendScreen}

/-- **Where the pager stands** when nothing is loading and every change was asked for: on the page,
and with the page size, that the latest load asked for.  That load is the one whose report is on
screen, or it has failed. -/
theorem pager_stands {taken : TakenLoad (String × SpendQuery) SpendReport}
    (after : After today history screen) (idle : screen.panel.loading = false)
    (asks : ¬history.Unasked) (shown : history.loads.takenOver.head? = some taken) :
    screen.panel.report = taken.value ∧ ∃ ticket asked,
      history.loads.latest? = some (ticket, asked) ∧
      asked.2.page = some screen.pager.page ∧ asked.2.pageSize = some screen.pager.size ∧
      ((ticket = taken.ticket ∧ asked = taken.asked) ∨
        ∃ error, .load (.ended ticket (.error error) (.failed error)) ∈ history) := by
  have holds := after.panel.holds
  rw [SpendPanel.Holds, shown] at holds
  have hbegan := LoadHistory.began_mem_of_takenOver (List.mem_of_head? shown)
  obtain ⟨⟨ticket, asked⟩, latest⟩ := LoadHistory.exists_latest hbegan
  obtain ⟨hpage, hsize⟩ := after.panel.latest_asked asks latest
  refine ⟨holds, ticket, asked, latest, hpage, hsize, ?_⟩
  refine (after.panel.latest_ended idle latest).imp_left ?_
  rintro ⟨report, htaken⟩
  cases shown.symm.trans htaken
  exact ⟨rfl, rfl⟩

/-- The first page was loaded, the second was asked for, and that load failed. -/
theorem failed_run : ∃ (h : ValidDate 2024 3 15) (history : PanelHistory) (screen : SpendScreen)
    (shown : TakenLoad (String × SpendQuery) SpendReport),
    After ⟨2024, 3, 15, h⟩ history screen ∧ screen.panel.loading = false ∧ ¬history.Unasked ∧
      history.loads.takenOver.head? = some shown ∧ shown.asked.2.page = some 1 ∧
      screen.pager.page = 2 := by
  have opens : SpendPanel.start? ⟨2024, 3, 15, by decide⟩ =
      some (.ofRange ⟨2024, 2, 14, by decide⟩ ⟨2024, 3, 15, by decide⟩) := rfl
  have hread : (Reply.answered 200 "\x7b\"total_pages\":3\x7d").report.toOption.isSome := by
    decide +kernel
  obtain ⟨report, hfound⟩ := Option.isSome_iff_exists.1 hread
  have hreport := Reply.eq_ok_of_toOption hfound
  have sent := (After.opened opens).loaded (some "sk") 0
  have answered := sent.received (List.mem_singleton.2 rfl)
    (.answered 200 "\x7b\"total_pages\":3\x7d")
  rw [receive, hreport] at answered
  have turned := answered.updated ⟨true, true, true, .working, none, [], none, ⟨1710496800, 0⟩⟩
    (some "sk") 0 (.pager (.goTo 2))
  have run := turned.received List.mem_cons_self (.answered 500 "")
  exact ⟨by decide, _, _, ⟨1, ("sk", _), report⟩, run, rfl, id, rfl, rfl, rfl⟩

/-- The pager stands on the page that could not be loaded, and not on the one on screen. -/
theorem not_pager_stands_failed : ∃ (today : Date) (history : PanelHistory) (screen : SpendScreen)
    (shown : TakenLoad (String × SpendQuery) SpendReport),
    After today history screen ∧ screen.panel.loading = false ∧ ¬history.Unasked ∧
      history.loads.takenOver.head? = some shown ∧
      ¬(shown.asked.2.page = some screen.pager.page ∧
        shown.asked.2.pageSize = some screen.pager.size) := by
  obtain ⟨_, history, screen, shown, run, idle, asks, hshown, hfirst, hpage⟩ := failed_run
  refine ⟨_, history, screen, shown, run, idle, asks, hshown, fun hstands => ?_⟩
  have hsame := hstands.1
  rw [hfirst, hpage] at hsame
  exact absurd hsame (by decide)

/-- In that run the pager stands where the latest load asked, and that load is not the one whose
report is on screen. -/
theorem pager_stands_failed : ∃ (today : Date) (history : PanelHistory) (screen : SpendScreen)
    (shown : TakenLoad (String × SpendQuery) SpendReport),
    (After today history screen ∧ screen.panel.loading = false ∧ ¬history.Unasked ∧
      history.loads.takenOver.head? = some shown) ∧
    ∃ ticket asked, history.loads.latest? = some (ticket, asked) ∧ asked.2.page = some 2 ∧
      asked ≠ shown.asked := by
  obtain ⟨_, history, screen, shown, run, idle, asks, hshown, hfirst, hpage⟩ := failed_run
  obtain ⟨-, ticket, asked, latest, hasked, -, -⟩ := run.pager_stands idle asks hshown
  rw [hpage] at hasked
  refine ⟨_, history, screen, shown, ⟨run, idle, asks, hshown⟩, ticket, asked, latest, hasked, ?_⟩
  rintro rfl
  exact absurd (hasked.symm.trans hfirst) (by decide)

end After

/-! ## Driving the pager -/

section

variable {history : PanelHistory}

/-- Whatever is begun is a load. -/
theorem exists_began_of_mem_begun {effects : List Effect} {event : PanelEvent}
    (h : event ∈ begun effects) : ∃ ticket asked, event = .load (.began ticket asked) := by
  obtain ⟨effect, -, hbegun⟩ := List.mem_filterMap.1 (List.mem_reverse.1 h)
  rw [begunLoad?.eq_def] at hbegun
  split at hbegun
  · cases hbegun
    exact ⟨_, _, rfl⟩
  · cases hbegun

/-- Loads that begin change neither the page nor what was taken over. -/
theorem page_begun_append (effects : List Effect) :
    (begun effects ++ history).page = history.page ∧
      (begun effects ++ history).mostPages = history.mostPages := by
  have hbegan (event : PanelEvent) (h : event ∈ begun effects) := exists_began_of_mem_begun h
  generalize begun effects = since at hbegan ⊢
  induction since with
  | nil => exact ⟨rfl, rfl⟩
  | cons event rest ih =>
    obtain ⟨⟨ticket, asked, rfl⟩, hrest⟩ := List.forall_mem_cons.1 hbegan
    exact ih hrest

end

/-- The screens that a history leads to with the controls of the pager: whatever the pager is used
for comes from a control of it that can be used at that moment.  Everything else goes on as it
does. -/
inductive Driven (today : Date) : PanelHistory → SpendScreen → Prop
  | opened {panel : SpendPanel} (opens : SpendPanel.start? today = some panel) :
      Driven today [] (ofPanel panel)
  | loaded {history : PanelHistory} {screen : SpendScreen} (driven : Driven today history screen)
      (token : Option String) (page : Nat) :
      Driven today (begun (screen.load token page).2 ++ history) (screen.load token page).1
  | pressed {history : PanelHistory} {screen : SpendScreen} (driven : Driven today history screen)
      (browser : Browser) (token : Option String) (page : Nat) {action : Action}
      {event : PagerEvent} (uses : screen.pager.view.use action = (.done, some event)) :
      Driven today
        (begun (screen.update browser token page (.pager event)).2 ++
          ((screen.edit? browser.clock (.pager event)).toList ++ history))
        (screen.update browser token page (.pager event)).1
  | updated {history : PanelHistory} {screen : SpendScreen} (driven : Driven today history screen)
      (browser : Browser) (token : Option String) (page : Nat) {event : SpendEvent}
      (other : ∀ pagerEvent, event ≠ .pager pagerEvent) :
      Driven today
        (begun (screen.update browser token page event).2 ++
          ((screen.edit? browser.clock event).toList ++ history))
        (screen.update browser token page event).1
  | received {history : PanelHistory} {screen : SpendScreen} {ticket : Nat}
      (driven : Driven today history screen) (hticket : ticket ∈ history.loads.issued)
      (reply : Reply) :
      Driven today (.load (.ended ticket reply.report
        (screen.panel.finishLoad ticket reply.report).1) :: history) (screen.receive ticket reply).1
  | dialogChanged {history : PanelHistory} {screen : SpendScreen}
      (driven : Driven today history screen) (dialog : DetailDialog) :
      Driven today history { screen with dialog }

/-- What a button of the pager asks for. -/
structure AsksFor (history : PanelHistory) (screen : SpendScreen) (page : UInt32) : Prop where
  /-- Pages are counted from one. -/
  one_le : 1 ≤ page.toNat
  /-- The page was computed from the pager without a wrap. -/
  leads : screen.pager.Leads page.toNat
  /-- The page is one of the report on screen.  Only where the pager stands beyond its end, so far
  that the page before does too, the button to the page before goes there. -/
  inside : page.toNat ≤ max 1 screen.panel.report.totalPages.toNat ∨
    (max 1 screen.panel.report.totalPages.toNat < page.toNat ∧
      page.toNat + 1 = screen.pager.page.toNat)
  /-- In any case some report that was taken over had the page. -/
  le_most : page.toNat ≤ history.mostPages
  /-- It is the page that the gateway is asked for, with any token. -/
  sends : ∀ (browser : Browser) (token : String) (place : Nat), ∃ ticket query,
    (screen.update browser (some token) place (.pager (.goTo page))).2 =
      [.send (.report token query) (.report place ticket)] ∧ query.page = some page

namespace Driven

variable {today : Date} {history : PanelHistory} {screen : SpendScreen}

/-- Such a screen is one after the same history. -/
theorem after (driven : Driven today history screen) : After today history screen := by
  induction driven with
  | opened opens => exact .opened opens
  | loaded _ token page ih => exact ih.loaded token page
  | pressed _ browser token page _ ih => exact ih.updated browser token page _
  | updated _ browser token page _ ih => exact ih.updated browser token page _
  | received _ hticket reply ih => exact ih.received hticket reply
  | dialogChanged _ dialog ih => exact ih.dialogChanged dialog

/-- The pages a button leads to are within the longest report, if the pager is. -/
theorem le_mostPages_of_leads (after : After today history screen)
    (hpage : screen.pager.page.toNat ≤ history.mostPages) {page : Nat}
    (leads : screen.pager.Leads page) : page ≤ history.mostPages := by
  have htotal : screen.pager.pages.toNat ≤ history.mostPages :=
    PanelHistory.totalPages_le_mostPages after.panel.holds
  have hone := history.one_le_mostPages
  rcases leads with ⟨hlt, heq | heq⟩ | ⟨hlt, heq | heq⟩ <;> omega

/-- The pager stands within the longest report that was taken over. -/
theorem page_le_mostPages (driven : Driven today history screen) :
    screen.pager.page.toNat ≤ history.mostPages := by
  have hfollows {history : PanelHistory} {screen : SpendScreen}
      (driven : Driven today history screen) : screen.pager.page = history.page :=
    driven.after.panel.settings.page_eq
  rw [hfollows driven]
  induction driven with
  | opened => exact Nat.le_refl 1
  | loaded _ token page ih =>
    rw [(page_begun_append _).1, (page_begun_append _).2]
    exact ih
  | @pressed history screen driven browser token page action event uses ih =>
    have hone := history.one_le_mostPages
    rw [(page_begun_append _).1, (page_begun_append _).2]
    cases event with
    | goTo target =>
      -- the longest report is the bound that lasts: the one on screen may become shorter
      have hle := le_mostPages_of_leads driven.after (hfollows driven ▸ ih)
        (Pager.leads_of_use uses)
      change (max target 1).toNat ≤ history.mostPages
      rw [toNat_max_one]
      exact Nat.max_le.2 ⟨hone, hle⟩
    | chooseSize text =>
      simp only [edit?, PagerEvent.ask?]
      cases readSize? text with
      | none => exact ih
      | some size => exact hone
  | @updated history screen _ browser token page event other ih =>
    rw [(page_begun_append _).1, (page_begun_append _).2]
    cases event with
    | dates event =>
      rw [edit?]
      cases event.answer (screen.panel.first, screen.panel.last) browser.clock <;> exact ih
    | applyFilter => exact history.one_le_mostPages
    | pager event => exact absurd rfl (other event)
    | toggle | exportReport | openDetail | closeDetail => exact ih
  | received _ _ _ ih => exact Nat.le_trans ih (PanelHistory.mostPages_le_ended _ _ _ _)
  | dialogChanged _ _ ih => exact ih

/-- **Which pages the buttons ask for.**  Every page is asked for as it was computed, without a
wrap, and is a page of the report on screen, but for the button to the page before where the pager
stands beyond the end of that report. -/
theorem asksFor (driven : Driven today history screen) {action : Action} {result : ActionResult}
    {page : UInt32} (uses : screen.pager.view.use action = (result, some (.goTo page))) :
    AsksFor history screen page := by
  have leads := Pager.leads_of_use uses
  have hpages : screen.pager.pages.toNat = max 1 screen.panel.report.totalPages.toNat :=
    toNat_max_one _
  have hone : 1 ≤ page.toNat := by
    rcases leads with ⟨hlt, heq | heq⟩ | ⟨hlt, heq | heq⟩ <;> omega
  refine ⟨hone, leads, ?_, le_mostPages_of_leads driven.after driven.page_le_mostPages leads, ?_⟩
  · rcases leads with ⟨hlt, heq | heq⟩ | ⟨hlt, heq | heq⟩ <;> omega
  · intro browser token place
    have hkept : max page 1 = page := max_one_eq (UInt32.le_iff_toNat_le.2 hone)
    refine ⟨_, _, rfl, ?_⟩
    change some (max (max page 1) 1) = some page
    rw [hkept, hkept]

/-- The last of seven pages was asked for, and the answer says that three are left: the button to
the page before goes to the sixth. -/
theorem shrunk_run : ∃ (today : Date) (history : PanelHistory) (screen : SpendScreen),
    Driven today history screen ∧
      screen.pager.view.use (.click "Previous page" 0) = (.done, some (.goTo 6)) ∧
      screen.panel.report.totalPages = 3 := by
  have opens : SpendPanel.start? ⟨2024, 3, 15, by decide⟩ =
      some (.ofRange ⟨2024, 2, 14, by decide⟩ ⟨2024, 3, 15, by decide⟩) := rfl
  have hseven : (Reply.answered 200 "\x7b\"total_pages\":7\x7d").report.toOption.map
      (·.totalPages) = some 7 := by decide +kernel
  have hthree : (Reply.answered 200 "\x7b\"total_pages\":3\x7d").report.toOption.map
      (·.totalPages) = some 3 := by decide +kernel
  obtain ⟨long, hlong, hpages⟩ := Option.map_eq_some_iff.1 hseven
  obtain ⟨short, hshort, hleft⟩ := Option.map_eq_some_iff.1 hthree
  obtain ⟨browser⟩ : Nonempty Browser :=
    ⟨⟨true, true, true, .working, none, [], none, ⟨1710496800, 0⟩⟩⟩
  have sent := (Driven.opened opens).loaded (some "sk") 0
  have answered := sent.received (List.mem_singleton.2 rfl)
    (.answered 200 "\x7b\"total_pages\":7\x7d")
  rw [receive, Reply.eq_ok_of_toOption hlong] at answered
  have last := answered.pressed browser (some "sk") 0 (Pager.use_last rfl (by
    change 1 < max long.totalPages 1
    rw [hpages]
    decide))
  have shrunk := last.received List.mem_cons_self (.answered 200 "\x7b\"total_pages\":3\x7d")
  rw [receive, Reply.eq_ok_of_toOption hshort] at shrunk
  have hpage : max (max long.totalPages 1) 1 = 7 := by rw [hpages]; rfl
  refine ⟨_, _, _, shrunk, ?_, hleft⟩
  rw [Pager.use_previous rfl (by change 1 < max (max long.totalPages 1) 1; rw [hpage]; decide)]
  change (ActionResult.done, some (PagerEvent.goTo (max (max long.totalPages 1) 1 - 1))) = _
  rw [hpage]
  rfl

/-- A button that can be used asks for a page that the report on screen does not have. -/
theorem not_inside_shrunk : ∃ (today : Date) (history : PanelHistory) (screen : SpendScreen)
    (action : Action) (page : UInt32), Driven today history screen ∧
      screen.pager.view.use action = (.done, some (.goTo page)) ∧
      ¬page.toNat ≤ max 1 screen.panel.report.totalPages.toNat := by
  obtain ⟨today, history, screen, run, uses, hleft⟩ := shrunk_run
  refine ⟨today, history, screen, _, _, run, uses, ?_⟩
  rw [hleft]
  decide

/-- In that run the button goes to the page before the one the pager stands on. -/
theorem asksFor_shrunk : ∃ (today : Date) (history : PanelHistory) (screen : SpendScreen)
    (action : Action), (Driven today history screen ∧
      screen.pager.view.use action = (.done, some (.goTo 6))) ∧
      AsksFor history screen 6 ∧ screen.pager.page.toNat = 7 := by
  obtain ⟨today, history, screen, run, uses, hleft⟩ := shrunk_run
  have hasks := run.asksFor uses
  refine ⟨today, history, screen, _, ⟨run, uses⟩, hasks, ?_⟩
  rcases hasks.inside with hle | ⟨-, hbefore⟩
  · rw [hleft] at hle
    exact absurd hle (by decide)
  · exact hbefore.symm

end Driven

end SpendScreen

end BillingConsole
