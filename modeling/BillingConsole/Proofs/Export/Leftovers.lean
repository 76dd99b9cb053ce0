import BillingConsole.Export.Csv
import BillingConsole.Export.Download
import Mathlib.Data.List.TakeWhile

/-!
# What saving a file leaves behind

Saving a file takes two things that have to be given back: a URL of the file, and a link in the
document.  Both are given back by the last two steps, so a step that is refused in between leaves
what was taken by then, and the steps behind the click are refused after the download was started.

## What is here

* `Leftovers`, `DownloadRun.leftovers` — links and URLs that were taken and not given back.
* `downloadBy` — the steps taken by any answers of the browser; `downloadBy_of_refused` — only the
  first refusal counts; `exists_browser_download` — every run is that of some browser.
* `DownloadRun.Accounted` — what came of a run, by the step that was refused.
* `error_exportTable_eq_nothingToExport_iff`, `error_exportTable_eq_none_iff` — which exports are
  refused at once, and which succeed.
* `DownloadRun.AllOrNothing`, `exportTable_allOrNothing_iff` — **an export leaves nothing unless it
  is stopped while the URL is there.**
-/

set_option autoImplicit false

namespace BillingConsole

/-! ## Leftovers -/

/-- Links in the document and URLs of files. -/
structure Leftovers where
  links : ℕ
  urls : ℕ
deriving DecidableEq

namespace Leftovers

/-- Neither links nor URLs. -/
def nothing : Leftovers := ⟨0, 0⟩

/-- What is there after one more step. -/
def after (left : Leftovers) : DownloadStep → Leftovers
  | .call .makeUrl => { left with urls := left.urls + 1 }
  | .call .append => { left with links := left.links + 1 }
  | .call .remove => { left with links := left.links - 1 }
  | .call .revokeUrl => { left with urls := left.urls - 1 }
  | _ => left

end Leftovers

namespace DownloadRun

/-- What was taken and not given back. -/
def leftovers (run : DownloadRun) : Leftovers := run.steps.foldl .after .nothing

/-- A run either saves the file or reports why not and saves nothing; it leaves neither a link nor a
URL behind. -/
structure AllOrNothing (run : DownloadRun) (file : Download) : Prop where
  failed : run.error ≠ none → run.downloads = []
  saved : run.error = none → run.downloads = [file]
  tidy : run.leftovers = .nothing

end DownloadRun

/-! ## Every way to fail -/

/-- The steps that are taken if the browser answers each by itself. -/
def downloadBy (allows : DownloadStep → Bool) (file : Download) : DownloadRun :=
  let taken := downloadSteps.takeWhile allows
  { steps := taken
    downloads := if .call .click ∈ taken then [file] else []
    error := (downloadSteps.find? fun step => !allows step).map .stoppedAt }

theorem Browser.download_eq (browser : Browser) (fileName content : String) :
    browser.download fileName content =
      downloadBy browser.allows ⟨fileName, csvContentType, content⟩ := rfl

/-- The steps before a step. -/
def stepsBefore (step : DownloadStep) : List DownloadStep :=
  downloadSteps.takeWhile fun other => other != step

section

variable {allows : DownloadStep → Bool} {step : DownloadStep} {file : Download}

/-- The first refusal decides, whatever would be refused behind it. -/
theorem downloadBy_of_refused (h : downloadSteps.find? (fun step => !allows step) = some step) :
    downloadBy allows file =
      ⟨stepsBefore step, if .call .click ∈ stepsBefore step then [file] else [],
        some (.stoppedAt step)⟩ := by
  obtain ⟨hstep, before, after, hsteps, hbefore⟩ := List.find?_eq_some_iff_append.1 h
  have hrefused : allows step = false := by simpa using hstep
  have hallowed : ∀ other ∈ before, allows other = true := by simpa using hbefore
  have hother : ∀ other ∈ before, (other != step) = true := by
    intro other hmem
    rw [bne_iff_ne]
    rintro rfl
    exact absurd (hallowed other hmem) (by simp [hrefused])
  have htaken : downloadSteps.takeWhile allows = before := by
    rw [hsteps, List.takeWhile_append_of_pos hallowed,
      List.takeWhile_cons_of_neg (by simp [hrefused]), List.append_nil]
  have hsame : stepsBefore step = before := by
    rw [stepsBefore, hsteps, List.takeWhile_append_of_pos hother,
      List.takeWhile_cons_of_neg (by simp), List.append_nil]
  rw [downloadBy, htaken, h, hsame]
  rfl

/-- If nothing is refused, all steps are taken. -/
theorem downloadBy_of_allowed (h : downloadSteps.find? (fun step => !allows step) = none) :
    downloadBy allows file = ⟨downloadSteps, [file], none⟩ := by
  have htaken : downloadSteps.takeWhile allows = downloadSteps := by
    rw [List.takeWhile_eq_self_iff]
    simpa using h
  rw [downloadBy, htaken, h]
  rfl

end

/-- A browser that refuses one step. -/
def Browser.refusing : DownloadStep → Browser
  | .call c => { origin := none, clock := default, refused := some c }
  | .need .window => { origin := none, clock := default, hasWindow := false }
  | .need .document => { origin := none, clock := default, hasDocument := false }
  | .need .body => { origin := none, clock := default, hasBody := false }

theorem Browser.allows_refusing {step : DownloadStep} (h : step ≠ .call .click) :
    (Browser.refusing step).allows = fun other => other != step := by
  funext other
  rw [Bool.eq_iff_iff, bne_iff_ne]
  rcases step with c | part
  · rcases other with c' | part'
    · by_cases hsame : c' = c
      · subst hsame
        simpa [refusing, allows] using h
      · simp [refusing, allows, hsame, Ne.symm hsame]
    · cases part' <;> simp [refusing, allows, has]
  · rcases other with c' | part'
    · cases part <;> simp [refusing, allows]
    · cases part <;> cases part' <;> simp [refusing, allows, has]

/-- **Every run is that of some browser:** however calls are refused, as long as a click is not, a
browser without one part, or one that refuses one call, does the same. -/
theorem exists_browser_download (refused : DownloadStep → Bool) :
    ∃ browser : Browser, ∀ fileName content, browser.download fileName content =
      downloadBy (fun step => step == .call .click || !refused step)
        ⟨fileName, csvContentType, content⟩ := by
  simp only [Browser.download_eq]
  rcases hfirst : downloadSteps.find? fun step => !(step == .call .click || !refused step) with
    _ | step
  · refine ⟨{ origin := none, clock := default }, fun fileName content => ?_⟩
    rw [downloadBy_of_allowed hfirst]
    exact downloadBy_of_allowed (by decide)
  · have hne : step ≠ .call .click := by
      rintro rfl
      exact absurd (List.find?_some hfirst) (by simp)
    have hfound : ∀ step ∈ downloadSteps,
        downloadSteps.find? (fun other => !(other != step)) = some step := by decide
    refine ⟨.refusing step, fun fileName content => ?_⟩
    rw [downloadBy_of_refused hfirst, Browser.allows_refusing hne]
    exact downloadBy_of_refused (hfound step (List.mem_of_find?_eq_some hfirst))

/-! ## What is left -/

/-- The steps behind the click, which starts the download. -/
def stepsAfterClick : List DownloadStep := [.call .remove, .call .revokeUrl]

/-- The steps that come while there is a URL. -/
def stepsWithUrl : List DownloadStep :=
  [.call .makeElement, .call .castElement, .call .setStyle, .call .append, .call .click,
    .call .remove, .call .revokeUrl]

/-- What was done before a step. -/
theorem account_stepsBefore : ∀ step ∈ downloadSteps,
    (.call .click ∈ stepsBefore step ↔ step ∈ stepsAfterClick) ∧
    (stepsBefore step).foldl Leftovers.after .nothing =
      ⟨if step ∈ [.call .click, .call .remove] then 1 else 0,
        if step ∈ stepsWithUrl then 1 else 0⟩ := by
  decide

namespace DownloadRun

/-- What came of a run, by the step that was refused: the file is saved if the click was before it,
the link stays if it is the step that removes the link, and the URL stays if it was made before. -/
structure Accounted (run : DownloadRun) (file : Download) : Prop where
  finished : run.error = none → run.downloads = [file] ∧ run.leftovers = .nothing
  empty : run.error = some .nothingToExport → run.downloads = [] ∧ run.leftovers = .nothing
  stopped : ∀ step, run.error = some (.stoppedAt step) → step ∈ downloadSteps ∧
    run.downloads = (if step ∈ stepsAfterClick then [file] else []) ∧
    run.leftovers =
      ⟨if step = .call .remove then 1 else 0, if step ∈ stepsWithUrl then 1 else 0⟩

theorem accounted_downloadBy {allows : DownloadStep → Bool} (hclick : allows (.call .click) = true)
    (file : Download) : (downloadBy allows file).Accounted file := by
  rcases hfirst : downloadSteps.find? fun step => !allows step with _ | step
  · rw [downloadBy_of_allowed hfirst]
    exact ⟨fun _ => ⟨rfl, rfl⟩, nofun, nofun⟩
  · have hstep := List.mem_of_find?_eq_some hfirst
    have hne : step ≠ .call .click := by
      rintro rfl
      exact absurd (List.find?_some hfirst) (by simp [hclick])
    obtain ⟨hstarted, hleft⟩ := account_stepsBefore step hstep
    rw [downloadBy_of_refused hfirst]
    refine ⟨nofun, nofun, ?_⟩
    rintro other ⟨⟩
    refine ⟨hstep, by simp only [hstarted], hleft.trans ?_⟩
    simp [hne]

/-- A run with this account is all or nothing unless it is stopped while the URL is there. -/
theorem Accounted.allOrNothing_iff {run : DownloadRun} {file : Download} (h : run.Accounted file) :
    run.AllOrNothing file ↔ ∀ step ∈ stepsWithUrl, run.error ≠ some (.stoppedAt step) := by
  constructor
  · intro hall step hstep herror
    have hleft := (h.stopped step herror).2.2
    rw [hall.tidy, if_pos hstep] at hleft
    exact absurd (congrArg Leftovers.urls hleft) Nat.zero_ne_one
  · intro herror
    -- before the URL is made neither the click nor the removal of the link has come
    have hearly : ∀ step, run.error = some (.stoppedAt step) →
        run.downloads = [] ∧ run.leftovers = .nothing := by
      intro step hstep
      have hout : step ∉ stepsWithUrl := fun hin => herror step hin hstep
      have hunstarted : step ∉ stepsAfterClick := fun hin =>
        hout ((by decide : stepsAfterClick ⊆ stepsWithUrl) hin)
      have hremove : step ≠ .call .remove := fun heq => hout (heq ▸ by decide)
      have haccount := (h.stopped step hstep).2
      rwa [if_neg hunstarted, if_neg hremove, if_neg hout] at haccount
    have hfailed : run.error ≠ none → run.downloads = [] ∧ run.leftovers = .nothing := by
      intro hsome
      rcases hcase : run.error with _ | _ | step
      · exact absurd hcase hsome
      · exact h.empty hcase
      · exact hearly step hcase
    refine ⟨fun hsome => (hfailed hsome).1, fun hnone => (h.finished hnone).1, ?_⟩
    by_cases hnone : run.error = none
    · exact (h.finished hnone).2
    · exact (hfailed hnone).2

end DownloadRun

section

variable {α : Type} (browser : Browser) (toText : List α → String) (items : List α)
  (fileName : String)

theorem accounted_exportTable :
    (browser.exportTable toText items fileName).Accounted
      ⟨fileName, csvContentType, toText items⟩ := by
  rw [Browser.exportTable]
  split
  · exact ⟨nofun, fun _ => ⟨rfl, rfl⟩, nofun⟩
  · exact DownloadRun.accounted_downloadBy rfl _

/-- Only an empty table is refused at once. -/
theorem error_exportTable_eq_nothingToExport_iff :
    (browser.exportTable toText items fileName).error = some .nothingToExport ↔ items = [] := by
  cases items with
  | nil => simp [Browser.exportTable]
  | cons item rest => simp [Browser.exportTable, Browser.download]

/-- Any other table is saved if no step is refused. -/
theorem error_exportTable_eq_none_iff :
    (browser.exportTable toText items fileName).error = none ↔
      items ≠ [] ∧ ∀ step ∈ downloadSteps, browser.allows step = true := by
  cases items with
  | nil => simp [Browser.exportTable]
  | cons item rest => simp [Browser.exportTable, Browser.download]

/-- **What an export leaves behind.**  A table with rows is saved if no step is refused.  Else the
outcome is known from the first step that is, and the export is all or nothing unless that step
comes while the URL of the file is there.  That is so in every browser, and there is a browser for
every way in which steps may be refused. -/
theorem exportTable_allOrNothing_iff (refused : DownloadStep → Bool) :
    let run := browser.exportTable toText items fileName
    let file : Download := ⟨fileName, csvContentType, toText items⟩
    ((run.error = some .nothingToExport ↔ items = []) ∧
      (run.error = none ↔ items ≠ [] ∧ ∀ step ∈ downloadSteps, browser.allows step = true) ∧
      run.Accounted file ∧
      (run.AllOrNothing file ↔ ∀ step ∈ stepsWithUrl, run.error ≠ some (.stoppedAt step))) ∧
    ∃ other : Browser, ∀ fileName content, other.download fileName content =
      downloadBy (fun step => step == .call .click || !refused step)
        ⟨fileName, csvContentType, content⟩ := by
  have haccount := accounted_exportTable browser toText items fileName
  exact ⟨⟨error_exportTable_eq_nothingToExport_iff browser toText items fileName,
    error_exportTable_eq_none_iff browser toText items fileName, haccount,
    haccount.allOrNothing_iff⟩, exists_browser_download refused⟩

end

/-- A browser that refuses to style the link is left with the URL of the file. -/
theorem not_allOrNothing_unstyled :
    ¬∀ (browser : Browser) (customers : List Customer) (fileName : String), customers ≠ [] →
      (browser.exportTable csvOfCustomers customers fileName).AllOrNothing
        ⟨fileName, csvContentType, csvOfCustomers customers⟩ := by
  intro h
  let customer : Customer := ⟨"u1", none, .zero false, false, none, none, none, none⟩
  have htidy := (h (.refusing (.call .setStyle)) [customer] "customers.csv" nofun).tidy
  exact absurd htidy (by decide)

end BillingConsole
