import BillingConsole.Browser.Basic

/-!
# Saving a file

A file is saved by putting an invisible link to it into the document, clicking it, and removing it
again.  The steps are taken in order, and the first one the browser does not allow ends them.

## What is here

* `DownloadStep` — a step: a call, or a part of the browser that has to be there.
* `downloadSteps` — the steps in their order.
* `Browser.download` — what was done of them and what, if anything, stopped them.
* `Browser.exportTable` — the same for a table, where an empty table is refused at once.
-/

set_option autoImplicit false

namespace BillingConsole

/-- A part of the browser that saving a file needs. -/
inductive BrowserPart where
  | window
  | document
  | body
deriving DecidableEq

/-- A step of saving a file. -/
inductive DownloadStep where
  | call (c : DocumentCall)
  | need (part : BrowserPart)
deriving DecidableEq

/-- The steps of saving a file. -/
def downloadSteps : List DownloadStep :=
  [.call .makeBlob, .need .window, .need .document, .need .body, .call .makeUrl,
    .call .makeElement, .call .castElement, .call .setStyle, .call .append, .call .click,
    .call .remove, .call .revokeUrl]

/-- Whether the browser has a part. -/
def Browser.has (browser : Browser) : BrowserPart → Bool
  | .window => browser.hasWindow
  | .document => browser.hasDocument
  | .body => browser.hasBody

/-- Whether the browser allows a step.  Clicking is never refused. -/
def Browser.allows (browser : Browser) : DownloadStep → Bool
  | .call c => c == .click || browser.refused != some c
  | .need part => browser.has part

/-- Why a file was not saved, or not tidied up after. -/
inductive ExportError where
  | nothingToExport
  | stoppedAt (step : DownloadStep)
deriving DecidableEq

/-- The name of a call. -/
def DocumentCall.name : DocumentCall → String
  | makeBlob => "Blob"
  | makeUrl => "createObjectURL"
  | makeElement => "createElement"
  | castElement => "cast"
  | setStyle => "setProperty"
  | append => "appendChild"
  | click => "click"
  | remove => "removeChild"
  | revokeUrl => "revokeObjectURL"

/-- What a call was made for. -/
def DocumentCall.purpose : DocumentCall → String
  | makeBlob => "create blob"
  | makeUrl => "create object URL"
  | makeElement => "create anchor"
  | castElement => "cast to anchor"
  | setStyle => "set style"
  | append => "append anchor"
  | click => "click anchor"
  | remove => "remove anchor"
  | revokeUrl => "revoke URL"

/-- The wording. -/
def ExportError.message : ExportError → String
  | nothingToExport => "Nothing to export"
  | stoppedAt (.need .window) => "No window object"
  | stoppedAt (.need .document) => "No document object"
  | stoppedAt (.need .body) => "No body element"
  | stoppedAt (.call c) => "Failed to " ++ c.purpose ++ ": JsValue(" ++ c.name ++ ")"

/-- A file the browser was told to save. -/
structure Download where
  fileName : String
  contentType : String
  content : String
deriving DecidableEq

/-- What was done to save a file. -/
structure DownloadRun where
  steps : List DownloadStep
  downloads : List Download
  error : Option ExportError
deriving DecidableEq

/-- The type of a table that is saved. -/
def csvContentType : String := "text/csv;charset=utf-8;"

/-- Takes the steps of saving a file.  The file is saved when its link is clicked, whatever happens
afterwards. -/
def Browser.download (browser : Browser) (fileName content : String) : DownloadRun :=
  let taken := downloadSteps.takeWhile browser.allows
  { steps := taken
    downloads :=
      if .call .click ∈ taken then [⟨fileName, csvContentType, content⟩] else []
    error := (downloadSteps.find? fun step => !browser.allows step).map .stoppedAt }

/-- Saves a table with a row for each item, unless there are none. -/
def Browser.exportTable {α : Type} (browser : Browser) (toText : List α → String) (items : List α)
    (fileName : String) : DownloadRun :=
  if items.isEmpty then ⟨[], [], some .nothingToExport⟩
  else browser.download fileName (toText items)

end BillingConsole
