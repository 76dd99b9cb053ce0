import BillingConsole.Export.Download
import BillingConsole.Gateway.Request

/-!
# What the console does to the world

Deciding and doing are kept apart: whoever handles an event returns what is to be done, in order.

## What is here

* `RestoreStage`, `Purpose` — what an answer is waited for.
* `Effect` — something to be done.
-/

set_option autoImplicit false

namespace BillingConsole

/-- How far restoring a session has come. -/
inductive RestoreStage where
  /-- The user of the stored access token is asked for. -/
  | checking (token : String)
  /-- A new access token is asked for. -/
  | refreshing
  /-- The user of the new access token is asked for. -/
  | rechecking (token : String)
deriving DecidableEq

/-- What an answer is waited for.  Forms and pages are numbered in the order they are opened, and an
answer for one that was closed meanwhile changes nothing on the screen. -/
inductive Purpose where
  | restore (stage : RestoreStage)
  | signIn (form : Nat)
  | signOut
  | customers (page ticket : Nat)
  | report (page ticket : Nat)
  | detail (page ticket : Nat) (customerId : String)
deriving DecidableEq

/-- Something to be done. -/
inductive Effect where
  | send (call : Call) (purpose : Purpose)
  | log (entry : LogEntry)
  | saveToken (item token : String)
  | clearTokens
  /-- What was done to save a file goes on record. -/
  | saveFile (run : DownloadRun)
  /-- The calendar has no date for what was asked, and the console stops. -/
  | halt
deriving DecidableEq

/-- A line for the log. -/
def Effect.say (level : LogLevel) (text : String) : Effect := .log ⟨level, text⟩

end BillingConsole
