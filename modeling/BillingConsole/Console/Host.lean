import BillingConsole.Browser.Base
import BillingConsole.Browser.Tokens
import BillingConsole.Console.Effect

/-!
# The console in its browser

The browser together with the requests sent so far, of which each waits for one answer, and a
journal of what was done.

## What is here

* `Sent` — a request that was sent.
* `Journal` — what was done since it was last read.
* `Host` — all of it; `Host.perform` does one thing, `Host.performAll` several.
* `Host.take` — what the answer to a request is waited for; each request is answered once.
-/

set_option autoImplicit false

namespace BillingConsole

/-- A request that was sent, what for, and whether it has been answered. -/
structure Sent where
  call : Call
  purpose : Purpose
  answered : Bool
deriving DecidableEq

/-- What was done. -/
structure Journal where
  requests : List Request := []
  logs : List LogEntry := []
  steps : List DownloadStep := []
  downloads : List Download := []
deriving DecidableEq, Inhabited

/-- The browser, the requests sent so far in their order, and what was done lately. -/
structure Host where
  browser : Browser
  sent : List Sent := []
  journal : Journal := {}
  halted : Bool := false
deriving DecidableEq

namespace Host

/-- Puts lines into the log. -/
def log (host : Host) (entries : List LogEntry) : Host :=
  { host with journal := { host.journal with logs := host.journal.logs ++ entries } }

/-- Sends a request. -/
def send (host : Host) (call : Call) (purpose : Purpose) : Host :=
  { host with
    sent := host.sent ++ [⟨call, purpose, false⟩]
    journal := { host.journal with
      requests := host.journal.requests ++ [call.request host.browser.gatewayBase] } }

/-- Does one thing. -/
def perform (host : Host) : Effect → Host
  | .send call purpose => host.send call purpose
  | .log entry => host.log [entry]
  | .saveToken item token =>
    let (browser, entries) := host.browser.saveToken item token
    { host with browser }.log entries
  | .clearTokens => { host with browser := host.browser.clearTokens }
  | .saveFile run =>
    { host with journal := { host.journal with
        steps := host.journal.steps ++ run.steps
        downloads := host.journal.downloads ++ run.downloads } }
  | .halt => { host with halted := true }

/-- Does several things in their order. -/
def performAll (host : Host) (effects : List Effect) : Host := effects.foldl perform host

/-- Forgets what is in the journal. -/
def clearJournal (host : Host) : Host := { host with journal := {} }

end Host

/-- What a request is waiting for when an answer comes. -/
inductive Taken where
  | missing
  | alreadyAnswered
  | waiting (purpose : Purpose) (host : Host)

/-- Takes a request, counted from zero, as answered. -/
def Host.take (host : Host) (place : Nat) : Taken :=
  match host.sent[place]? with
  | none => .missing
  | some sent =>
    if sent.answered then .alreadyAnswered
    else .waiting sent.purpose
      { host with sent := host.sent.set place { sent with answered := true } }

end BillingConsole
