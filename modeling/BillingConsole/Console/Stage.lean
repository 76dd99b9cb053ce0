import BillingConsole.Console.Host
import BillingConsole.View.Action

/-!
# A screen in a browser

Whatever is shown in the browser — the whole console, or one widget on its own — is used in the same
ways: someone uses a control, or the gateway answers a request.

## What is here

* `Stage` — how a state is shown, used and answered.
* `Stage.use`, `Stage.answer` — using a control, and answering a request.
* `Stage.setBrowser` — a change of the browser from outside.
* `Stage.scene`, `Stage.rest` — what there is to see, and the state once it has been seen.
-/

set_option autoImplicit false

namespace BillingConsole

/-- How a state is shown, what its controls do and what answers do to it. -/
structure Stage (State Event : Type) where
  host : State → Host
  setHost : State → Host → State
  view : State → View Event
  handle : State → Event → State
  receive : State → Purpose → Reply → State

/-- What came of an answer to a request. -/
inductive Answered where
  | done
  | missing
  | alreadyAnswered
deriving DecidableEq

/-- What there is to see: the lines on screen, the stored items, and what was done lately. -/
structure Scene where
  lines : List String
  items : List (String × String)
  journal : Journal
deriving DecidableEq

namespace Stage

variable {State Event : Type} (stage : Stage State Event)

/-- Someone uses a control. -/
def use (state : State) (action : Action) : ActionResult × State :=
  match (stage.view state).use action with
  | (result, some event) => (result, stage.handle state event)
  | (result, none) => (result, state)

/-- The gateway answers a request, counted from zero. -/
def answer (state : State) (place : Nat) (reply : Reply) : Answered × State :=
  match (stage.host state).take place with
  | .missing => (.missing, state)
  | .alreadyAnswered => (.alreadyAnswered, state)
  | .waiting purpose host => (.done, stage.receive (stage.setHost state host) purpose reply)

/-- The browser changes from outside. -/
def setBrowser (state : State) (browser : Browser) : State :=
  stage.setHost state { stage.host state with browser }

/-- What there is to see. -/
def scene (state : State) : Scene :=
  ⟨(stage.view state).lines, (stage.host state).browser.items, (stage.host state).journal⟩

/-- The state once its scene has been seen. -/
def rest (state : State) : State := stage.setHost state (stage.host state).clearJournal

end Stage

end BillingConsole
