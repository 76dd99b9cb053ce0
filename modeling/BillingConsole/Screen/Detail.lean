import BillingConsole.Console.Effect
import BillingConsole.Money
import BillingConsole.Ticket
import BillingConsole.View.Basic

/-!
# The spending of one customer

A dialog that shows what one customer spent on each model.  It asks anew each time it is opened.

## What is here

* `DetailDialog` — the dialog; `DetailDialog.load`, `DetailDialog.receive` ask and take the answer.
* `DetailDialog.openFor`, `DetailDialog.close` — opening and closing.
* `SpendDetail.view`, `DetailDialog.view` — the views.
-/

set_option autoImplicit false

namespace BillingConsole

/-- The dialog. -/
structure DetailDialog where
  isOpen : Bool
  customerId : Option String
  detail : Option SpendDetail
  error : Option String
  loading : Bool
  tickets : Tickets
deriving DecidableEq

namespace DetailDialog

/-- The dialog before it was opened. -/
def closed : DetailDialog := ⟨false, none, none, none, false, {}⟩

instance : Inhabited DetailDialog := ⟨closed⟩

/-- Asks for the customer of an open dialog on behalf of a page, and forgets what was shown. -/
def load (dialog : DetailDialog) (token : Option String) (page : Nat) :
    DetailDialog × List Effect :=
  match dialog.isOpen, dialog.customerId, token with
  | true, some id, some token =>
    let (ticket, tickets) := dialog.tickets.issue
    ({ dialog with tickets, detail := none, error := none, loading := true },
      [.send (.detail token id) (.detail page ticket id)])
  | _, _, _ => (dialog, [])

/-- Opens the dialog for a customer. -/
def openFor (dialog : DetailDialog) (id : String) (token : Option String) (page : Nat) :
    DetailDialog × List Effect :=
  { dialog with isOpen := true, customerId := some id }.load token page

/-- Closes the dialog; an answer it waits for may still come. -/
def close (dialog : DetailDialog) : DetailDialog := { dialog with isOpen := false }

/-- Takes the answer to a ticket.  The answer to any but the latest is dropped. -/
def receive (dialog : DetailDialog) (ticket : Nat) (id : String) (reply : Reply) :
    DetailDialog × List Effect :=
  if dialog.tickets.isLatest ticket then
    match reply.detail with
    | .ok detail => ({ dialog with loading := false, detail := some detail }, [])
    | .error error =>
      ({ dialog with loading := false, error := some error.message },
        [.say .error ("Failed to load spend of customer " ++ id ++ ": " ++ error.message)])
  else (dialog, [])

end DetailDialog

/-- The view of what one customer spent. -/
def SpendDetail.view {Event : Type} (detail : SpendDetail) : View Event :=
  .block [
    .blockText ("Alias: " ++ textOrDash detail.aliasName),
    .blockText ("Total spend: " ++ usd detail.spend),
    .blockText ("Requests: " ++ countText detail.requests.toNat),
    .blockText ("Tokens: " ++ countText detail.tokens.toNat ++ " (prompt " ++
      countText detail.promptTokens.toNat ++ ", completion " ++
      countText detail.completionTokens.toNat ++ ")"),
    if detail.byModel.isEmpty then .blockText "No usage recorded"
    else .table ["Model", "Spend", "Requests", "Tokens"]
      (detail.byModel.map fun entry =>
        .row [.cellText entry.model, .cellText (usd entry.spend),
          .cellText (countText entry.requests.toNat), .cellText (countText entry.tokens.toNat)])]

/-- The view of the dialog, with an event for its button; nothing while it is closed. -/
def DetailDialog.view {Event : Type} (dialog : DetailDialog) (close : Event) : List (View Event) :=
  if dialog.isOpen then
    [.block [
      .element "h2" [] [.text (match dialog.customerId with
        | some id => "Customer spend: " ++ id
        | none => "Customer spend")],
      .block ((if dialog.loading then [.block [.span [.text "Loading..."]]] else []) ++
        (dialog.error.toList.map .blockText) ++ (dialog.detail.toList.map SpendDetail.view)),
      .block [.plainButton close [.text "Close"]]]]
  else []

end BillingConsole
