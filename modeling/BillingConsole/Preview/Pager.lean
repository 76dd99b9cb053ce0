import BillingConsole.Console.Stage
import BillingConsole.Widget.Pager

/-!
# The pager on its own

What the pager asks for is put on record, and nothing follows from it.

## What is here

* `PagerPreview` — the pager and what it asked for.
* `PagerPreview.setSize` — changes the page size, which writes the text in its choice anew.
-/

set_option autoImplicit false

namespace BillingConsole

/-- The pager, and what it has asked for. -/
structure PagerPreview where
  host : Host
  pager : Pager
  asked : List PagerAsk

namespace PagerPreview

/-- Puts on record what an event asks for; a chosen text stays in the choice. -/
def handle (preview : PagerPreview) (event : PagerEvent) : PagerPreview :=
  { preview with
    asked := preview.asked ++ event.ask?.toList
    pager := match event with
      | .chooseSize text => { preview.pager with sizeText := text }
      | .goTo _ => preview.pager }

/-- Changes the page size. -/
def setSize (preview : PagerPreview) (size : UInt32) : PagerPreview :=
  { preview with pager := { preview.pager with size, sizeText := pageSizeText size } }

/-- The pager on its stage. -/
def stage : Stage PagerPreview PagerEvent where
  host := host
  setHost preview host := { preview with host }
  view preview := preview.pager.view
  handle := handle
  receive preview _ _ := preview

end PagerPreview

end BillingConsole
