import BillingConsole.Number.Fixed
import BillingConsole.Number.Literal
import BillingConsole.View.Basic

/-!
# The pager

Buttons to the first, previous, next and last page of a report, and a choice of the page size.
Pages are counted from one.

## What is here

* `pageLabel`, `hasPrevious`, `hasNext` — where one is, and whether there is a page on either side.
* `Pager` — what the pager shows; `Pager.view` its view.
* `PagerEvent` — what it is used for; `Pager.ask?` says what an event asks for.
-/

set_option autoImplicit false

namespace BillingConsole

/-- The page, the number of pages and the number of entries.  A report without pages reads as the
first of one. -/
def pageLabel (page pages : UInt32) (count : UInt64) : String :=
  String.ofList (digits10 (max page 1).toNat ++ " / ".toList ++ digits10 (max pages 1).toNat ++
    " (".toList ++ digits10 count.toNat ++ [')'])

/-- Whether there is a page before. -/
def hasPrevious (page : UInt32) : Bool := decide (1 < page)

/-- Whether there is a page after. -/
def hasNext (page pages : UInt32) : Bool := decide (page < pages)

/-- What the pager shows. -/
structure Pager where
  page : UInt32
  pages : UInt32
  count : UInt64
  size : UInt32
  sizes : List UInt32
  enabled : Bool
  /-- The text in the choice of the page size, where a user may leave another one. -/
  sizeText : String
deriving DecidableEq

/-- What the pager is used for. -/
inductive PagerEvent where
  | goTo (page : UInt32)
  | chooseSize (text : String)
deriving DecidableEq

/-- What the pager asks for. -/
inductive PagerAsk where
  | page (page : UInt32)
  | size (size : UInt32)
deriving DecidableEq

/-- The text of a page size. -/
def pageSizeText (size : UInt32) : String := String.ofList (digits10 size.toNat)

/-- A page size from its text: digits, with a plus sign allowed before them, and below 2 ^ 32. -/
def readSize? (text : String) : Option UInt32 :=
  let digits := match text.toList with
    | '+' :: rest => rest
    | all => all
  (readWhole? digits).bind fun n => if n < UInt32.size then some (UInt32.ofNat n) else none

/-- What an event asks for.  A text that is no page size asks for nothing. -/
def PagerEvent.ask? : PagerEvent → Option PagerAsk
  | goTo page => some (.page page)
  | chooseSize text => (readSize? text).map .size

namespace Pager

/-- A button that goes to a page. -/
def pageButton (title icon : String) (enabled : Bool) (page : UInt32) : View PagerEvent :=
  .button (some title) enabled (some (.goTo page)) [.icon icon]

/-- The view of the pager. -/
def view (pager : Pager) : View PagerEvent :=
  let back := pager.enabled && hasPrevious pager.page
  let forth := pager.enabled && hasNext pager.page pager.pages
  .block [
    pageButton "First page" "chevrons-left" back 1,
    pageButton "Previous page" "chevron-left" back (pager.page - 1),
    .span [.text (pageLabel pager.page pager.pages pager.count)],
    pageButton "Next page" "chevron-right" forth (pager.page + 1),
    pageButton "Last page" "chevrons-right" forth pager.pages,
    .choice pager.sizeText
      (pager.sizes.map fun size => (pageSizeText size, size == pager.size)) .chooseSize]

end Pager

end BillingConsole
