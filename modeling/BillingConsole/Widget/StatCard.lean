import BillingConsole.View.Basic

/-!
# Cards, totals and frames

## What is here

* `statCard` — a card with an icon, a label and a value, dimmed while the value is loaded again.
* `totalsRow` — the last row of a table.
* `pageFrame` — the frame every page stands in, named by entity and category.
* `isPageId`, `pageIdWarning?` — whether a name has that form.
-/

set_option autoImplicit false

namespace BillingConsole

/-- A card with an icon, a label and a value. -/
def statCard {Event : Type} (label icon value : String) (loading : Bool) : View Event :=
  .element "div" [("class", if loading then "stat-card stat-card--loading" else "stat-card")] [
    .element "div" [("class", "stat-card__icon")] [.icon icon],
    .element "div" [("class", "stat-card__content")] [
      .element "div" [("class", "stat-card__label")] [.text label],
      .element "div" [("class", "stat-card__value")] [.text value]]]

/-- One or two classes of an element. -/
def withClass (base extra : String) : String := if extra.isEmpty then base else base ++ " " ++ extra

/-- A row of totals, with a class of its own if one is given. -/
def totalsRow {Event : Type} (extraClass : String) (cells : List (View Event)) : View Event :=
  .element "tr" [("class", withClass "table__totals-row" extraClass)] cells

/-- What stands before and after the first double hyphen of a name. -/
def splitAtHyphens : List Char → Option (List Char × List Char)
  | '-' :: '-' :: rest => some ([], rest)
  | [] => none
  | c :: rest => (splitAtHyphens rest).map fun (before, after) => (c :: before, after)

/-- Whether the name of a page is an entity and a category joined by a double hyphen. -/
def isPageId (id : String) : Bool :=
  match splitAtHyphens id.toList with
  | some (entity, category) => !entity.isEmpty && !category.isEmpty
  | none => false

/-- The warning for a page with a name of another form. -/
def pageIdWarning? (id : String) : Option String :=
  if isPageId id then none
  else some ("PageFrame: page id '" ++ id ++ "' is not in entity--category form")

/-- The class of pages of a category. -/
def categoryClass (category : String) : String :=
  if category = "dashboard" then "page page--dashboard"
  else if category = "system" then "page page--system"
  else "page"

/-- A page in its frame. -/
def pageFrame {Event : Type} (id category extraClass : String) (children : List (View Event)) :
    View Event :=
  .element "div" [("id", id), ("class", withClass (categoryClass category) extraClass),
    ("data-page-category", category)] children

end BillingConsole
