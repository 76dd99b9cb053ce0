/-!
# Views

A view is what a screen shows at one moment: a tree of texts, icons and elements, in which every
control carries the event it stands for.  Views are values; what a control does is decided by
whoever made the view.

## What is here

* `View` — the tree, for controls with events of one type.
* `View.map` — the same view with its events renamed.
* `View.block`, `View.span`, `View.cell`, `View.row` — short forms for elements without attributes.
-/

set_option autoImplicit false

namespace BillingConsole

/-- What a screen shows, with the events its controls stand for. -/
inductive View (Event : Type) where
  | text (s : String)
  | icon (name : String)
  | element (tag : String) (attributes : List (String × String)) (children : List (View Event))
  /-- A button; one that submits the form around it has no event of its own. -/
  | button (title : Option String) (enabled : Bool) (event : Option Event)
      (children : List (View Event))
  | link (event : Event) (children : List (View Event))
  /-- A field for text, of a kind and with a value. -/
  | field (kind value : String) (enabled : Bool) (onInput : String → Event)
  /-- A choice between options, each of which may be the selected one. -/
  | choice (value : String) (options : List (String × Bool)) (onChange : String → Event)
  | form (onSubmit : Event) (children : List (View Event))

namespace View

/-- A block of content. -/
def block {Event : Type} (children : List (View Event)) : View Event := .element "div" [] children

/-- Content within a line. -/
def span {Event : Type} (children : List (View Event)) : View Event := .element "span" [] children

/-- A block with a single text. -/
def blockText {Event : Type} (s : String) : View Event := block [.text s]

/-- A cell of a table. -/
def cell {Event : Type} (children : List (View Event)) : View Event := .element "td" [] children

/-- A cell with a single text. -/
def cellText {Event : Type} (s : String) : View Event := cell [.text s]

/-- A row of a table. -/
def row {Event : Type} (cells : List (View Event)) : View Event := .element "tr" [] cells

/-- A table with titles above its rows. -/
def table {Event : Type} (titles : List String) (rows : List (View Event)) : View Event :=
  .element "table" [] [
    .element "thead" [] [row (titles.map fun title => .element "th" [] [.text title])],
    .element "tbody" [] rows]

/-- A button that is always enabled and has no title. -/
def plainButton {Event : Type} (event : Event) (children : List (View Event)) : View Event :=
  .button none true (some event) children

mutual

/-- The same view with its events renamed. -/
def map {A B : Type} (f : A → B) : View A → View B
  | .text s => .text s
  | .icon name => .icon name
  | .element tag attributes children => .element tag attributes (mapAll f children)
  | .button title enabled event children =>
    .button title enabled (event.map f) (mapAll f children)
  | .link event children => .link (f event) (mapAll f children)
  | .field kind value enabled onInput => .field kind value enabled fun s => f (onInput s)
  | .choice value options onChange => .choice value options fun s => f (onChange s)
  | .form onSubmit children => .form (f onSubmit) (mapAll f children)

/-- The same views with their events renamed. -/
def mapAll {A B : Type} (f : A → B) : List (View A) → List (View B)
  | [] => []
  | view :: rest => map f view :: mapAll f rest

end

end View

end BillingConsole
