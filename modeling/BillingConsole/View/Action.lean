import BillingConsole.Text.Blank
import BillingConsole.View.Basic
import BillingConsole.View.Lines

/-!
# Using a view

A user finds a control by what it says or by its place among its kind and uses it.  A control that
is not enabled does nothing.

## What is here

* `View.controls` — the controls of a view in their order.
* `Action` — what a user does.
* `View.use` — whether the control was there and could be used, and the event it stands for.
-/

set_option autoImplicit false

namespace BillingConsole

/-- A control of a view. -/
inductive Control (Event : Type) where
  /-- A button or a link, by what it says. -/
  | clickable (key : List Char) (enabled : Bool) (event : Option Event)
  | field (enabled : Bool) (onInput : String → Event)
  | choice (onChange : String → Event)
  /-- A form, which can be used where its first button can. -/
  | form (enabled : Bool) (onSubmit : Event)

namespace View

mutual

/-- The texts of a view, without its icons. -/
def texts {Event : Type} : View Event → List Char
  | .text s => s.toList
  | .element _ _ children | .button _ _ _ children | .link _ children | .form _ children =>
    textsAll children
  | .icon _ | .field .. | .choice .. => []

/-- The texts of views one after the other. -/
def textsAll {Event : Type} : List (View Event) → List Char
  | [] => []
  | view :: rest => texts view ++ textsAll rest

end

mutual

/-- The icons of a view as they are named in a line. -/
def iconTexts {Event : Type} : View Event → List Char
  | .icon name => iconText name
  | .element _ _ children | .button _ _ _ children | .link _ children | .form _ children =>
    iconTextsAll children
  | .text _ | .field .. | .choice .. => []

/-- The icons of views one after the other. -/
def iconTextsAll {Event : Type} : List (View Event) → List Char
  | [] => []
  | view :: rest => iconTexts view ++ iconTextsAll rest

end

/-- What a button or a link is found by: its text, or else its title, or else its icons. -/
def keyOf {Event : Type} (title : Option String) (children : List (View Event)) : List Char :=
  let text := trim (textsAll children)
  if text ≠ [] then text
  else match title with
    | some s => s.toList
    | none => iconTextsAll children

mutual

/-- Whether the first button in a view is enabled, if there is one. -/
def firstButton? {Event : Type} : View Event → Option Bool
  | .button _ enabled _ _ => some enabled
  | .element _ _ children | .link _ children | .form _ children => firstButtonAll? children
  | .text _ | .icon _ | .field .. | .choice .. => none

/-- Whether the first button in some views is enabled, if there is one. -/
def firstButtonAll? {Event : Type} : List (View Event) → Option Bool
  | [] => none
  | view :: rest => match firstButton? view with
    | some enabled => some enabled
    | none => firstButtonAll? rest

end

mutual

/-- The controls of a view in their order. -/
def controls {Event : Type} : View Event → List (Control Event)
  | .text _ | .icon _ => []
  | .element _ _ children => controlsAll children
  | .button title enabled event children => [.clickable (keyOf title children) enabled event]
  | .link event children => [.clickable (keyOf none children) true (some event)]
  | .field _ _ enabled onInput => [.field enabled onInput]
  | .choice _ _ onChange => [.choice onChange]
  | .form onSubmit children =>
    .form ((firstButtonAll? children).getD true) onSubmit :: controlsAll children

/-- The controls of views one after the other. -/
def controlsAll {Event : Type} : List (View Event) → List (Control Event)
  | [] => []
  | view :: rest => controls view ++ controlsAll rest

end

end View

/-- What a user does: places among controls of one kind are counted from zero. -/
inductive Action where
  | click (key : String) (place : Nat)
  | type (place : Nat) (value : String)
  | choose (place : Nat) (value : String)
  | submit
deriving DecidableEq

/-- What came of an action. -/
inductive ActionResult where
  | done
  | missing
  | disabled
deriving DecidableEq

/-- A control as an action finds it: whether it is enabled, and the event it stands for, if any. -/
def Control.answer? {Event : Type} : Action → Control Event → Option (Bool × Option Event)
  | .click key _, .clickable own enabled event =>
    if own = key.toList then some (enabled, event) else none
  | .type _ value, .field enabled onInput => some (enabled, some (onInput value))
  | .choose _ value, .choice onChange => some (true, some (onChange value))
  | .submit, .form enabled onSubmit => some (enabled, some onSubmit)
  | _, _ => none

/-- The place of the control an action means. -/
def Action.place : Action → Nat
  | .click _ place | .type place _ | .choose place _ => place
  | .submit => 0

/-- What comes of an action, and the event it causes, if it causes one. -/
def View.use {Event : Type} (view : View Event) (action : Action) :
    ActionResult × Option Event :=
  match (view.controls.filterMap (Control.answer? action))[action.place]? with
  | some (true, event) => (.done, event)
  | some (false, _) => (.disabled, none)
  | none => (.missing, none)

end BillingConsole
