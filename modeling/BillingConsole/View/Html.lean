import BillingConsole.View.Basic
import BillingConsole.View.Icon

/-!
# Views as markup

## What is here

* `View.html` — a view as markup: attributes in the order of their names, every element closed by an
  end tag, and `&`, `<`, `>` and quotes escaped in texts and attributes.
-/

set_option autoImplicit false

namespace BillingConsole

/-- A character in a text or an attribute. -/
def htmlChar (c : Char) : List Char :=
  if c = '&' then "&amp;".toList
  else if c = '<' then "&lt;".toList
  else if c = '>' then "&gt;".toList
  else if c = '"' then "&quot;".toList
  else [c]

/-- A text in markup. -/
def htmlText (s : String) : List Char := s.toList.flatMap htmlChar

/-- An attribute with the space before it. -/
def htmlAttribute : String × String → List Char
  | (name, value) => ' ' :: name.toList ++ '=' :: '"' :: htmlText value ++ ['"']

/-- An element around markup, with its attributes in the order of their names. -/
def htmlElement (tag : String) (attributes : List (String × String)) (inner : List Char) :
    List Char :=
  let sorted := attributes.mergeSort fun a b => decide (a.1 ≤ b.1)
  '<' :: tag.toList ++ sorted.flatMap htmlAttribute ++ '>' :: inner ++
    '<' :: '/' :: tag.toList ++ ['>']

/-- A drawing as markup. -/
def Drawing.html (drawing : Drawing) : List Char :=
  htmlElement "svg" drawing.frame
    (drawing.shapes.flatMap fun shape => htmlElement shape.tag shape.attributes [])

/-- The attribute of a control that cannot be used. -/
def disabledAttribute (enabled : Bool) : List (String × String) :=
  if enabled then [] else [("disabled", "")]

namespace View

mutual

/-- A view as markup. -/
def html {Event : Type} : View Event → List Char
  | .text s => htmlText s
  | .icon name => (drawingOf name).html
  | .element tag attributes children => htmlElement tag attributes (htmlAll children)
  | .button title enabled _ children =>
    htmlElement "button" ((title.toList.map fun s => ("title", s)) ++ disabledAttribute enabled)
      (htmlAll children)
  | .link _ children => htmlElement "a" [("href", "#")] (htmlAll children)
  | .field kind value enabled _ =>
    htmlElement "input" ([("type", kind), ("value", value)] ++ disabledAttribute enabled) []
  | .choice value options _ =>
    htmlElement "select" [("value", value)]
      (options.flatMap fun option => htmlElement "option"
        (("value", option.1) :: if option.2 then [("selected", "")] else []) (htmlText option.1))
  | .form _ children => htmlElement "form" [] (htmlAll children)

/-- Views one after the other as markup. -/
def htmlAll {Event : Type} : List (View Event) → List Char
  | [] => []
  | view :: rest => html view ++ htmlAll rest

end

end View

end BillingConsole
