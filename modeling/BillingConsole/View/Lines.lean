import BillingConsole.Text.Blank
import BillingConsole.View.Basic
import BillingConsole.View.Icon

/-!
# Views as lines of text

What a view shows can be read as lines.  Blocks, headings, forms, tables and rows begin and end a
line; a cell is announced by a bar; controls are put in brackets that tell them apart.

## What is here

* `View.pieces` — the text of a view with its line ends.
* `View.lines` — its lines, trimmed and without the empty ones.
-/

set_option autoImplicit false

namespace BillingConsole

/-- A piece of the text of a view: characters, or the end of a line. -/
inductive LinePiece where
  | text (s : List Char)
  | lineEnd
deriving DecidableEq

/-- Whether an element begins and ends a line. -/
def isBlockTag (tag : String) : Bool :=
  ["div", "h1", "h2", "form", "table", "thead", "tbody", "tr"].contains tag

/-- Whether an element is a cell of a table. -/
def isCellTag (tag : String) : Bool := tag == "td" || tag == "th"

/-- The mark behind a control that cannot be used. -/
def offMark (enabled : Bool) : List Char := if enabled then [] else "(off)".toList

/-- An option as it is listed. -/
def optionText (option : String × Bool) : List Char :=
  option.1.toList ++ if option.2 then ['*'] else []

/-- An icon as it is named in a line. -/
def iconText (name : String) : List Char :=
  if isKnownIcon name then ':' :: name.toList ++ [':'] else ":?:".toList

namespace View

mutual

/-- The text of a view. -/
def pieces {Event : Type} : View Event → List LinePiece
  | .text s => [.text s.toList]
  | .icon name => [.text (iconText name)]
  | .element tag _ children =>
    if isBlockTag tag then .lineEnd :: piecesAll children ++ [.lineEnd]
    else if isCellTag tag then .text ['|', ' '] :: piecesAll children ++ [.text [' ']]
    else piecesAll children
  | .button title enabled _ children =>
    let note := match title with
      | some s => '|' :: s.toList
      | none => []
    .text ['['] :: piecesAll children ++ [.text (note ++ ']' :: offMark enabled)]
  | .link _ children => .text ['<'] :: piecesAll children ++ [.text ['>']]
  | .field kind value enabled _ =>
    [.text ('\x7b' :: kind.toList ++ '=' :: value.toList ++ '\x7d' :: offMark enabled)]
  | .choice value options _ =>
    [.text ('\x7b' :: "select=".toList ++ value.toList ++ ": ".toList ++
      [' '].intercalate (options.map optionText) ++ ['\x7d'])]
  | .form _ children => .lineEnd :: piecesAll children ++ [.lineEnd]

/-- The text of views one after the other. -/
def piecesAll {Event : Type} : List (View Event) → List LinePiece
  | [] => []
  | view :: rest => pieces view ++ piecesAll rest

end

end View

/-- The lines of a text, the unfinished one first given; each is what stands between line ends. -/
def linesOf : List Char → List LinePiece → List (List Char)
  | current, [] => [current]
  | current, .text s :: rest => linesOf (current ++ s) rest
  | current, .lineEnd :: rest => current :: linesOf [] rest

/-- The lines of a view, trimmed and without the empty ones. -/
def View.lines {Event : Type} (view : View Event) : List String :=
  (((linesOf [] view.pieces).map trim).filter (· ≠ [])).map String.ofList

end BillingConsole
