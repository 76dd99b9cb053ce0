/-!
# Icons

Icons are drawn with lines on a square of 24 units and shown at one of two sizes.  An icon nobody
knows is shown as a clock.

## What is here

* `icons` — the icons by name.
* `isKnownIcon`, `drawingOf` — whether a name has an icon, and the drawing shown for it.
-/

set_option autoImplicit false

namespace BillingConsole

/-- A shape of a drawing. -/
structure Shape where
  tag : String
  attributes : List (String × String)
deriving DecidableEq

namespace Shape

/-- A path. -/
def path (d : String) : Shape := ⟨"path", [("d", d)]⟩

/-- A circle by its centre and its radius. -/
def circle (cx cy r : String) : Shape := ⟨"circle", [("cx", cx), ("cy", cy), ("r", r)]⟩

/-- A line through points. -/
def polyline (points : String) : Shape := ⟨"polyline", [("points", points)]⟩

/-- A closed line through points. -/
def polygon (points : String) : Shape := ⟨"polygon", [("points", points)]⟩

/-- A line from one point to another. -/
def line (x1 y1 x2 y2 : String) : Shape :=
  ⟨"line", [("x1", x1), ("y1", y1), ("x2", x2), ("y2", y2)]⟩

end Shape

/-- A drawing: the length of its sides on the screen, and its shapes. -/
structure Drawing where
  side : String
  shapes : List Shape
deriving DecidableEq

/-- How a drawing is framed. -/
def Drawing.frame (drawing : Drawing) : List (String × String) :=
  [("width", drawing.side), ("height", drawing.side), ("viewBox", "0 0 24 24"),
    ("fill", "none"), ("stroke", "currentColor"), ("stroke-width", "2"),
    ("stroke-linecap", "round"), ("stroke-linejoin", "round"), ("aria-hidden", "true")]

open Shape in
/-- The icons by name. -/
def icons : List (String × Drawing) :=
  [("users", ⟨"20", [
      path "M17 21v-2a4 4 0 0 0-4-4H7a4 4 0 0 0-4 4v2",
      circle "9" "7" "4",
      path "M23 21v-2a4 4 0 0 0-3-3.87",
      path "M16 3.13a4 4 0 0 1 0 7.75"]⟩),
    ("refresh", ⟨"16", [
      polyline "23 4 23 10 17 10",
      polyline "1 20 1 14 7 14",
      path "M3.51 9a9 9 0 0 1 14.85-3.36L23 10M1 14l4.64 4.36A9 9 0 0 0 20.49 15"]⟩),
    ("filter", ⟨"16", [
      polygon "22 3 2 3 10 12.46 10 19 14 21 14 12.46 22 3"]⟩),
    ("download", ⟨"16", [
      path "M21 15v4a2 2 0 0 1-2 2H5a2 2 0 0 1-2-2v-4",
      polyline "7 10 12 15 17 10",
      line "12" "15" "12" "3"]⟩),
    ("dollar-sign", ⟨"20", [
      line "12" "1" "12" "23",
      path "M17 5H9.5a3.5 3.5 0 0 0 0 7h5a3.5 3.5 0 0 1 0 7H6"]⟩),
    ("activity", ⟨"20", [
      polyline "22 12 18 12 15 21 9 3 6 12 2 12"]⟩),
    ("hash", ⟨"20", [
      line "4" "9" "20" "9",
      line "4" "15" "20" "15",
      line "10" "3" "8" "21",
      line "16" "3" "14" "21"]⟩),
    ("log-out", ⟨"16", [
      path "M9 21H5a2 2 0 0 1-2-2V5a2 2 0 0 1 2-2h4",
      polyline "16 17 21 12 16 7",
      line "21" "12" "9" "12"]⟩),
    ("chevron-right", ⟨"16", [
      polyline "9 18 15 12 9 6"]⟩),
    ("chevron-left", ⟨"16", [
      polyline "15 18 9 12 15 6"]⟩),
    ("chevrons-left", ⟨"16", [
      polyline "11 17 6 12 11 7",
      polyline "18 17 13 12 18 7"]⟩),
    ("chevrons-right", ⟨"16", [
      polyline "13 17 18 12 13 7",
      polyline "6 17 11 12 6 7"]⟩),
    ("chevron-down", ⟨"16", [
      polyline "6 9 12 15 18 9"]⟩)]

open Shape in
/-- What is shown for a name without an icon. -/
def unknownIcon : Drawing := ⟨"20", [circle "12" "12" "10", path "M12 8v4l3 3"]⟩

/-- Whether a name has an icon. -/
def isKnownIcon (name : String) : Bool := (icons.lookup name).isSome

/-- The drawing shown for a name. -/
def drawingOf (name : String) : Drawing := (icons.lookup name).getD unknownIcon

end BillingConsole
