/-!
# White space at the ends of a text

The console trims what people type and what they put into settings.  White space is the property
*White_Space* of the Unicode standard, which has 25 characters.

## What is here

* `isBlank` — whether a character is white space.
* `trimStart`, `trimEnd`, `trim` — a text without the white space at its ends.
* `dropEndWhile` — a list without its longest ending of characters with a property.
-/

set_option autoImplicit false

namespace BillingConsole

/-- White space of any kind. -/
def isBlank (c : Char) : Bool :=
  let n := c.toNat
  (9 ≤ n && n ≤ 13) || n == 0x20 || n == 0x85 || n == 0xa0 || n == 0x1680 ||
    (0x2000 ≤ n && n ≤ 0x200a) || n == 0x2028 || n == 0x2029 || n == 0x202f || n == 0x205f ||
    n == 0x3000

/-- The list without its longest ending of elements with a property. -/
def dropEndWhile {α : Type} (p : α → Bool) (s : List α) : List α :=
  (s.reverse.dropWhile p).reverse

/-- The text without white space at its start. -/
def trimStart (s : List Char) : List Char := s.dropWhile isBlank

/-- The text without white space at its end. -/
def trimEnd (s : List Char) : List Char := dropEndWhile isBlank s

/-- The text without white space at either end. -/
def trim (s : List Char) : List Char := trimEnd (trimStart s)

end BillingConsole
