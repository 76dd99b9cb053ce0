import BillingConsole.Text.Lowercase
import BillingConsole.Text.PrintableTable

/-!
# A text quoted in a message

A message that names a received text puts it between double quotes and makes every character
visible: the quote and the backslash behind a backslash, tab, line feed, carriage return and the
zero character by a letter, and any other character without a picture of its own by its number.

## What is here

* `hexDigits` — a number in base sixteen.
* `quotedChar`, `quoted` — a character and a text as a message shows them.
-/

set_option autoImplicit false

namespace BillingConsole

/-- The digits of a number in base sixteen, in lower case. -/
def hexDigits (n : Nat) : List Char := Nat.toDigits 16 n

/-- Whether a message shows a character as it is. -/
def isPrintable (c : Char) : Bool :=
  if c.toNat < 0x80 then decide (0x20 ≤ c.toNat) && decide (c.toNat < 0x7f)
  else !inRanges unprintableRanges c

/-- One character inside a quoted text. -/
def quotedChar (c : Char) : List Char :=
  if c = '"' ∨ c = '\\' then ['\\', c]
  else if c = '\n' then ['\\', 'n']
  else if c = '\r' then ['\\', 'r']
  else if c = '\t' then ['\\', 't']
  else if c = '\x00' then ['\\', '0']
  else if isPrintable c then [c]
  else ['\\', 'u', '\x7b'] ++ hexDigits c.toNat ++ ['\x7d']

/-- A text as a message shows it. -/
def quoted (s : List Char) : List Char := '"' :: s.flatMap quotedChar ++ ['"']

end BillingConsole
