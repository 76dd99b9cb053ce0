/-!
# Percent escapes

A text is put into a URL by its UTF-8 bytes.  Some characters stand for themselves, and every other
byte is written as a percent sign and two hexadecimal digits.

## What is here

* `percentEscape` — the escape of a byte.
* `percentEncode` — a text with every character escaped that is not to be kept.
* `encodeSegment` — a text as one segment of a path.
* `encodeFormValue` — a text as a value in a query, where a space becomes a plus sign.
-/

set_option autoImplicit false

namespace BillingConsole

/-- A hexadecimal digit, with capital letters. -/
def capitalHexDigit (n : Nat) : Char :=
  if n < 10 then Char.ofNat ('0'.toNat + n) else Char.ofNat ('A'.toNat + (n - 10))

/-- The escape of a byte. -/
def percentEscape (byte : UInt8) : List Char :=
  ['%', capitalHexDigit (byte.toNat / 16), capitalHexDigit (byte.toNat % 16)]

/-- A text with the UTF-8 bytes of every character escaped that is not to be kept. -/
def percentEncode (keep : Char → Bool) (text : List Char) : List Char :=
  text.flatMap fun c => if keep c then [c] else (String.utf8EncodeChar c).flatMap percentEscape

/-- Whether a character stands for itself in a segment of a path. -/
def isUnreserved (c : Char) : Bool :=
  c.isAlphanum || c == '-' || c == '.' || c == '_' || c == '~'

/-- A text as one segment of a path. -/
def encodeSegment (text : List Char) : List Char := percentEncode isUnreserved text

/-- Whether a character stands for itself in a value of a query. -/
def isFormSafe (c : Char) : Bool :=
  c.isAlphanum || c == '-' || c == '.' || c == '_' || c == '*'

/-- A text as a value in a query. -/
def encodeFormValue (text : List Char) : List Char :=
  text.flatMap fun c => if c = ' ' then ['+'] else percentEncode isFormSafe [c]

end BillingConsole
