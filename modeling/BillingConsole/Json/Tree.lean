/-!
# JSON as it is written

What a JSON text says, read up to its first fault.  A tree keeps what later decisions need: string
and number literals as they are spelled, members in their order with repetitions, and, wherever
reading had to stop, why.

Whether a fault matters depends on who looks: a reader that wanted a number complains about a
string before it reaches a missing bracket behind it.  So faults are part of the tree, and each use
of a tree meets them in reading order.

## What is here

* `StringLiteral`, `NumberLiteral` — literals as spelled.
* `Fault` — why no value could be read at a place.
* `Stop` — how a list of items or members ends.
* `Tree` — a value as written.
-/

set_option autoImplicit false

namespace BillingConsole.Json

/-- A piece of a string literal: a character, or a UTF-16 code unit given by its number. -/
inductive Piece where
  | char (c : Char)
  | unit (n : Nat)
deriving DecidableEq

/-- How a string literal ends. -/
inductive StringEnd where
  /-- At its closing quote. -/
  | closed
  /-- The text ends inside the literal. -/
  | endOfText
  /-- A control character stands in it as it is. -/
  | control
  /-- A backslash is followed by a character that forms no escape with it. -/
  | badEscape
  /-- A code unit is not given by four hexadecimal digits. -/
  | badHex
deriving DecidableEq

/-- A string literal. -/
structure StringLiteral where
  pieces : List Piece
  ending : StringEnd
deriving DecidableEq

/-- A number literal, by its digits. -/
structure NumberLiteral where
  negative : Bool
  whole : List Char
  fraction : Option (List Char)
  /-- Whether the exponent is negative, and its digits. -/
  exponent : Option (Bool × List Char)
deriving DecidableEq

/-- Why there is no value at a place. -/
inductive Fault where
  /-- The text ends where a value is due, or inside a word. -/
  | endOfText
  /-- No value starts with the character there. -/
  | noValue
  /-- A word is neither null nor true nor false. -/
  | badWord
  /-- The text ends inside a number. -/
  | cutNumber
  /-- A number is not spelled as one. -/
  | badNumber
  /-- The text ends after the name of a member. -/
  | endBeforeColon
  /-- No colon follows the name of a member. -/
  | noColon
deriving DecidableEq

/-- How a list of items or members ends. -/
inductive Stop where
  /-- At its closing bracket. -/
  | closed
  /-- A comma stands before the closing bracket. -/
  | dangling
  /-- The text ends where a bracket or a comma is due. -/
  | endOfText
  /-- The text ends after the comma between two members. -/
  | endAfterComma
  /-- Neither a comma nor the closing bracket follows an entry. -/
  | unseparated
  /-- A member does not start with a string. -/
  | badName
  /-- The last entry has a fault of its own. -/
  | broken
deriving DecidableEq

/-- A value as written. -/
inductive Tree where
  | null
  | bool (b : Bool)
  | number (literal : NumberLiteral)
  | string (literal : StringLiteral)
  | array (items : List Tree) (stop : Stop)
  | object (members : List (StringLiteral × Tree)) (stop : Stop)
  | broken (fault : Fault)

end BillingConsole.Json
