import BillingConsole.Number.Shortest
import BillingConsole.Text.Quoted

/-!
# Writing JSON

Values are written without white space.  A string escapes the quote, the backslash and control
characters and nothing else.

## What is here

* `Value` — a value to be written.
* `Value.write` — its text.
* `escapedChar` — a character inside a string.
-/

set_option autoImplicit false

namespace BillingConsole.Json

/-- A value to be written. -/
inductive Value where
  | null
  | bool (b : Bool)
  | integer (n : Int)
  | double (d : Binary64)
  | text (s : String)
  | list (items : List Value)
  | record (members : List (String × Value))

/-- A character inside a string. -/
def escapedChar (c : Char) : List Char :=
  if c = '"' ∨ c = '\\' then ['\\', c]
  else if c = '\n' then ['\\', 'n']
  else if c = '\r' then ['\\', 'r']
  else if c = '\t' then ['\\', 't']
  else if c = '\x08' then ['\\', 'b']
  else if c = '\x0c' then ['\\', 'f']
  else if c < ' ' then
    ['\\', 'u'] ++ List.replicate (4 - (hexDigits c.toNat).length) '0' ++ hexDigits c.toNat
  else [c]

/-- A string in quotes. -/
def writeText (s : List Char) : List Char := '"' :: s.flatMap escapedChar ++ ['"']

/-- An integer. -/
def writeInteger (n : Int) : List Char :=
  (if n < 0 then ['-'] else []) ++ digits10 n.natAbs

namespace Value

mutual

/-- The text of a value.  A double that is not finite is written as null. -/
def write : Value → List Char
  | .null => "null".toList
  | .bool b => (if b then "true" else "false").toList
  | .integer n => writeInteger n
  | .double d => d.numeral?.getD "null".toList
  | .text s => writeText s.toList
  | .list items => '[' :: writeItems items ++ [']']
  | .record members => '\x7b' :: writeMembers members ++ ['\x7d']

/-- Values with commas between them. -/
def writeItems : List Value → List Char
  | [] => []
  | [item] => item.write
  | item :: rest => item.write ++ ',' :: writeItems rest

/-- Members with commas between them. -/
def writeMembers : List (String × Value) → List Char
  | [] => []
  | [(name, value)] => writeText name.toList ++ ':' :: value.write
  | (name, value) :: rest => writeText name.toList ++ ':' :: value.write ++ ',' :: writeMembers rest

end

/-- The text of a value. -/
def toText (value : Value) : String := String.ofList value.write

/-- A value that may be missing. -/
def ofOption {α : Type} (encode : α → Value) : Option α → Value
  | some a => encode a
  | none => .null

end Value

end BillingConsole.Json
