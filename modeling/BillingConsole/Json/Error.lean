import BillingConsole.Json.Tree
import BillingConsole.Number.Shortest
import BillingConsole.Text.Quoted

/-!
# Why a text could not be decoded

## What is here

* `DecodeError` — the causes.
* `DecodeError.Kind` — whether the text ends too early, is not JSON, or says the wrong thing.
* `DecodeError.message` — the wording.
* `Fault.error`, `Fault.skipError` — a fault as met by a reader of the value there, and by one that
  only passes over it.
-/

set_option autoImplicit false

namespace BillingConsole.Json

/-- What a text ends inside of. -/
inductive Place where
  | value
  | list
  | object
  | string
deriving DecidableEq

/-- How a text fails to be JSON. -/
inductive Malformation where
  | expectedValue
  | expectedIdent
  | expectedColon
  | expectedListCommaOrEnd
  | expectedObjectCommaOrEnd
  | invalidNumber
  | numberOutOfRange
  | controlCharacter
  | invalidEscape
  | loneSurrogate
  | unfinishedPair
  | nameNotString
  | trailingComma
  | trailingCharacters
deriving DecidableEq

/-- What was found instead of what was expected. -/
inductive Found where
  | null
  | boolean (b : Bool)
  | integer (n : Int)
  | double (d : Binary64)
  | text (s : String)
  | sequence
  | map
deriving DecidableEq

/-- Why a text could not be decoded. -/
inductive DecodeError where
  | endOfText (inside : Place)
  | malformed (how : Malformation)
  | invalidType (found : Found) (expected : String)
  | invalidValue (found : Int) (expected : String)
  | invalidLength (length : Nat) (record : String) (size : Nat)
  | missingField (name : String)
  | duplicateField (name : String)
deriving DecidableEq

/-! ## Wording -/

/-- What was found, in words. -/
def Found.describe : Found → String
  | .null => "null"
  | .boolean b => "boolean `" ++ (if b then "true" else "false") ++ "`"
  | .integer n =>
    "integer `" ++ (if n < 0 then "-" else "") ++ String.ofList (digits10 n.natAbs) ++ "`"
  | .double d => "floating point `" ++ String.ofList (d.numeral?.getD d.twoPlaces) ++ "`"
  | .text s => "string " ++ String.ofList (quoted s.toList)
  | .sequence => "sequence"
  | .map => "map"

/-- A malformation in words. -/
def Malformation.message : Malformation → String
  | .expectedValue => "expected value"
  | .expectedIdent => "expected ident"
  | .expectedColon => "expected `:`"
  | .expectedListCommaOrEnd => "expected `,` or `]`"
  | .expectedObjectCommaOrEnd => "expected `,` or `\x7d`"
  | .invalidNumber => "invalid number"
  | .numberOutOfRange => "number out of range"
  | .controlCharacter => "control character (\\u0000-\\u001F) found while parsing a string"
  | .invalidEscape => "invalid escape"
  | .loneSurrogate => "lone leading surrogate in hex escape"
  | .unfinishedPair => "unexpected end of hex escape"
  | .nameNotString => "key must be a string"
  | .trailingComma => "trailing comma"
  | .trailingCharacters => "trailing characters"

/-- The end of the text in words. -/
def Place.message : Place → String
  | .value => "EOF while parsing a value"
  | .list => "EOF while parsing a list"
  | .object => "EOF while parsing an object"
  | .string => "EOF while parsing a string"

namespace DecodeError

/-- The broad cause of an error. -/
inductive Kind where
  /-- The text ends too early. -/
  | endOfText
  /-- The text is not JSON. -/
  | malformed
  /-- The text is JSON and says the wrong thing. -/
  | data
deriving DecidableEq

/-- The broad cause of an error. -/
def kind : DecodeError → Kind
  | endOfText _ => .endOfText
  | malformed _ => .malformed
  | invalidType .. | invalidValue .. | invalidLength .. | missingField _ | duplicateField _ => .data

/-- The wording of an error. -/
def message : DecodeError → String
  | endOfText inside => inside.message
  | malformed how => how.message
  | invalidType found expected => "invalid type: " ++ found.describe ++ ", expected " ++ expected
  | invalidValue found expected =>
    "invalid value: " ++ (Found.integer found).describe ++ ", expected " ++ expected
  | invalidLength length record size =>
    "invalid length " ++ String.ofList (digits10 length) ++ ", expected struct " ++ record ++
      " with " ++ String.ofList (digits10 size) ++ (if size = 1 then " element" else " elements")
  | missingField name => "missing field `" ++ name ++ "`"
  | duplicateField name => "duplicate field `" ++ name ++ "`"

end DecodeError

/-! ## Faults -/

/-- A fault met by a reader of the value there. -/
def Fault.error : Fault → DecodeError
  | .endOfText | .cutNumber => .endOfText .value
  | .noValue => .malformed .expectedValue
  | .badWord => .malformed .expectedIdent
  | .badNumber => .malformed .invalidNumber
  | .endBeforeColon => .endOfText .object
  | .noColon => .malformed .expectedColon

/-- A fault met by a reader that passes over the value there, which takes a number cut short for a
misspelled one. -/
def Fault.skipError : Fault → DecodeError
  | .cutNumber => .malformed .invalidNumber
  | fault => fault.error

end BillingConsole.Json
