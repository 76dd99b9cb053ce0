import BillingConsole.Json.Tree
import BillingConsole.Number.Literal

/-!
# Reading JSON

## What is here

* `skipBlank` — white space between tokens: blank, tab, line feed and carriage return.
* `readString`, `readNumber`, `readWord` — the literals.
* `readValue`, `readItems`, `readMembers` — values, by the nesting of brackets.
* `Document`, `readDocument` — a whole text.

Reading a value takes a bound on the number of steps; two for each character of the text, which
`readDocument` supplies, are always enough.
-/

set_option autoImplicit false

namespace BillingConsole.Json

/-! ## Tokens -/

/-- White space between tokens. -/
def isSpace (c : Char) : Bool := c == ' ' || c == '\t' || c == '\n' || c == '\r'

/-- The text from its next token on. -/
def skipBlank (s : List Char) : List Char := s.dropWhile isSpace

/-- The rest of a word after its first letter. -/
def readWord : List Char → List Char → Except Fault (List Char)
  | [], s => .ok s
  | _ :: _, [] => .error .endOfText
  | expected :: more, c :: s => if c = expected then readWord more s else .error .badWord

/-- The value of a hexadecimal digit. -/
def hexValue? (c : Char) : Option Nat :=
  if c.isDigit then some (c.toNat - '0'.toNat)
  else if 'a' ≤ c ∧ c ≤ 'f' then some (c.toNat - 'a'.toNat + 10)
  else if 'A' ≤ c ∧ c ≤ 'F' then some (c.toNat - 'A'.toNat + 10)
  else none

/-- The number given by four hexadecimal digits. -/
def hexUnit? (a b c d : Char) : Option Nat := do
  let a ← hexValue? a
  let b ← hexValue? b
  let c ← hexValue? c
  let d ← hexValue? d
  some (((a * 16 + b) * 16 + c) * 16 + d)

/-- The character a backslash and a letter stand for. -/
def escaped? (c : Char) : Option Char :=
  if c = '"' ∨ c = '\\' ∨ c = '/' then some c
  else if c = 'b' then some '\x08'
  else if c = 'f' then some '\x0c'
  else if c = 'n' then some '\n'
  else if c = 'r' then some '\r'
  else if c = 't' then some '\t'
  else none

/-- A literal with one more piece in front. -/
def StringLiteral.cons (piece : Piece) (literal : StringLiteral) : StringLiteral :=
  { literal with pieces := piece :: literal.pieces }

/-- The size of a text in bytes of UTF-8. -/
def byteCount (s : List Char) : Nat := s.foldr (fun c n => c.utf8Size + n) 0

/-- The string literal after its opening quote, and what follows it.  Four bytes must follow the
start of a code unit for its digits to be looked at. -/
def readString : List Char → StringLiteral × List Char
  | [] => (⟨[], .endOfText⟩, [])
  | '"' :: rest => (⟨[], .closed⟩, rest)
  | '\\' :: 'u' :: a :: b :: c :: d :: rest =>
    match hexUnit? a b c d with
    | some n =>
      let (literal, after) := readString rest
      (literal.cons (.unit n), after)
    | none => (⟨[], .badHex⟩, [])
  | '\\' :: 'u' :: rest => (⟨[], if 4 ≤ byteCount rest then .badHex else .endOfText⟩, [])
  | '\\' :: c :: rest =>
    match escaped? c with
    | some e =>
      let (literal, after) := readString rest
      (literal.cons (.char e), after)
    | none => (⟨[], .badEscape⟩, [])
  | ['\\'] => (⟨[], .endOfText⟩, [])
  | c :: rest =>
    if c < ' ' then (⟨[], .control⟩, [])
    else
      let (literal, after) := readString rest
      (literal.cons (.char c), after)

/-- At least one digit, and what follows the digits. -/
def readDigitRun (s : List Char) : Except Fault (List Char × List Char) :=
  match s.span Char.isDigit with
  | ([], []) => .error .cutNumber
  | ([], _ :: _) => .error .badNumber
  | (digits, rest) => .ok (digits, rest)

/-- The whole part of a number, which starts with zero only when it is zero. -/
def readWhole (s : List Char) : Except Fault (List Char × List Char) := do
  let (digits, rest) ← readDigitRun s
  match digits with
  | '0' :: _ :: _ => .error .badNumber
  | _ => .ok (digits, rest)

/-- The fraction of a number, if a point follows. -/
def readFraction : List Char → Except Fault (Option (List Char) × List Char)
  | '.' :: rest => do
    let (digits, after) ← readDigitRun rest
    .ok (some digits, after)
  | s => .ok (none, s)

/-- The exponent of a number, if its mark follows. -/
def readExponent : List Char → Except Fault (Option (Bool × List Char) × List Char)
  | [] => .ok (none, [])
  | c :: rest =>
    if c = 'e' ∨ c = 'E' then do
      let (negative, unsigned) := Binary64.splitSign rest
      let (digits, after) ← readDigitRun unsigned
      .ok (some (negative, digits), after)
    else .ok (none, c :: rest)

/-- A number, from its sign or first digit on. -/
def readNumber (s : List Char) : Except Fault (NumberLiteral × List Char) := do
  let (negative, unsigned) := match s with
    | '-' :: rest => (true, rest)
    | _ => (false, s)
  let (whole, afterWhole) ← readWhole unsigned
  let (fraction, afterFraction) ← readFraction afterWhole
  let (exponent, rest) ← readExponent afterFraction
  .ok (⟨negative, whole, fraction, exponent⟩, rest)

/-! ## Values -/

/-- A token as a tree: what it stands for and the rest of the text, or its fault. -/
def ofToken {α : Type} (build : α → Tree) :
    Except Fault (α × List Char) → Tree × Option (List Char)
  | .ok (token, rest) => (build token, some rest)
  | .error fault => (.broken fault, none)

/-- A word as a tree. -/
def ofWord (value : Tree) (letters : String) (s : List Char) : Tree × Option (List Char) :=
  match readWord letters.toList s with
  | .ok rest => (value, some rest)
  | .error fault => (.broken fault, none)

mutual

/-- The value at the start of a text, and what follows it; nothing follows a value with a fault. -/
def readValue : Nat → List Char → Tree × Option (List Char)
  | 0, _ => (.broken .endOfText, none)
  | steps + 1, s =>
    match skipBlank s with
    | [] => (.broken .endOfText, none)
    | '[' :: rest =>
      let (items, stop, after) := readItems steps true rest
      (.array items stop, after)
    | '\x7b' :: rest =>
      let (members, stop, after) := readMembers steps true rest
      (.object members stop, after)
    | '"' :: rest =>
      let (literal, after) := readString rest
      (.string literal, if literal.ending = .closed then some after else none)
    | 'n' :: rest => ofWord .null "ull" rest
    | 't' :: rest => ofWord (.bool true) "rue" rest
    | 'f' :: rest => ofWord (.bool false) "alse" rest
    | c :: rest =>
      if c = '-' ∨ c.isDigit then ofToken .number (readNumber (c :: rest))
      else (.broken .noValue, none)

/-- The items of an array after its opening bracket or a comma, how they end, and what follows. -/
def readItems : Nat → Bool → List Char → List Tree × Stop × Option (List Char)
  | 0, _, _ => ([], .broken, none)
  | steps + 1, first, s =>
    match skipBlank s, first with
    | ']' :: rest, true => ([], .closed, some rest)
    | ']' :: _, false => ([], .dangling, none)
    | [], true => ([], .endOfText, none)
    | start, _ =>
      match readValue steps start with
      | (item, none) => ([item], .broken, none)
      | (item, some after) =>
        match skipBlank after with
        | ',' :: rest =>
          let (items, stop, after) := readItems steps false rest
          (item :: items, stop, after)
        | ']' :: rest => ([item], .closed, some rest)
        | [] => ([item], .endOfText, none)
        | _ => ([item], .unseparated, none)

/-- The members of an object after its opening bracket or a comma, how they end, and what
follows. -/
def readMembers :
    Nat → Bool → List Char → List (StringLiteral × Tree) × Stop × Option (List Char)
  | 0, _, _ => ([], .broken, none)
  | steps + 1, first, s =>
    match skipBlank s with
    | '\x7d' :: rest =>
      if first then ([], .closed, some rest) else ([], .dangling, none)
    | [] => ([], if first then .endOfText else .endAfterComma, none)
    | '"' :: rest =>
      let (name, afterName) := readString rest
      if name.ending ≠ .closed then ([(name, .broken .endOfText)], .broken, none)
      else
        match skipBlank afterName with
        | [] => ([(name, .broken .endBeforeColon)], .broken, none)
        | ':' :: rest =>
          match readValue steps rest with
          | (value, none) => ([(name, value)], .broken, none)
          | (value, some after) =>
            match skipBlank after with
            | ',' :: rest =>
              let (members, stop, after) := readMembers steps false rest
              ((name, value) :: members, stop, after)
            | '\x7d' :: rest => ([(name, value)], .closed, some rest)
            | [] => ([(name, value)], .endOfText, none)
            | _ => ([(name, value)], .unseparated, none)
        | _ => ([(name, .broken .noColon)], .broken, none)
    | _ => ([], .badName, none)

end

/-- A whole text: its value, and whether anything but white space follows it. -/
structure Document where
  value : Tree
  hasMore : Bool

/-- A text read as one value. -/
def readDocument (text : String) : Document :=
  let s := text.toList
  match readValue (2 * s.length + 2) s with
  | (value, some rest) => ⟨value, !(skipBlank rest).isEmpty⟩
  | (value, none) => ⟨value, false⟩

end BillingConsole.Json
