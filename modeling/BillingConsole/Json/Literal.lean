import BillingConsole.Json.Error
import BillingConsole.Number.Literal

/-!
# What literals stand for

## What is here

* `StringLiteral.text` — the text of a string literal, with surrogate pairs joined.
* `Numeral`, `NumberLiteral.numeral` — a number: an integer that fits in 64 bits, or a double.

A double is computed in two steps.  The digits make a significand as long as it fits in 64 bits;
further digits only move the point.  The significand, as a double, is then multiplied or divided by
a power of ten, so the result can be a neighbour of the nearest double.
-/

set_option autoImplicit false

namespace BillingConsole.Json

/-! ## Strings -/

/-- The first of two code units that form a pair. -/
def isLeading (unit : Nat) : Bool := 0xd800 ≤ unit && unit ≤ 0xdbff

/-- The second of two code units that form a pair. -/
def isTrailing (unit : Nat) : Bool := 0xdc00 ≤ unit && unit ≤ 0xdfff

/-- The character of a pair of code units. -/
def joinPair (leading trailing : Nat) : Char :=
  Char.ofNat (0x10000 + (leading - 0xd800) * 0x400 + (trailing - 0xdc00))

/-- The error at the end of a literal, if it has one. -/
def StringEnd.error? : StringEnd → Option DecodeError
  | .closed => none
  | .endOfText => some (.endOfText .string)
  | .control => some (.malformed .controlCharacter)
  | .badEscape | .badHex => some (.malformed .invalidEscape)

/-- The error when a literal ends after a leading code unit, where only another unit may follow. -/
def StringEnd.errorInPair : StringEnd → DecodeError
  | .endOfText => .endOfText .string
  | .badHex => .malformed .invalidEscape
  | .closed | .control | .badEscape => .malformed .unfinishedPair

/-- The characters of the pieces of a literal with an ending. -/
def textOf (ending : StringEnd) : List Piece → Except DecodeError (List Char)
  | [] => match ending.error? with
    | none => .ok []
    | some error => .error error
  | .char c :: rest => (textOf ending rest).map (c :: ·)
  | .unit n :: .unit next :: rest =>
    if isTrailing n then .error (.malformed .loneSurrogate)
    else if isLeading n then
      if isTrailing next then (textOf ending rest).map (joinPair n next :: ·)
      else .error (.malformed .loneSurrogate)
    else (textOf ending (.unit next :: rest)).map (Char.ofNat n :: ·)
  | .unit n :: rest =>
    if isTrailing n then .error (.malformed .loneSurrogate)
    else if isLeading n then
      match rest with
      | [] => .error ending.errorInPair
      | _ => .error (.malformed .unfinishedPair)
    else (textOf ending rest).map (Char.ofNat n :: ·)

/-- The text of a string literal. -/
def StringLiteral.text (literal : StringLiteral) : Except DecodeError String :=
  (textOf literal.ending literal.pieces).map String.ofList

/-! ## Numbers -/

/-- The number of integers of 64 bits without a sign. -/
def wordLimit : Nat := UInt64.size

/-- A significand with as many digits appended as keep it in 64 bits, and the digits left over. -/
def appendDigits (significand : Nat) : List Char → Nat × List Char
  | [] => (significand, [])
  | c :: rest =>
    let next := significand * 10 + digitValue c
    if next < wordLimit then appendDigits next rest else (significand, c :: rest)

/-- A power of ten as a double. -/
def tenPower (n : Nat) : Binary64 := Binary64.ofNat (Nat.pow 10 n)

/-- The largest power of ten among the doubles. -/
def largestTenPower : Nat := 308

/-- A double divided by the largest power of ten a number of times, or until it is zero. -/
def shrink : Nat → Binary64 → Binary64
  | 0, d => d
  | times + 1, d => if d.isZero then d else shrink times (d / tenPower largestTenPower)

/-- A significand times a power of ten, unless it is too large for a double. -/
def scaleByTen? (significand : Nat) (exponent : Int) : Option Binary64 :=
  let d := Binary64.ofNat significand
  if exponent < 0 then
    let times := (exponent.natAbs - 1) / largestTenPower
    some (shrink times d / tenPower (exponent.natAbs - times * largestTenPower))
  else if exponent.toNat ≤ largestTenPower then
    let product := d * tenPower exponent.toNat
    if product.isFinite then some product else none
  else if d.isZero then some d
  else none

/-- The largest exponent that is added up; beyond it only its sign counts. -/
def exponentLimit : Nat := Nat.pow 2 31

/-- The double for a number literal, or `none` when it is too large for one. -/
def NumberLiteral.double? (literal : NumberLiteral) : Option Binary64 :=
  let (whole, left) := appendDigits 0 literal.whole
  let fraction := literal.fraction.getD []
  let (significand, dropped) := appendDigits whole fraction
  let shift : Int := left.length - (fraction.length - dropped.length : Nat)
  let (negative, digits) := literal.exponent.getD (false, [])
  let size := readDigits digits
  let magnitude? :=
    if exponentLimit ≤ size then
      if significand ≠ 0 ∧ ¬ negative then none else some (Binary64.zero false)
    else scaleByTen? significand (if negative then shift - size else shift + size)
  magnitude?.map fun d => if literal.negative then d.neg else d

/-- A number as it is taken from a text. -/
inductive Numeral where
  | integer (n : Int)
  | double (d : Binary64)
deriving DecidableEq

/-- The integer of a literal that has neither fraction nor exponent and fits in 64 bits, with or
without a sign.  A zero with a sign is no integer. -/
def NumberLiteral.integer? (literal : NumberLiteral) : Option Int :=
  let n := readDigits literal.whole
  if literal.fraction.isSome ∨ literal.exponent.isSome then none
  else if literal.negative then
    if 1 ≤ n ∧ n ≤ Nat.pow 2 63 then some (-(n : Int)) else none
  else if n < wordLimit then some n else none

/-- The number a literal stands for. -/
def NumberLiteral.numeral (literal : NumberLiteral) : Except DecodeError Numeral :=
  match literal.integer? with
  | some n => .ok (.integer n)
  | none =>
    match literal.double? with
    | some d => .ok (.double d)
    | none => .error (.malformed .numberOutOfRange)

end BillingConsole.Json
