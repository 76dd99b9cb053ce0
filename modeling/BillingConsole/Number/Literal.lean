import BillingConsole.Number.Binary64

/-!
# Decimal literals

A written decimal — sign, digits, point, exponent — denotes an exact quotient, and the double for
it is the nearest one.

## What is here

* `readDigits` — the value of a run of decimal digits.
* `Binary64.ofDecimal` — the double nearest to `digits · 10 ^ power`.
* `Binary64.ofLiteral?` — the double of a literal, or `none` when the text is no literal.
-/

set_option autoImplicit false

namespace BillingConsole

/-- The value of a decimal digit. -/
def digitValue (c : Char) : Nat := c.toNat - '0'.toNat

/-- The value of a run of digits. -/
def readDigits (digits : List Char) : Nat :=
  digits.foldl (fun value c => value * 10 + digitValue c) 0

/-- A run of at least one decimal digit as a whole number. -/
def readWhole? (digits : List Char) : Option Nat :=
  if digits ≠ [] ∧ digits.all Char.isDigit then some (readDigits digits) else none

namespace Binary64

/-- The double nearest to `digits · 10 ^ power`.  Everything from `10 ^ 310` on is too large for a
double, and everything below `10 ^ -330` is nearest to zero. -/
def ofDecimal (negative : Bool) (digits : Nat) (power : Int) : Binary64 :=
  let length : Int := (Nat.toDigits 10 digits).length
  if digits = 0 ∨ length + power < -330 then zero negative
  else if 311 < length + power then .infinite negative
  else if 0 ≤ power then ofRatio negative (digits * Nat.pow 10 power.toNat) 1
  else ofRatio negative digits (Nat.pow 10 (-power).toNat)

/-- A leading sign and what follows it. -/
def splitSign : List Char → Bool × List Char
  | '-' :: rest => (true, rest)
  | '+' :: rest => (false, rest)
  | text => (false, text)

/-- The value of an exponent mark and its digits; no mark means zero. -/
def readExponent? : List Char → Option Int
  | [] => some 0
  | mark :: rest =>
    if mark = 'e' ∨ mark = 'E' then
      let (negative, digits) := splitSign rest
      (readWhole? digits).map fun n => if negative then -(n : Int) else n
    else none

/-- The double of an unsigned literal: a name in any case, or digits with an optional point and an
optional exponent, with a digit before or after the point. -/
def ofUnsigned? (negative : Bool) (text : List Char) : Option Binary64 :=
  let name := text.map Char.toLower
  if name = "nan".toList then some .nan
  else if name = "inf".toList ∨ name = "infinity".toList then some (.infinite negative)
  else
    let (whole, rest) := text.span Char.isDigit
    let (fraction, tail) := match rest with
      | '.' :: more => more.span Char.isDigit
      | _ => ([], rest)
    if whole ++ fraction = [] then none
    else (readExponent? tail).map fun exponent =>
      ofDecimal negative (readDigits (whole ++ fraction)) (exponent - fraction.length)

/-- The double of a literal with an optional sign. -/
def ofLiteral? (text : List Char) : Option Binary64 :=
  let (negative, rest) := splitSign text
  ofUnsigned? negative rest

end Binary64

end BillingConsole
