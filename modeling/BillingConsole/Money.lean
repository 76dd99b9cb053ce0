import BillingConsole.Number.Fixed
import BillingConsole.Text.Search

/-!
# Amounts and counts as text

## What is here

* `groupDigits` — separators between groups of three, counted from the right.
* `groupThousands` — the same for a number that is already text, with a sign and a fraction.
* `usd`, `usdOrDash` — an amount in dollars and cents.
* `countText` — a whole number with its digits grouped.
-/

set_option autoImplicit false

namespace BillingConsole

/-- A separator before every three characters counted from the end, and none at the start. -/
def groupDigits (separator : Char) : List Char → List Char
  | [] => []
  | c :: rest =>
    if rest ≠ [] ∧ rest.length % 3 = 0 then c :: separator :: groupDigits separator rest
    else c :: groupDigits separator rest

/-- Groups the characters between a leading minus sign and the first point. -/
def groupThousands (separator : Char) (text : List Char) : List Char :=
  let (sign, unsigned) := match text with
    | '-' :: rest => (['-'], rest)
    | _ => ([], text)
  match splitAround (· == '.') unsigned with
  | some (whole, fraction) => sign ++ groupDigits separator whole ++ '.' :: fraction
  | none => sign ++ groupDigits separator unsigned

/-- An amount in dollars with two places and grouped digits.  An amount that rounds to nothing is
shown without a sign. -/
def usd (amount : Binary64) : String :=
  let grouped := groupThousands ',' amount.magnitude.twoPlaces
  if amount.isBelowZero ∧ grouped ≠ "0.00".toList then String.ofList ('-' :: '$' :: grouped)
  else String.ofList ('$' :: grouped)

/-- An amount that may be missing; a dash stands for none. -/
def usdOrDash : Option Binary64 → String
  | some amount => usd amount
  | none => "-"

/-- A whole number with its digits grouped. -/
def countText (n : Nat) : String := String.ofList (groupThousands ',' (digits10 n))

/-- A text that may be missing or empty; a dash stands for nothing. -/
def textOrDash : Option String → String
  | some text => if text.isEmpty then "-" else text
  | none => "-"

end BillingConsole
