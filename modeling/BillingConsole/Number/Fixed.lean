import BillingConsole.Number.Binary64

/-!
# Two decimal places

An amount is shown with two places: its exact value is rounded to hundredths, a half going to the
even neighbour.

## What is here

* `Nat.digits10` — the decimal digits of a whole number.
* `Binary64.hundredths` — the magnitude of a finite double in hundredths.
* `Binary64.twoPlaces` — the text, with a minus sign on every negative double, `-0.0` included.
-/

set_option autoImplicit false

namespace BillingConsole

/-- The decimal digits of a whole number, without leading zeros; `0` for zero. -/
def digits10 (n : Nat) : List Char := Nat.toDigits 10 n

/-- The decimal digits of a whole number, filled with zeros on the left up to a width. -/
def padded10 (width n : Nat) : List Char :=
  List.replicate (width - (digits10 n).length) '0' ++ digits10 n

namespace Binary64

/-- `significand · 2 ^ exponent` in hundredths, rounded. -/
def hundredths (significand : Nat) (exponent : Int) : Nat :=
  let (num, den) := ratio significand exponent
  roundDiv (num * 100) den

/-- A count of hundredths as whole part, point and two digits. -/
def hundredthsText (count : Nat) : List Char :=
  digits10 (count / 100) ++ '.' :: padded10 2 (count % 100)

/-- The double with two places; NaN and the infinities by name. -/
def twoPlaces : Binary64 → List Char
  | .nan => "NaN".toList
  | .infinite s => (if s then ['-'] else []) ++ "inf".toList
  | .finite s m e _ => (if s then ['-'] else []) ++ hundredthsText (hundredths m e)

end Binary64

end BillingConsole
