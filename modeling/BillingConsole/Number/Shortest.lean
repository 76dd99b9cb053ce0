import BillingConsole.Number.Fixed

/-!
# The shortest decimal that reads back

A double is written with the fewest significant digits from which it can be read back.  Of two
decimals of that length the nearer one is taken, and the even one when both are equally near.

## What is here

* `decimalExponent` — the power of ten at the first digit of a quotient.
* `Binary64.shortestDigits` — the digits, and the power of ten at the last of them.
* `Binary64.numeral` — the text: plain between `1e-5` and `1e16`, with an exponent beyond.
-/

set_option autoImplicit false

namespace BillingConsole

/-- Numerator and denominator of `num / den · 10 ^ (-power)`. -/
def tenScaled (num den : Nat) (power : Int) : Nat × Nat :=
  if power ≤ 0 then (num * Nat.pow 10 (-power).toNat, den)
  else (num, den * Nat.pow 10 power.toNat)

/-- Whether `10 ^ power ≤ num / den`. -/
def reachesTen (num den : Nat) (power : Int) : Bool :=
  let (n, d) := tenScaled num den power
  d ≤ n

/-- The largest power of ten not above a positive quotient.  The guess from the binary sizes is
off by at most one. -/
def decimalExponent (num den : Nat) : Int :=
  let guess := (((num.log2 : Int) - (den.log2 : Int)) * 30103) / 100000
  if reachesTen num den (guess + 1) then guess + 1
  else if reachesTen num den guess then guess
  else guess - 1

namespace Binary64

/-- Whether `digits · 10 ^ power` reads back as the positive double `m · 2 ^ e`. -/
def readsBack (m : Nat) (e : Int) (digits : Nat) (power : Int) : Bool :=
  let (num, den) := tenScaled digits 1 (-power)
  match ofRatio false num den with
  | .finite _ n f _ => n == m && f == e
  | _ => false

/-- The decimal with its last digit at `10 ^ power` that reads back as `m · 2 ^ e`, if there is
one: the nearer of the two neighbours on that grid, the even one at a tie. -/
def onGrid (m : Nat) (e power : Int) : Option Nat :=
  let (num, den) := ratio m e
  let (n, d) := tenScaled num den power
  let below := n / d
  let nearer := roundDiv n d
  let farther := if nearer = below then below + 1 else below
  if readsBack m e nearer power then some nearer
  else if readsBack m e farther power then some farther
  else none

/-- The first grid, from one significant digit on, that holds a decimal reading back; the last
grid, of seventeen digits, always does. -/
def shortestFrom (m : Nat) (e top : Int) : Nat → Nat × Int
  | 0 =>
    let (num, den) := ratio m e
    let (n, d) := tenScaled num den (top - 16)
    (roundDiv n d, top - 16)
  | left + 1 =>
    let power := top - (16 - left : Nat)
    match onGrid m e power with
    | some digits => (digits, power)
    | none => shortestFrom m e top left

/-- The digits of the shortest decimal for the positive double `m · 2 ^ e`, and the power of ten at
the last of them. -/
def shortestDigits (m : Nat) (e : Int) : Nat × Int :=
  let (num, den) := ratio m e
  shortestFrom m e (decimalExponent num den) 17

/-- Digits without trailing zeros, and the power of ten raised for each zero dropped. -/
def dropZeros (digits : List Char) (power : Int) : List Char × Int :=
  let zeros := (digits.reverse.takeWhile (· == '0')).length
  (digits.take (digits.length - zeros), power + zeros)

/-- Digits whose last one stands at `10 ^ power`, written plainly when the first one stands
between `10 ^ -5` and `10 ^ 15`, and with an exponent otherwise. -/
def layOut (digits : List Char) (power : Int) : List Char :=
  let first : Int := power + (digits.length : Int) - 1
  if first < -5 ∨ 15 < first then
    let fraction := digits.drop 1
    digits.take 1 ++ (if fraction.isEmpty then [] else '.' :: fraction) ++
      'e' :: (if first < 0 then '-' else '+') :: digits10 first.natAbs
  else if 0 ≤ power then
    digits ++ List.replicate power.toNat '0' ++ ".0".toList
  else if 0 ≤ first then
    digits.take (first.toNat + 1) ++ '.' :: digits.drop (first.toNat + 1)
  else
    "0.".toList ++ List.replicate (-first - 1).toNat '0' ++ digits

/-- The text of a double as a number.  A number format without NaN and infinities has none for
them. -/
def numeral? : Binary64 → Option (List Char)
  | .finite s m e _ =>
    let sign := if s then ['-'] else []
    if m = 0 then some (sign ++ "0.0".toList)
    else
      let (digits, power) := shortestDigits m e
      let (shown, raised) := dropZeros (digits10 digits) power
      some (sign ++ layOut shown raised)
  | _ => none

end Binary64

end BillingConsole
