import BillingConsole.Number.Rounding

/-!
# Doubles

Amounts of money travel as IEEE 754 doubles.  A finite double is kept as its sign, its significand
and its binary exponent in the one canonical form the format allows, so two doubles are equal
exactly when they are the same number with the same sign; all arithmetic is done on whole numbers
and rounded once.

## What is here

* `Binary64` — NaN, the two infinities, and the finite doubles.
* `Binary64.ofRatio` — the double nearest to a quotient, a tie going to the even significand;
  an infinity when the quotient is too large.
* `Binary64.add`, `Binary64.mul`, `Binary64.div` — the exact result, rounded by `ofRatio`.
* `Binary64.magnitude`, `Binary64.isBelowZero` — sign handling, with `-0.0` not below zero.
-/

set_option autoImplicit false

namespace BillingConsole

/-- Significand and exponent are canonical: the significand has at most 53 bits and fewer than 53
only at the smallest exponent, and the exponent is one the format has. -/
def Canonical (significand : Nat) (exponent : Int) : Prop :=
  significand < Nat.pow 2 53 ∧ -1074 ≤ exponent ∧ exponent ≤ 971 ∧
    (Nat.pow 2 52 ≤ significand ∨ exponent = -1074)

instance (significand : Nat) (exponent : Int) : Decidable (Canonical significand exponent) := by
  unfold Canonical; infer_instance

/-- A double: `finite s m e` is `m · 2 ^ e`, negated when `s`. -/
inductive Binary64 where
  | nan
  | infinite (negative : Bool)
  | finite (negative : Bool) (significand : Nat) (exponent : Int)
      (canonical : Canonical significand exponent)
deriving DecidableEq

namespace Binary64

/-! ## Construction -/

/-- Zero with a sign. -/
def zero (negative : Bool) : Binary64 :=
  .finite negative 0 (-1074) (by decide)

instance : Inhabited Binary64 := ⟨zero false⟩

/-- A finite double when the form is canonical; anything too large is infinite. -/
def pack (negative : Bool) (significand : Nat) (exponent : Int) : Binary64 :=
  if h : Canonical significand exponent then .finite negative significand exponent h
  else .infinite negative

/-- Numerator and denominator of `num / den · 2 ^ (-exponent)`. -/
def scaled (num den : Nat) (exponent : Int) : Nat × Nat :=
  if exponent ≤ 0 then (num * Nat.pow 2 (-exponent).toNat, den)
  else (num, den * Nat.pow 2 exponent.toNat)

/-- The exponent at which the quotient `num / den` has a significand of 53 bits, or the smallest
exponent when that is larger. -/
def exponentFor (num den : Nat) : Int :=
  let guess : Int := (num.log2 : Int) - (den.log2 : Int) - 53
  let (n, d) := scaled num den guess
  max (-1074) (if n / d < Nat.pow 2 53 then guess else guess + 1)

/-- The double nearest to `num / den`, negated on demand; a tie goes to the even significand. -/
def ofRatio (negative : Bool) (num den : Nat) : Binary64 :=
  if num = 0 then zero negative
  else
    let exponent := exponentFor num den
    let (n, d) := scaled num den exponent
    let significand := roundDiv n d
    if significand = Nat.pow 2 53 then pack negative (Nat.pow 2 52) (exponent + 1)
    else pack negative significand exponent

/-- The double nearest to a whole number. -/
def ofNat (n : Nat) : Binary64 := ofRatio false n 1

/-- The double nearest to an integer. -/
def ofInt (n : Int) : Binary64 := ofRatio (n < 0) n.natAbs 1

/-! ## Parts -/

/-- Numerator and denominator of `significand · 2 ^ exponent`. -/
def ratio (significand : Nat) (exponent : Int) : Nat × Nat :=
  scaled significand 1 (-exponent)

/-- The same number without its sign. -/
def magnitude : Binary64 → Binary64
  | .nan => .nan
  | .infinite _ => .infinite false
  | .finite _ m e h => .finite false m e h

/-- The number with its sign turned. -/
def neg : Binary64 → Binary64
  | .nan => .nan
  | .infinite s => .infinite !s
  | .finite s m e h => .finite (!s) m e h

/-- Whether the number is less than zero; neither zero is. -/
def isBelowZero : Binary64 → Bool
  | .nan => false
  | .infinite s => s
  | .finite s m _ _ => s && m != 0

/-- Whether the number is one of the two zeros. -/
def isZero : Binary64 → Bool
  | .finite _ m _ _ => m == 0
  | _ => false

/-- Whether the number is neither NaN nor an infinity. -/
def isFinite : Binary64 → Bool
  | .finite .. => true
  | _ => false

/-! ## Arithmetic -/

/-- The signed whole number `m · 2 ^ (e - base)` of a finite double, for a base not above `e`. -/
def aligned (negative : Bool) (significand : Nat) (exponent base : Int) : Int :=
  let n : Int := ↑(significand * Nat.pow 2 (exponent - base).toNat)
  if negative then -n else n

/-- The sum, rounded once.  A sum that is exactly zero is `-0.0` only when both parts are. -/
def add : Binary64 → Binary64 → Binary64
  | .nan, _ => .nan
  | _, .nan => .nan
  | .infinite s, .infinite t => if s = t then .infinite s else .nan
  | .infinite s, .finite .. => .infinite s
  | .finite .., .infinite t => .infinite t
  | .finite s m e _, .finite t n f _ =>
    let base := min e f
    let sum := aligned s m e base + aligned t n f base
    if sum = 0 then zero (s && t)
    else
      let (num, den) := ratio sum.natAbs base
      ofRatio (sum < 0) num den

instance : Add Binary64 := ⟨add⟩

/-- The product, rounded once. -/
def mul : Binary64 → Binary64 → Binary64
  | .nan, _ => .nan
  | _, .nan => .nan
  | .infinite s, .infinite t => .infinite (s != t)
  | .infinite s, .finite t n _ _ => if n = 0 then .nan else .infinite (s != t)
  | .finite s m _ _, .infinite t => if m = 0 then .nan else .infinite (s != t)
  | .finite s m e _, .finite t n f _ =>
    let (num, den) := ratio (m * n) (e + f)
    ofRatio (s != t) num den

instance : Mul Binary64 := ⟨mul⟩

/-- The quotient, rounded once. -/
def div : Binary64 → Binary64 → Binary64
  | .nan, _ => .nan
  | _, .nan => .nan
  | .infinite _, .infinite _ => .nan
  | .infinite s, .finite t _ _ _ => .infinite (s != t)
  | .finite s _ _ _, .infinite t => zero (s != t)
  | .finite s m e _, .finite t n f _ =>
    if n = 0 then (if m = 0 then .nan else .infinite (s != t))
    else
      let (a, b) := ratio m e
      let (c, d) := ratio n f
      ofRatio (s != t) (a * d) (b * c)

instance : Div Binary64 := ⟨div⟩

end Binary64

end BillingConsole
