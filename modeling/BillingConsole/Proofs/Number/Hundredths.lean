import BillingConsole.Number.Fixed
import BillingConsole.Proofs.Number.Finite
import Mathlib.Algebra.Order.Ring.Abs

/-!
# Hundredths of a double

A finite double is a rational number, and its hundredths are the whole number nearest to a hundred
times that number, the even one of two that are equally near.

## What is here

* `NearestEven` — rounding a rational number; `NearestEven.le`, `NearestEven.unique` — **rounding
  keeps the order**, so its result is the only one.
* `nearestEven_roundDiv` — rounding a quotient.
* `Binary64.value` — the number that a finite double denotes.
* `Binary64.nearestEven_hundredths` — **the hundredths of a double.**
-/

set_option autoImplicit false

namespace BillingConsole

/-! ## Rounding -/

/-- A whole number is nearest to a rational one, and even if another one is equally near. -/
structure NearestEven (q : ℚ) (n : ℕ) : Prop where
  near : |q - n| ≤ 1 / 2
  even_of_tie : |q - n| = 1 / 2 → Even n

namespace NearestEven

variable {q r : ℚ} {m n : ℕ}

/-- **Rounding keeps the order.** -/
theorem le (hq : NearestEven q m) (hr : NearestEven r n) (h : q ≤ r) : m ≤ n := by
  by_contra hlt
  have hnext : ((n + 1 : ℕ) : ℚ) ≤ m := Nat.cast_le.2 (Nat.lt_of_not_le hlt)
  have hlow := neg_le_of_abs_le hq.near
  have hhigh := le_of_abs_le hr.near
  push_cast at hnext
  -- both are half way between two neighbours, of which only one is even
  have hm : q - m = -(1 / 2) := by linarith
  have hn : r - n = 1 / 2 := by linarith
  have hsucc : m = n + 1 := by
    have hcast : (m : ℚ) = (n + 1 : ℕ) := by push_cast; linarith
    exact_mod_cast hcast
  have hmeven : Even m := hq.even_of_tie (by rw [hm, abs_neg, abs_of_pos (by norm_num)])
  have hneven : Even n := hr.even_of_tie (by rw [hn, abs_of_pos (by norm_num)])
  rw [hsucc, Nat.even_add_one] at hmeven
  exact hmeven hneven

theorem unique (hm : NearestEven q m) (hn : NearestEven q n) : m = n :=
  Nat.le_antisymm (hm.le hn le_rfl) (hn.le hm le_rfl)

end NearestEven

/-- Half way between two neighbours a quotient is rounded to the even one. -/
theorem even_roundDiv {num den : ℕ} (hden : 0 < den)
    (h : 2 * (roundDiv num den * den) = 2 * num + den ∨
      2 * num = 2 * (roundDiv num den * den) + den) : Even (roundDiv num den) := by
  have hdiv : num / den * den + num % den = num := Nat.div_add_mod' num den
  have hmod := Nat.mod_lt num hden
  rw [roundDiv] at h ⊢
  split_ifs at h ⊢ with hbelow habove
  · omega
  · rw [Nat.add_mul] at h
    omega
  · rw [Nat.even_iff]
    omega

theorem nearestEven_roundDiv (num : ℕ) {den : ℕ} (hden : 0 < den) :
    NearestEven (num / den) (roundDiv num den) := by
  have hpos : (0 : ℚ) < den := Nat.cast_pos.2 hden
  have hupper : (2 : ℚ) * (roundDiv num den * den) ≤ 2 * num + den := by
    exact_mod_cast two_mul_roundDiv_le num den hden
  have hlower : (2 : ℚ) * num ≤ 2 * (roundDiv num den * den) + den := by
    exact_mod_cast le_two_mul_roundDiv num den hden
  have hscale : (num : ℚ) / den - roundDiv num den =
      (2 * num - 2 * (roundDiv num den * den)) / (2 * den) := by
    field_simp
  constructor
  · rw [hscale, abs_le]
    constructor
    · rw [le_div_iff₀ (by positivity)]
      linarith
    · rw [div_le_iff₀ (by positivity)]
      linarith
  · intro htie
    refine even_roundDiv hden ?_
    have htwo : (2 : ℚ) * den ≠ 0 := by positivity
    rw [hscale] at htie
    rcases eq_or_eq_neg_of_abs_eq htie with hhalf | hhalf
    · right
      have hcast : (2 : ℚ) * num = 2 * (roundDiv num den * den) + den := by
        linarith [(div_eq_iff htwo).1 hhalf]
      exact_mod_cast hcast
    · left
      have hcast : (2 : ℚ) * (roundDiv num den * den) = 2 * num + den := by
        linarith [(div_eq_iff htwo).1 hhalf]
      exact_mod_cast hcast

namespace Binary64

/-- The number that a finite double denotes. -/
def value : Binary64 → ℚ
  | .finite negative m e _ => if negative then -(m * 2 ^ e) else m * 2 ^ e
  | _ => 0

theorem abs_value (v : Binary64) : |v.value| = v.size := by
  cases v with
  | nan => exact abs_zero
  | infinite => exact abs_zero
  | finite negative m e h =>
    have hnonneg : (0 : ℚ) ≤ m * 2 ^ e := by positivity
    cases negative
    · exact abs_of_nonneg hnonneg
    · exact (abs_neg _).trans (abs_of_nonneg hnonneg)

theorem isFinite_neg (v : Binary64) : v.neg.isFinite = v.isFinite := by
  cases v <;> rfl

theorem value_neg (v : Binary64) : v.neg.value = -v.value := by
  cases v with
  | nan => exact neg_zero.symm
  | infinite => exact neg_zero.symm
  | finite negative m e h =>
    cases negative
    · rfl
    · exact (neg_neg _).symm

/-- A finite double is below zero exactly if its number is. -/
theorem isBelowZero_iff {v : Binary64} (hv : v.isFinite = true) :
    v.isBelowZero = true ↔ v.value < 0 := by
  cases v with
  | nan => cases hv
  | infinite => cases hv
  | finite negative m e h =>
    have hpow : (0 : ℚ) < 2 ^ e := by positivity
    cases negative with
    | false =>
      have hnonneg : (0 : ℚ) ≤ m * 2 ^ e := by positivity
      exact iff_of_false Bool.false_ne_true (not_lt.2 hnonneg)
    | true =>
      have hneg : (-(m * 2 ^ e) : ℚ) < 0 ↔ m ≠ 0 := by
        rw [neg_lt_zero, mul_pos_iff_of_pos_right hpow, Nat.cast_pos, Nat.pos_iff_ne_zero]
      exact bne_iff_ne.trans hneg.symm

/-- **The hundredths of a double.** -/
theorem nearestEven_hundredths (m : ℕ) (e : ℤ) :
    NearestEven (m * 2 ^ e * 100) (hundredths m e) := by
  have hratio : ((ratio m e).1 * 100 : ℕ) / ((ratio m e).2 : ℚ) = m * 2 ^ e * 100 := by
    rw [Nat.cast_mul, Nat.cast_ofNat, mul_div_right_comm, ratio_quotient]
  rw [← hratio]
  exact nearestEven_roundDiv _ (scaled_snd_pos Nat.one_pos _ _)

end Binary64

end BillingConsole
