import BillingConsole.Number.Binary64
import Mathlib.Algebra.Order.Field.Power
import Mathlib.Data.Nat.Cast.Order.Field
import Mathlib.Data.Rat.Cast.Order
import Mathlib.Tactic.FieldSimp
import Mathlib.Tactic.GCongr
import Mathlib.Tactic.Linarith
import Mathlib.Tactic.NormNum
import Mathlib.Tactic.Positivity
import Mathlib.Tactic.Ring

/-!
# What is rounded stays finite

A quotient that is not above the largest double is rounded to a finite double.  So is a finite
double that is divided by one that is at least one.

## What is here

* `Binary64.size` — the size of a finite double as a rational number.
* `scaled_quotient` — scaling multiplies a quotient by a power of two.
* `exponentFor_spec` — **the exponent of a quotient leaves it a significand of 53 bits**, or of
  fewer at the smallest exponent.
* `significandFor` — the significand it is rounded to.
* `Binary64.exists_ofRatio` — **a quotient within the format is rounded to a finite double.**
* `Binary64.isFinite_div` — dividing by one or more keeps a double finite.
-/

set_option autoImplicit false

namespace BillingConsole.Binary64

/-! ## Scaling -/

theorem two_zpow_toNat {e : ℤ} (he : 0 ≤ e) : ((Nat.pow 2 e.toNat : ℕ) : ℚ) = 2 ^ e := by
  rw [Nat.pow_eq, Nat.cast_pow, Nat.cast_ofNat, ← zpow_natCast, Int.toNat_of_nonneg he]

theorem scaled_snd_pos {den : ℕ} (hden : 0 < den) (num : ℕ) (e : ℤ) : 0 < (scaled num den e).2 := by
  rw [scaled]
  split
  · exact hden
  · exact Nat.mul_pos hden (Nat.pow_pos Nat.two_pos)

/-- Scaling multiplies a quotient by a power of two. -/
theorem scaled_quotient (num den : ℕ) (e : ℤ) :
    ((scaled num den e).1 : ℚ) / (scaled num den e).2 = num / den * 2 ^ (-e) := by
  rw [scaled]
  split
  · next he =>
    dsimp only
    rw [Nat.cast_mul, two_zpow_toNat (Int.neg_nonneg_of_nonpos he), div_mul_eq_mul_div]
  · next he =>
    dsimp only
    rw [Nat.cast_mul, two_zpow_toNat (Int.le_of_lt (Int.lt_of_not_ge he)), zpow_neg,
      ← div_eq_mul_inv, div_div]

/-- A scaled quotient is below a whole number exactly when the quotient is below its multiple. -/
theorem scaled_lt_iff {num den : ℕ} (hden : 0 < den) (e : ℤ) (bound : ℕ) :
    (scaled num den e).1 < bound * (scaled num den e).2 ↔ (num : ℚ) / den < bound * 2 ^ e := by
  have hd : (0 : ℚ) < (scaled num den e).2 := Nat.cast_pos.2 (scaled_snd_pos hden num e)
  rw [← Nat.cast_lt (α := ℚ), Nat.cast_mul, ← div_lt_iff₀ hd, scaled_quotient, zpow_neg,
    ← div_eq_mul_inv, div_lt_iff₀ (by positivity)]

theorem scaled_le_iff {num den : ℕ} (hden : 0 < den) (e : ℤ) (bound : ℕ) :
    (scaled num den e).1 ≤ bound * (scaled num den e).2 ↔ (num : ℚ) / den ≤ bound * 2 ^ e := by
  have hd : (0 : ℚ) < (scaled num den e).2 := Nat.cast_pos.2 (scaled_snd_pos hden num e)
  rw [← Nat.cast_le (α := ℚ), Nat.cast_mul, ← div_le_iff₀ hd, scaled_quotient, zpow_neg,
    ← div_eq_mul_inv, div_le_iff₀ (by positivity)]

/-! ## The exponent of a quotient -/

/-- The binary sizes of numerator and denominator tell the size of a quotient up to a factor of
four. -/
theorem log2_quotient {num den : ℕ} (hnum : 0 < num) (hden : 0 < den) :
    (2 : ℚ) ^ ((num.log2 : ℤ) - den.log2 - 1) < num / den ∧
      (num : ℚ) / den < 2 ^ ((num.log2 : ℤ) - den.log2 + 1) := by
  have hden' : (0 : ℚ) < den := Nat.cast_pos.2 hden
  have hnumlow : (2 : ℚ) ^ (num.log2 : ℤ) ≤ num := by
    rw [zpow_natCast]
    exact_mod_cast Nat.log2_self_le hnum.ne'
  have hnumhigh : (num : ℚ) < 2 ^ ((num.log2 : ℤ) + 1) := by
    rw [← Nat.cast_succ, zpow_natCast]
    exact_mod_cast Nat.lt_log2_self
  have hdenlow : (2 : ℚ) ^ (den.log2 : ℤ) ≤ den := by
    rw [zpow_natCast]
    exact_mod_cast Nat.log2_self_le hden.ne'
  have hdenhigh : (den : ℚ) < 2 ^ ((den.log2 : ℤ) + 1) := by
    rw [← Nat.cast_succ, zpow_natCast]
    exact_mod_cast Nat.lt_log2_self
  constructor
  · rw [lt_div_iff₀ hden']
    calc (2 : ℚ) ^ ((num.log2 : ℤ) - den.log2 - 1) * den
        < 2 ^ ((num.log2 : ℤ) - den.log2 - 1) * 2 ^ ((den.log2 : ℤ) + 1) := by gcongr
      _ = 2 ^ (num.log2 : ℤ) := by
        rw [← zpow_add₀ two_ne_zero]
        congr 1
        ring
      _ ≤ num := hnumlow
  · rw [div_lt_iff₀ hden']
    calc (num : ℚ) < 2 ^ ((num.log2 : ℤ) + 1) := hnumhigh
      _ = 2 ^ ((num.log2 : ℤ) - den.log2 + 1) * 2 ^ (den.log2 : ℤ) := by
        rw [← zpow_add₀ two_ne_zero]
        congr 1
        ring
      _ ≤ 2 ^ ((num.log2 : ℤ) - den.log2 + 1) * den := by gcongr

/-- At an exponent that is 53 below the difference of the binary sizes a quotient has 53 or 54
bits, so at that exponent or at the next one it has 53. -/
theorem exists_exponentFor_eq_max {num den : ℕ} (hnum : 0 < num) (hden : 0 < den) :
    ∃ natural : ℤ, exponentFor num den = max (-1074) natural ∧
      (num : ℚ) / den < 2 ^ 53 * 2 ^ natural ∧ (2 : ℚ) ^ 52 * 2 ^ natural ≤ num / den := by
  obtain ⟨hlow, hhigh⟩ := log2_quotient hnum hden
  have hpow (k : ℕ) (e : ℤ) : (2 : ℚ) ^ k * 2 ^ e = 2 ^ (k + e) := by
    rw [zpow_add₀ two_ne_zero, zpow_natCast]
  have hiff : (scaled num den ((num.log2 : ℤ) - den.log2 - 53)).1 /
        (scaled num den ((num.log2 : ℤ) - den.log2 - 53)).2 < Nat.pow 2 53 ↔
      (num : ℚ) / den < 2 ^ 53 * 2 ^ ((num.log2 : ℤ) - den.log2 - 53) := by
    rw [Nat.div_lt_iff_lt_mul (scaled_snd_pos hden num _), scaled_lt_iff hden]
    norm_num
  rw [exponentFor]
  dsimp only
  by_cases hfits : (scaled num den ((num.log2 : ℤ) - den.log2 - 53)).1 /
      (scaled num den ((num.log2 : ℤ) - den.log2 - 53)).2 < Nat.pow 2 53
  · refine ⟨(num.log2 : ℤ) - den.log2 - 53, by rw [if_pos hfits], hiff.1 hfits, ?_⟩
    calc (2 : ℚ) ^ 52 * 2 ^ ((num.log2 : ℤ) - den.log2 - 53)
        = 2 ^ ((num.log2 : ℤ) - den.log2 - 1) := by
          rw [hpow]
          congr 1
          push_cast
          ring
      _ ≤ num / den := hlow.le
  · refine ⟨(num.log2 : ℤ) - den.log2 - 53 + 1, by rw [if_neg hfits], ?_, ?_⟩
    · calc (num : ℚ) / den < 2 ^ ((num.log2 : ℤ) - den.log2 + 1) := hhigh
        _ = 2 ^ 53 * 2 ^ ((num.log2 : ℤ) - den.log2 - 53 + 1) := by
          rw [hpow]
          congr 1
          push_cast
          ring
    · calc (2 : ℚ) ^ 52 * (2 : ℚ) ^ ((num.log2 : ℤ) - den.log2 - 53 + 1)
          = (2 : ℚ) ^ 53 * (2 : ℚ) ^ ((num.log2 : ℤ) - den.log2 - 53) := by
            rw [hpow, hpow]
            congr 1
            push_cast
            ring
        _ ≤ (num : ℚ) / den := not_lt.1 fun h => hfits (hiff.2 h)

/-- **The exponent of a quotient leaves it a significand of 53 bits**, or of fewer at the smallest
exponent. -/
theorem exponentFor_spec {num den : ℕ} (hnum : 0 < num) (hden : 0 < den) :
    (num : ℚ) / den < 2 ^ 53 * 2 ^ exponentFor num den ∧ -1074 ≤ exponentFor num den ∧
      (exponentFor num den = -1074 ∨ (2 : ℚ) ^ 52 * 2 ^ exponentFor num den ≤ num / den) := by
  obtain ⟨natural, hmax, hbelow, habove⟩ := exists_exponentFor_eq_max hnum hden
  rw [hmax]
  refine ⟨?_, le_max_left _ _, ?_⟩
  · calc (num : ℚ) / den < 2 ^ 53 * 2 ^ natural := hbelow
      _ ≤ 2 ^ 53 * 2 ^ max (-1074) natural := by
        gcongr
        · norm_num
        · exact le_max_right _ _
  · rcases max_choice (-1074) natural with heq | heq
    · exact .inl heq
    · exact .inr (by rw [heq]; exact habove)

/-! ## Rounding -/

/-- Rounding does not go beyond a whole number above the quotient. -/
theorem roundDiv_le {n d bound : ℕ} (hd : 0 < d) (h : n ≤ bound * d) : roundDiv n d ≤ bound := by
  have htwice := two_mul_roundDiv_le n d hd
  by_contra hlt
  have hnext : (bound + 1) * d ≤ roundDiv n d * d := Nat.mul_le_mul_right d (Nat.lt_of_not_le hlt)
  rw [Nat.add_mul, Nat.one_mul] at hnext
  omega

/-- Nor below one that is not above the quotient. -/
theorem le_roundDiv {n d bound : ℕ} (hd : 0 < d) (h : bound * d ≤ n) : bound ≤ roundDiv n d := by
  have htwice := le_two_mul_roundDiv n d hd
  by_contra hlt
  have hnext : (roundDiv n d + 1) * d ≤ bound * d := Nat.mul_le_mul_right d (Nat.lt_of_not_le hlt)
  rw [Nat.add_mul, Nat.one_mul] at hnext
  omega

/-- The size of a finite double. -/
def size : Binary64 → ℚ
  | .finite _ m e _ => m * 2 ^ e
  | _ => 0

theorem size_nonneg (d : Binary64) : 0 ≤ d.size := by
  cases d with
  | nan => exact le_rfl
  | infinite => exact le_rfl
  | finite negative m e h => exact mul_nonneg (Nat.cast_nonneg m) (by positivity)

/-- The size of the largest double. -/
def largest : ℚ := (Nat.pow 2 53 - 1 : ℕ) * 2 ^ (971 : ℤ)

theorem size_le_largest (d : Binary64) : d.size ≤ largest := by
  have hpos : 0 ≤ largest := mul_nonneg (Nat.cast_nonneg _) (by positivity)
  cases d with
  | nan => exact hpos
  | infinite => exact hpos
  | finite negative m e h =>
    obtain ⟨hm, -, he, -⟩ := h
    have hm' : (m : ℚ) ≤ (Nat.pow 2 53 - 1 : ℕ) := Nat.cast_le.2 (Nat.le_sub_one_of_lt hm)
    have he' : (2 : ℚ) ^ e ≤ 2 ^ (971 : ℤ) := zpow_le_zpow_right₀ one_le_two he
    exact mul_le_mul hm' he' (by positivity) (Nat.cast_nonneg _)

section

variable {num den : ℕ}

/-- A quotient within the format has an exponent the format has. -/
theorem exponentFor_le (hnum : 0 < num) (hden : 0 < den) (h : (num : ℚ) / den ≤ largest) :
    exponentFor num den ≤ 971 := by
  by_contra hlt
  have hgreat : (972 : ℤ) ≤ exponentFor num den := by omega
  have hleast := (exponentFor_spec hnum hden).2.2.resolve_left (by omega)
  have hpow : (2 : ℚ) ^ (972 : ℤ) ≤ 2 ^ exponentFor num den :=
    zpow_le_zpow_right₀ (by norm_num) hgreat
  have hcontra : (2 : ℚ) ^ 52 * (2 : ℚ) ^ (972 : ℤ) ≤ largest :=
    (mul_le_mul_of_nonneg_left hpow (by positivity)).trans (hleast.trans h)
  have hpos : (0 : ℚ) < 2 ^ (971 : ℤ) := by positivity
  rw [largest, show (972 : ℤ) = 971 + 1 from rfl, zpow_add_one₀ two_ne_zero] at hcontra
  generalize (2 : ℚ) ^ (971 : ℤ) = power at hcontra hpos
  norm_num at hcontra
  linarith

/-- The significand a quotient is rounded to. -/
def significandFor (num den : ℕ) : ℕ :=
  roundDiv (scaled num den (exponentFor num den)).1 (scaled num den (exponentFor num den)).2

theorem ofRatio_eq (negative : Bool) (hnum : 0 < num) :
    ofRatio negative num den =
      if significandFor num den = Nat.pow 2 53 then
        pack negative (Nat.pow 2 52) (exponentFor num den + 1)
      else pack negative (significandFor num den) (exponentFor num den) :=
  if_neg hnum.ne'

theorem significandFor_le (hnum : 0 < num) (hden : 0 < den) :
    significandFor num den ≤ Nat.pow 2 53 := by
  have hbelow := (exponentFor_spec hnum hden).1
  refine roundDiv_le (scaled_snd_pos hden num _) ((scaled_le_iff hden _ _).2 ?_)
  rw [Nat.pow_eq, Nat.cast_pow, Nat.cast_ofNat]
  exact hbelow.le

/-- The significand uses the bits there are. -/
theorem le_significandFor (hnum : 0 < num) (hden : 0 < den) :
    Nat.pow 2 52 ≤ significandFor num den ∨ exponentFor num den = -1074 := by
  rcases (exponentFor_spec hnum hden).2.2 with hleast | hleast
  · exact .inr hleast
  · refine .inl (le_roundDiv (scaled_snd_pos hden num _) (Nat.le_of_not_lt fun hlt => ?_))
    have hlt' := (scaled_lt_iff hden _ _).1 hlt
    rw [Nat.pow_eq, Nat.cast_pow, Nat.cast_ofNat] at hlt'
    exact absurd hleast (not_le.2 hlt')

/-- At the largest exponent rounding does not carry, as the largest double is a whole multiple of
its power of two. -/
theorem significandFor_ne (hden : 0 < den) (h : (num : ℚ) / den ≤ largest)
    (hexponent : exponentFor num den = 971) : significandFor num den ≠ Nat.pow 2 53 := by
  intro hcarry
  have hle : roundDiv (scaled num den 971).1 (scaled num den 971).2 ≤ Nat.pow 2 53 - 1 :=
    roundDiv_le (scaled_snd_pos hden num 971) ((scaled_le_iff hden _ _).2 h)
  rw [significandFor, hexponent] at hcarry
  rw [hcarry] at hle
  exact absurd hle (by decide)

end

/-- **A quotient within the format is rounded to a finite double**, with a significand that uses
the bits there are. -/
theorem exists_ofRatio (negative : Bool) {num den : ℕ} (hden : 0 < den)
    (h : (num : ℚ) / den ≤ largest) :
    ∃ m e canonical, ofRatio negative num den = .finite negative m e canonical ∧
      (num : ℚ) / den < 2 ^ 53 * 2 ^ e := by
  rcases Nat.eq_zero_or_pos num with rfl | hnum
  · refine ⟨0, -1074, by decide, rfl, ?_⟩
    rw [Nat.cast_zero, zero_div]
    positivity
  obtain ⟨hbelow, hsmallest, -⟩ := exponentFor_spec hnum hden
  have hlargest := exponentFor_le hnum hden h
  rw [ofRatio_eq negative hnum]
  split
  · next hcarry =>
    have hnext : exponentFor num den + 1 ≤ 971 := by
      have hne : exponentFor num den ≠ 971 := fun heq => significandFor_ne hden h heq hcarry
      omega
    have hcanonical : Canonical (Nat.pow 2 52) (exponentFor num den + 1) :=
      ⟨by decide, by omega, hnext, .inl le_rfl⟩
    refine ⟨_, _, hcanonical, dif_pos hcanonical, hbelow.trans_le ?_⟩
    gcongr
    · norm_num
    · omega
  · next hkeep =>
    have hcanonical : Canonical (significandFor num den) (exponentFor num den) :=
      ⟨lt_of_le_of_ne (significandFor_le hnum hden) hkeep, hsmallest, hlargest,
        le_significandFor hnum hden⟩
    exact ⟨_, _, hcanonical, dif_pos hcanonical, hbelow⟩

theorem isFinite_ofRatio (negative : Bool) {num den : ℕ} (hden : 0 < den)
    (h : (num : ℚ) / den ≤ largest) : (ofRatio negative num den).isFinite = true := by
  obtain ⟨m, e, canonical, heq, -⟩ := exists_ofRatio negative hden h
  rw [heq]
  rfl

/-- A quotient that is at least one is not rounded below one. -/
theorem one_le_size_ofRatio (negative : Bool) {num den : ℕ} (hden : 0 < den)
    (h : (num : ℚ) / den ≤ largest) (hone : (1 : ℚ) ≤ num / den) :
    1 ≤ (ofRatio negative num den).size := by
  obtain ⟨m, e, canonical, heq, hbelow⟩ := exists_ofRatio negative hden h
  have hexponent : -53 < e := by
    rw [← zpow_lt_zpow_iff_right₀ (one_lt_two (α := ℚ)), zpow_neg,
      inv_lt_iff_one_lt_mul₀ (by positivity), mul_comm]
    exact hone.trans_lt hbelow
  have hbits : Nat.pow 2 52 ≤ m := canonical.2.2.2.resolve_right (by omega)
  have hbits' : (2 : ℚ) ^ (52 : ℤ) ≤ m := by exact_mod_cast hbits
  rw [heq]
  calc (1 : ℚ) ≤ 2 ^ (52 + e) := one_le_zpow₀ one_le_two (by omega)
    _ = 2 ^ (52 : ℤ) * 2 ^ e := zpow_add₀ two_ne_zero 52 e
    _ ≤ m * 2 ^ e := by gcongr

/-! ## Dividing -/

theorem ratio_quotient (m : ℕ) (e : ℤ) : ((ratio m e).1 : ℚ) / (ratio m e).2 = m * 2 ^ e := by
  rw [ratio, scaled_quotient, neg_neg, Nat.cast_one, div_one]

/-- Dividing by one or more keeps a double finite. -/
theorem isFinite_div {x y : Binary64} (hx : x.isFinite = true) (hy : 1 ≤ y.size) :
    (x / y).isFinite = true := by
  cases x with
  | nan => cases hx
  | infinite => cases hx
  | finite s m e hm =>
    cases y with
    | nan => exact absurd (show (1 : ℚ) ≤ 0 from hy) (by decide)
    | infinite => exact absurd (show (1 : ℚ) ≤ 0 from hy) (by decide)
    | finite t n f hn =>
      have hne : n ≠ 0 := by
        rintro rfl
        rw [size, Nat.cast_zero, zero_mul] at hy
        exact absurd hy (by decide)
      have hquotient :
          (((ratio m e).1 * (ratio n f).2 : ℕ) : ℚ) / ((ratio m e).2 * (ratio n f).1 : ℕ) =
            size (.finite s m e hm) / size (.finite t n f hn) := by
        rw [size, size, ← ratio_quotient, ← ratio_quotient, Nat.cast_mul, Nat.cast_mul,
          div_div_div_eq]
      have hpos : 0 < (ratio m e).2 * (ratio n f).1 := by
        refine Nat.mul_pos (scaled_snd_pos Nat.one_pos _ _) (Nat.pos_of_ne_zero fun hzero => ?_)
        have hsize := ratio_quotient n f
        rw [hzero, Nat.cast_zero, zero_div] at hsize
        rw [size, ← hsize] at hy
        exact absurd hy (by decide)
      have hle : size (.finite s m e hm) / size (.finite t n f hn) ≤ largest :=
        (div_le_self (size_nonneg _) hy).trans (size_le_largest _)
      show (div (.finite s m e hm) (.finite t n f hn)).isFinite = true
      rw [div, if_neg hne]
      exact isFinite_ofRatio _ hpos (hquotient ▸ hle)

end BillingConsole.Binary64
