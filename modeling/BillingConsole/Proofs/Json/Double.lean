import BillingConsole.Json.Decoder
import BillingConsole.Proofs.Number.Finite

/-!
# Doubles that are read are finite

A number too large for a double is refused, so no text is read as an infinity or as NaN.  The
powers of ten a significand is multiplied or divided by are themselves rounded; still, dividing
keeps a double finite, and a product is looked at before it is taken.

## What is here

* `isFinite_tenPower`, `one_le_size_tenPower` — the powers of ten among the doubles.
* `isFinite_of_scaleByTen?` — a significand times a power of ten.
* `isFinite_of_double` — **a double that is read is finite.**
-/

set_option autoImplicit false

namespace BillingConsole.Json

/-! ## Powers of ten -/

/-- Whole numbers up to the largest power of ten are within the format. -/
theorem natCast_le_largest {n : ℕ} (h : n ≤ Nat.pow 10 largestTenPower) :
    (n : ℚ) / (1 : ℕ) ≤ Binary64.largest := by
  have hlargest : Nat.pow 10 largestTenPower ≤ (Nat.pow 2 53 - 1) * Nat.pow 2 (971 : ℤ).toNat := by
    decide +kernel
  rw [Nat.cast_one, div_one, Binary64.largest, ← Binary64.two_zpow_toNat (by decide),
    ← Nat.cast_mul, Nat.cast_le]
  exact h.trans hlargest

theorem isFinite_ofNat {n : ℕ} (h : n ≤ Nat.pow 10 largestTenPower) :
    (Binary64.ofNat n).isFinite = true :=
  Binary64.isFinite_ofRatio false Nat.one_pos (natCast_le_largest h)

theorem tenPower_le {n : ℕ} (h : n ≤ largestTenPower) :
    Nat.pow 10 n ≤ Nat.pow 10 largestTenPower := by
  rw [Nat.pow_eq, Nat.pow_eq]
  exact Nat.pow_le_pow_right (by decide) h

theorem one_le_size_tenPower {n : ℕ} (h : n ≤ largestTenPower) : 1 ≤ (tenPower n).size := by
  refine Binary64.one_le_size_ofRatio false Nat.one_pos (natCast_le_largest (tenPower_le h)) ?_
  rw [Nat.cast_one, div_one, Nat.one_le_cast]
  exact Nat.pow_pos (by decide)

/-! ## Significands -/

/-- Appending digits keeps a significand in 64 bits. -/
theorem appendDigits_lt {significand : ℕ} (h : significand < wordLimit) (digits : List Char) :
    (appendDigits significand digits).1 < wordLimit := by
  induction digits generalizing significand with
  | nil => exact h
  | cons c rest ih =>
    rw [appendDigits]
    split
    · next hfits => exact ih hfits
    · exact h

theorem wordLimit_le : wordLimit ≤ Nat.pow 10 largestTenPower := by decide +kernel

theorem isFinite_shrink {d : Binary64} (hd : d.isFinite = true) (times : ℕ) :
    (shrink times d).isFinite = true := by
  induction times generalizing d with
  | zero => exact hd
  | succ times ih =>
    rw [shrink]
    split
    · exact hd
    · exact ih (Binary64.isFinite_div hd (one_le_size_tenPower le_rfl))

/-- A significand times a power of ten is finite or refused. -/
theorem isFinite_of_scaleByTen? {significand : ℕ} (hlt : significand < wordLimit) {exponent : ℤ}
    {d : Binary64} (h : scaleByTen? significand exponent = some d) : d.isFinite = true := by
  have hfinite := isFinite_ofNat (hlt.le.trans wordLimit_le)
  rw [scaleByTen?] at h
  dsimp only at h
  split at h
  · cases h
    refine Binary64.isFinite_div (isFinite_shrink hfinite _) (one_le_size_tenPower ?_)
    have hrest := Nat.mod_lt (exponent.natAbs - 1) (show 0 < largestTenPower by decide)
    have hdivision := Nat.div_add_mod' (exponent.natAbs - 1) largestTenPower
    omega
  · split at h
    · split at h
      · next hproduct =>
        cases h
        exact hproduct
      · cases h
    · split at h
      · cases h
        exact hfinite
      · cases h

theorem isFinite_neg (d : Binary64) : d.neg.isFinite = d.isFinite := by
  cases d <;> rfl

theorem isFinite_of_double? {literal : NumberLiteral} {d : Binary64}
    (h : literal.double? = some d) : d.isFinite = true := by
  rw [NumberLiteral.double?] at h
  dsimp only at h
  rw [Option.map_eq_some_iff] at h
  obtain ⟨magnitude, hmagnitude, rfl⟩ := h
  have hfinite : magnitude.isFinite = true := by
    split at hmagnitude
    · split at hmagnitude
      · cases hmagnitude
      · cases hmagnitude
        rfl
    · exact isFinite_of_scaleByTen? (appendDigits_lt (appendDigits_lt (by decide) _) _) hmagnitude
  split
  · rw [isFinite_neg, hfinite]
  · exact hfinite

/-! ## Numbers -/

/-- An integer that is read has at most 64 bits. -/
theorem natAbs_lt_of_integer? {literal : NumberLiteral} {n : ℤ} (h : literal.integer? = some n) :
    n.natAbs < wordLimit := by
  rw [NumberLiteral.integer?] at h
  have hbound : Nat.pow 2 63 < wordLimit := by decide
  split at h
  · cases h
  · split at h
    · split at h
      · cases h
        omega
      · cases h
    · split at h
      · cases h
        omega
      · cases h

/-- **A double that is read is finite.** -/
theorem isFinite_of_double {tree : Tree} {d : Binary64} (h : double tree = .ok d) :
    d.isFinite = true := by
  cases tree with
  | number literal =>
    rw [double, NumberLiteral.numeral] at h
    cases hinteger : literal.integer? with
    | some n =>
      rw [hinteger] at h
      cases h
      exact Binary64.isFinite_ofRatio _ Nat.one_pos
        (natCast_le_largest ((natAbs_lt_of_integer? hinteger).le.trans wordLimit_le))
    | none =>
      cases hdouble : literal.double? with
      | some value =>
        rw [hinteger, hdouble] at h
        cases h
        exact isFinite_of_double? hdouble
      | none =>
        rw [hinteger, hdouble] at h
        cases h
  | null | bool | array | object | broken | string => cases h

end BillingConsole.Json
