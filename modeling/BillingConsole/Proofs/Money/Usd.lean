import BillingConsole.Proofs.Money.Grouping
import BillingConsole.Proofs.Number.Digits
import BillingConsole.Proofs.Number.Hundredths

/-!
# Amounts in dollars

An amount in dollars shows the hundredths of a double: the sign, the whole dollars in groups of
three digits, and the cents.

## What is here

* `IsAmount` — how a number of cents is written; `shownCents`, `withoutSign` — an amount read back.
* `Binary64.cents`, `nearestEven_cents`, `signedCents_le` — the cents of a finite double, and their
  order.
* `toList_usd` — the text of an amount, from its cents.
* `showsNearestCents` — **an amount shows the nearest number of cents**, with the sign of the
  double, and never less for a larger double.
-/

set_option autoImplicit false

namespace BillingConsole

/-! ## The text of an amount -/

/-- How a number of cents is written in dollars: the minus sign of a negative amount, the sign of
the currency, the whole dollars without leading zeros and with commas between groups of three
digits, a point and two digits. -/
def IsAmount (negative : Prop) [Decidable negative] (cents : ℕ) (text : String) : Prop :=
  ∃ groups, Grouping groups (Nat.toDigits 10 (cents / 100)) ∧
    text.toList = (if negative then ['-'] else []) ++ '$' :: [','].intercalate groups ++
      ['.', Nat.digitChar (cents % 100 / 10), Nat.digitChar (cents % 10)]

/-- The number of cents that an amount shows: its digits, with its sign. -/
def shownCents (text : String) : ℤ :=
  let cents : ℤ := readDigits (text.toList.filter Char.isDigit)
  if text.toList.head? = some '-' then -cents else cents

/-- An amount without its sign. -/
def withoutSign (text : String) : List Char :=
  match text.toList with
  | '-' :: rest => rest
  | unsigned => unsigned

/-- The whole dollars in groups, a point and two digits. -/
def dollars (cents : ℕ) : List Char :=
  groupDigits ',' (digits10 (cents / 100)) ++ '.' :: padded10 2 (cents % 100)

theorem groupThousands_hundredthsText (cents : ℕ) :
    groupThousands ',' (Binary64.hundredthsText cents) = dollars cents := by
  have hdigits : ∀ c : Char, c.isDigit = false → c ∉ digits10 (cents / 100) := fun c hc hmem => by
    rw [isDigit_of_mem_digits10 hmem] at hc
    cases hc
  exact groupThousands_of_point (hdigits '-' rfl) (hdigits '.' rfl)

/-- The digits of an amount are those of its cents. -/
theorem readDigits_dollars (cents : ℕ) :
    readDigits ((dollars cents).filter Char.isDigit) = cents := by
  have hwhole : (groupDigits ',' (digits10 (cents / 100))).filter Char.isDigit =
      digits10 (cents / 100) :=
    filter_groupDigits rfl fun c hc => isDigit_of_mem_digits10 hc
  have hfraction : (padded10 2 (cents % 100)).filter Char.isDigit = padded10 2 (cents % 100) :=
    List.filter_eq_self.2 fun c hc => isDigit_of_mem_padded10 hc
  have hlength : (padded10 2 (cents % 100)).length = 2 :=
    length_padded10 Nat.two_pos (Nat.mod_lt _ (by decide))
  rw [dollars, List.filter_append, List.filter_cons_of_neg (by decide), hwhole, hfraction,
    readDigits_append, readDigits_digits10, readDigits_padded10, hlength]
  exact Nat.div_add_mod' cents 100

theorem dollars_injective : Function.Injective dollars := fun a b h => by
  rw [← readDigits_dollars a, h, readDigits_dollars]

theorem isAmount_of_toList {negative : Prop} [Decidable negative] {cents : ℕ} {text : String}
    (h : text.toList = (if negative then ['-'] else []) ++ '$' :: dollars cents) :
    IsAmount negative cents text := by
  obtain ⟨groups, grouping, heq⟩ := exists_grouping ',' (digits10 (cents / 100))
  refine ⟨groups, grouping, ?_⟩
  rw [h, dollars, heq, padded10_two (Nat.mod_lt _ (by decide)), Nat.mod_mod_of_dvd _ (by decide),
    List.append_assoc, List.cons_append]

/-! ## The cents of a double -/

namespace Binary64

/-- The hundredths of the size of a finite double. -/
def cents : Binary64 → ℕ
  | .finite _ m e _ => hundredths m e
  | _ => 0

variable {v w : Binary64}

theorem nearestEven_cents (hv : v.isFinite = true) : NearestEven (|v.value| * 100) v.cents := by
  rw [abs_value]
  cases v with
  | nan => cases hv
  | infinite => cases hv
  | finite negative m e h => exact nearestEven_hundredths m e

theorem twoPlaces_magnitude (hv : v.isFinite = true) :
    v.magnitude.twoPlaces = hundredthsText v.cents := by
  cases v with
  | nan => cases hv
  | infinite => cases hv
  | finite negative m e h => rfl

/-- The cents with the sign of the double. -/
def signedCents (v : Binary64) : ℤ := if v.value < 0 then -v.cents else v.cents

/-- **A larger double does not have fewer cents.** -/
theorem signedCents_le (hv : v.isFinite = true) (hw : w.isFinite = true) (h : v.value ≤ w.value) :
    v.signedCents ≤ w.signedCents := by
  have hvcents := nearestEven_cents hv
  have hwcents := nearestEven_cents hw
  rw [signedCents, signedCents]
  by_cases hwneg : w.value < 0
  · have hvneg : v.value < 0 := lt_of_le_of_lt h hwneg
    rw [abs_of_neg hvneg] at hvcents
    rw [abs_of_neg hwneg] at hwcents
    have hle : w.cents ≤ v.cents := hwcents.le hvcents (by linarith)
    rw [if_pos hvneg, if_pos hwneg]
    omega
  · rw [if_neg hwneg]
    by_cases hvneg : v.value < 0
    · rw [if_pos hvneg]
      omega
    · rw [abs_of_nonneg (not_lt.1 hvneg)] at hvcents
      rw [abs_of_nonneg (not_lt.1 hwneg)] at hwcents
      have hle : v.cents ≤ w.cents := hvcents.le hwcents (by linarith)
      rw [if_neg hvneg]
      omega

end Binary64

/-! ## An amount shows the cents of a double -/

section Usd

variable {v : Binary64}

/-- The text of an amount, from its cents. -/
theorem toList_usd (hv : v.isFinite = true) :
    (usd v).toList =
      (if v.value < 0 ∧ 0 < v.cents then ['-'] else []) ++ '$' :: dollars v.cents := by
  have hgrouped : groupThousands ',' v.magnitude.twoPlaces = dollars v.cents := by
    rw [Binary64.twoPlaces_magnitude hv, groupThousands_hundredthsText]
  have hnothing : dollars v.cents ≠ "0.00".toList ↔ 0 < v.cents := by
    rw [Nat.pos_iff_ne_zero]
    exact not_congr (dollars_injective.eq_iff' rfl)
  have hsign := (Binary64.isBelowZero_iff hv).and hnothing
  rw [usd, hgrouped]
  by_cases hneg : v.value < 0 ∧ 0 < v.cents
  · rw [if_pos hneg, if_pos (hsign.2 hneg), String.toList_ofList]
    rfl
  · rw [if_neg hneg, if_neg (mt hsign.1 hneg), String.toList_ofList]
    rfl

theorem withoutSign_usd (hv : v.isFinite = true) :
    withoutSign (usd v) = '$' :: dollars v.cents := by
  rw [withoutSign, toList_usd hv]
  split_ifs <;> rfl

theorem shownCents_usd (hv : v.isFinite = true) : shownCents (usd v) = v.signedCents := by
  have hdigits : (usd v).toList.filter Char.isDigit = (dollars v.cents).filter Char.isDigit := by
    rw [toList_usd hv]
    split_ifs <;> rfl
  have hhead : (usd v).toList.head? = some '-' ↔ v.value < 0 ∧ 0 < v.cents := by
    rw [toList_usd hv]
    split_ifs with hneg
    · exact iff_of_true rfl hneg
    · exact iff_of_false (fun h => absurd (Option.some.inj h) (by decide)) hneg
  rw [shownCents, hdigits, readDigits_dollars, Binary64.signedCents]
  by_cases hbelow : v.value < 0
  · -- without a sign there is nothing to negate
    simp only [hhead, hbelow, true_and, if_true]
    split_ifs <;> omega
  · simp only [hhead, hbelow, false_and, if_false]

/-- What an amount shows of a double. -/
structure ShowsNearestCents (v : Binary64) : Prop where
  /-- The one number of cents that is nearest to the size of the double, the even one of two that
  are equally near, is written in full, with a minus sign if the double is below zero and there are
  cents at all. -/
  nearest : ∃ cents : ℕ, (∀ n : ℕ, NearestEven (|v.value| * 100) n ↔ n = cents) ∧
    IsAmount (v.value < 0 ∧ 0 < cents) cents (usd v) ∧
    shownCents (usd v) = if v.value < 0 then -(cents : ℤ) else cents
  /-- The amount of the opposite number differs in the sign at most. -/
  opposite : v.neg.value = -v.value ∧ withoutSign (usd v.neg) = withoutSign (usd v)
  /-- A larger double does not show a smaller amount. -/
  monotone : ∀ w : Binary64, w.isFinite = true → v.value ≤ w.value →
    shownCents (usd v) ≤ shownCents (usd w)

/-- **An amount shows the nearest number of cents.** -/
theorem showsNearestCents (hv : v.isFinite = true) : ShowsNearestCents v where
  nearest := by
    have hnear := Binary64.nearestEven_cents hv
    exact ⟨v.cents, fun n => ⟨fun hn => hn.unique hnear, fun hn => hn ▸ hnear⟩,
      isAmount_of_toList (toList_usd hv), shownCents_usd hv⟩
  opposite := by
    have hneg : v.neg.isFinite = true := (Binary64.isFinite_neg v).trans hv
    have hcents : v.neg.cents = v.cents := by
      have hnear := Binary64.nearestEven_cents hneg
      rw [Binary64.value_neg, abs_neg] at hnear
      exact hnear.unique (Binary64.nearestEven_cents hv)
    rw [withoutSign_usd hneg, withoutSign_usd hv, hcents]
    exact ⟨Binary64.value_neg v, rfl⟩
  monotone := fun w hw hle => by
    rw [shownCents_usd hv, shownCents_usd hw]
    exact Binary64.signedCents_le hv hw hle

/-- Owing 999.995, of which the last half cent carries into a new group. -/
def owedAlmostThousand : Binary64 := .finite true 8796049041742889 (-43) (by decide)

theorem showsNearestCents_carry : owedAlmostThousand.isFinite = true ∧
    ShowsNearestCents owedAlmostThousand ∧ usd owedAlmostThousand = "-$1,000.00" :=
  ⟨rfl, showsNearestCents rfl, by decide⟩

end Usd

end BillingConsole
