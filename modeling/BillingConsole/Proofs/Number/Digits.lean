import BillingConsole.Number.Fixed
import BillingConsole.Number.Literal
import Mathlib.Algebra.Order.Ring.Nat
import Mathlib.Data.List.Induction
import Mathlib.Tactic.IntervalCases

/-!
# Decimal digits read back

A whole number is written with `digits10` or `padded10` and read with `readDigits`.  A run of digits
is a number as written if it has no zeros in front but those that fill the width.

## What is here

* `readDigits_digits10`, `readDigits_padded10` — reading undoes writing.
* `isDigit_of_mem_digits10`, `isDigit_of_mem_padded10`, `length_padded10` — what is written are
  digits, and how many.
* `readDigits_append`, `padded10_two` — digits before digits; a number below a hundred in two.
* `readDigits_lt`, `eq_of_readDigits_eq` — runs of digits of one length are told apart by their
  values; `padded10_readDigits` — **writing undoes reading.**
-/

set_option autoImplicit false

namespace BillingConsole

theorem readDigits_eq_ofDigitChars (digits : List Char) :
    readDigits digits = Nat.ofDigitChars 10 digits 0 := by
  rw [readDigits, Nat.ofDigitChars_eq_foldl]
  congr 1
  funext value c
  rw [Nat.mul_comm, digitValue]

theorem readDigits_digits10 (n : Nat) : readDigits (digits10 n) = n := by
  rw [readDigits_eq_ofDigitChars, digits10, Nat.ofDigitChars_ten_toDigits]

/-- Leading zeros do not count. -/
theorem readDigits_padded10 (width n : Nat) : readDigits (padded10 width n) = n := by
  rw [readDigits_eq_ofDigitChars, padded10, Nat.ofDigitChars_append,
    Nat.ofDigitChars_replicate_zero, Nat.mul_zero, ← readDigits_eq_ofDigitChars,
    readDigits_digits10]

theorem readDigits_append (front back : List Char) :
    readDigits (front ++ back) = readDigits front * 10 ^ back.length + readDigits back := by
  simp only [readDigits_eq_ofDigitChars]
  rw [Nat.ofDigitChars_append, Nat.ofDigitChars_eq_ofDigitChars_zero, Nat.mul_comm]

theorem isDigit_of_mem_digits10 {n : Nat} {c : Char} (h : c ∈ digits10 n) : c.isDigit = true :=
  Nat.isDigit_of_mem_toDigits (by decide) (by decide) h

theorem isDigit_of_mem_padded10 {width n : Nat} {c : Char} (h : c ∈ padded10 width n) :
    c.isDigit = true := by
  rw [padded10, List.mem_append] at h
  rcases h with h | h
  · rw [List.eq_of_mem_replicate h]
    rfl
  · exact isDigit_of_mem_digits10 h

theorem padded10_ne_nil (width n : Nat) : padded10 width n ≠ [] :=
  List.append_ne_nil_of_right_ne_nil _ Nat.toDigits_ne_nil

/-- A number that fits is written with as many digits as the width. -/
theorem length_padded10 {width n : Nat} (hwidth : 0 < width) (h : n < 10 ^ width) :
    (padded10 width n).length = width := by
  have hle : (digits10 n).length ≤ width := (Nat.length_toDigits_le_iff (by decide) hwidth).2 h
  rw [padded10, List.length_append, List.length_replicate]
  omega

/-- A number below a hundred in two digits. -/
theorem padded10_two {n : Nat} (h : n < 100) :
    padded10 2 n = [Nat.digitChar (n / 10), Nat.digitChar (n % 10)] := by
  decide +revert

/-- The digits of a number above zero do not start with zero. -/
theorem head?_digits10_ne {n : Nat} (hn : 0 < n) : (digits10 n).head? ≠ some '0' := by
  induction n using Nat.strongRecOn with
  | _ n ih =>
    by_cases hlt : n < 10
    · rw [digits10, Nat.toDigits_of_lt_base hlt]
      interval_cases n <;> decide
    · have hle : 10 ≤ n := Nat.le_of_not_lt hlt
      have hhead := ih (n / 10) (by omega) (by omega)
      rw [digits10, Nat.toDigits_of_base_le (by decide) hle]
      cases hdigits : Nat.toDigits 10 (n / 10) with
      | nil => exact absurd hdigits Nat.toDigits_ne_nil
      | cons c more =>
        rw [digits10, hdigits] at hhead
        exact hhead

/-! ## Runs of digits -/

theorem isDigit_bounds {c : Char} (h : c.isDigit = true) : 48 ≤ c.toNat ∧ c.toNat ≤ 57 := by
  simp only [Char.isDigit, Bool.and_eq_true, decide_eq_true_eq, ge_iff_le,
    UInt32.le_iff_toNat_le] at h
  exact h

/-- At least one decimal digit and nothing else. -/
structure IsNumber (digits : List Char) : Prop where
  ne_nil : digits ≠ []
  isDigit : ∀ c ∈ digits, c.isDigit = true

theorem isNumber_padded10 (width n : Nat) : IsNumber (padded10 width n) :=
  ⟨padded10_ne_nil width n, fun _ => isDigit_of_mem_padded10⟩

theorem readDigits_concat (digits : List Char) (c : Char) :
    readDigits (digits ++ [c]) = readDigits digits * 10 + digitValue c := by
  simp [readDigits]

theorem readDigits_lt {digits : List Char} (h : ∀ c ∈ digits, c.isDigit = true) :
    readDigits digits < 10 ^ digits.length := by
  induction digits using List.reverseRecOn with
  | nil => simp [readDigits]
  | append_singleton digits c ih =>
    have hdigits := ih fun x hx => h x (by simp [hx])
    have hc := isDigit_bounds (h c (by simp))
    have hvalue : digitValue c = c.toNat - 48 := rfl
    rw [readDigits_concat, List.length_append, List.length_singleton, Nat.pow_succ]
    omega

/-- Runs of digits of one length are told apart by their values. -/
theorem eq_of_readDigits_eq {s t : List Char} (hs : ∀ c ∈ s, c.isDigit = true)
    (ht : ∀ c ∈ t, c.isDigit = true) (hlength : s.length = t.length)
    (h : readDigits s = readDigits t) : s = t := by
  induction s using List.reverseRecOn generalizing t with
  | nil => exact (List.length_eq_zero_iff.1 hlength.symm).symm
  | append_singleton s c ih =>
    rcases List.eq_nil_or_concat t with rfl | ⟨t, d, rfl⟩
    · simp at hlength
    · rw [List.concat_eq_append] at *
      rw [readDigits_concat, readDigits_concat] at h
      have hc := isDigit_bounds (hs c (by simp))
      have hd := isDigit_bounds (ht d (by simp))
      have hvalues : digitValue c = c.toNat - 48 ∧ digitValue d = d.toNat - 48 := ⟨rfl, rfl⟩
      have hfront : s = t :=
        ih (fun x hx => hs x (by simp [hx])) (fun x hx => ht x (by simp [hx])) (by simpa using hlength)
          (by omega)
      have hlast : c = d := Char.toNat_inj.1 (by omega)
      rw [hfront, hlast]

/-- A first digit other than zero counts with its place. -/
theorem pow_le_readDigits {c : Char} {rest : List Char} (hc : c.isDigit = true) (hne : c ≠ '0') :
    10 ^ rest.length ≤ readDigits (c :: rest) := by
  have hfirst : 0 < digitValue c := by
    have hbounds := isDigit_bounds hc
    have hzero : c.toNat ≠ 48 := fun heq => hne (Char.toNat_inj.1 heq)
    show 0 < c.toNat - 48
    omega
  have hvalue : readDigits (c :: rest) = digitValue c * 10 ^ rest.length + readDigits rest := by
    rw [← List.singleton_append, readDigits_append]
    simp [readDigits]
  rw [hvalue]
  exact (Nat.le_mul_of_pos_left _ hfirst).trans (Nat.le_add_right _ _)

/-- **Writing undoes reading** where no zeros stand in front but those that fill the width. -/
theorem padded10_readDigits {width : Nat} {digits : List Char} (h : IsNumber digits)
    (hwidth : digits.length = width ∨ width < digits.length ∧ digits.head? ≠ some '0') :
    padded10 width (readDigits digits) = digits := by
  have hlt := readDigits_lt h.isDigit
  have hpos : 0 < digits.length := List.length_pos_iff.2 h.ne_nil
  refine eq_of_readDigits_eq (fun _ => isDigit_of_mem_padded10) h.isDigit ?_
    (readDigits_padded10 _ _)
  rcases hwidth with rfl | ⟨hlonger, hhead⟩
  · exact length_padded10 hpos hlt
  · have hle : (digits10 (readDigits digits)).length ≤ digits.length :=
      (Nat.length_toDigits_le_iff (by decide) hpos).2 hlt
    have hge : digits.length ≤ (digits10 (readDigits digits)).length := by
      obtain ⟨c, rest, rfl⟩ := List.exists_cons_of_ne_nil h.ne_nil
      have hbig : 10 ^ rest.length ≤ readDigits (c :: rest) :=
        pow_le_readDigits (h.isDigit c (by simp)) (by simpa using hhead)
      rcases Nat.eq_zero_or_pos rest.length with hnil | hrest
      · have hdigit : 0 < (digits10 (readDigits (c :: rest))).length := Nat.length_toDigits_pos
        rw [List.length_cons]
        omega
      · rw [List.length_cons, Nat.succ_le_iff, ← not_le, digits10,
          Nat.length_toDigits_le_iff (by decide) hrest]
        exact not_lt.2 hbig
    rw [padded10, List.length_append, List.length_replicate]
    omega

end BillingConsole
