import BillingConsole.Json.Literal
import BillingConsole.Json.Printer
import BillingConsole.Json.Reader
import BillingConsole.Proofs.Number.Digits
import Mathlib.Data.List.TakeDrop
import Mathlib.Data.List.TakeWhile

/-!
# Numbers are read up to where they end

A number has no closing mark: it ends where the next character cannot go on with it.  So a number
that was read from a text of its own is read in the same way where a comma or a bracket follows.

## What is here

* `EndsNumber` — what may follow a number.
* `readDigitRun_append`, `readFraction_append`, `readExponent_append` — the parts of a number, each
  with more text behind it.
* `readNumber_append` — **a number is read in the same way whatever follows it.**
* `readNumber_writeInteger`, `numeral_integerLiteral` — a written integer is read back.
-/

set_option autoImplicit false

namespace BillingConsole.Json

/-- The text is at its end or goes on with a comma or a closing bracket. -/
def EndsNumber : List Char → Prop
  | [] => True
  | c :: _ => c = ',' ∨ c = ']' ∨ c = '\x7d'

/-- None of these is part of a number. -/
theorem EndsNumber.not_part {c : Char} {rest : List Char} (h : EndsNumber (c :: rest)) :
    c.isDigit = false ∧ c ≠ '.' ∧ ¬ (c = 'e' ∨ c = 'E') := by
  rcases h with rfl | rfl | rfl <;> decide

variable {s rest : List Char}

/-! ## Parts of a number -/

/-- Characters with a property are split off in the same way if what is put behind does not start
with one. -/
theorem span_append {p : Char → Bool} {first left : List Char} (h : s.span p = (first, left))
    (hstop : ∀ c more, rest = c :: more → p c = false) :
    (s ++ rest).span p = (first, left ++ rest) := by
  rw [List.span_eq_takeWhile_dropWhile, Prod.mk.injEq] at h
  obtain ⟨rfl, rfl⟩ := h
  rw [List.span_eq_takeWhile_dropWhile, Prod.mk.injEq]
  induction s with
  | nil =>
    cases rest with
    | nil => exact ⟨rfl, rfl⟩
    | cons c more =>
      have hc := hstop c more rfl
      simp [hc]
  | cons c s ih =>
    by_cases hc : p c = true
    · simpa [hc] using ih
    · simp [hc]

theorem readDigitRun_ok {digits left : List Char} (h : readDigitRun s = .ok (digits, left)) :
    s.span Char.isDigit = (digits, left) ∧ digits ≠ [] := by
  rw [readDigitRun] at h
  cases hspan : s.span Char.isDigit with
  | mk first after =>
    rw [hspan] at h
    cases first with
    | nil => cases after <;> cases h
    | cons c first =>
      cases h
      exact ⟨rfl, List.cons_ne_nil c first⟩

theorem readDigitRun_of_span {digits left : List Char}
    (h : s.span Char.isDigit = (digits, left)) (hne : digits ≠ []) :
    readDigitRun s = .ok (digits, left) := by
  rw [readDigitRun, h]
  cases digits with
  | nil => exact absurd rfl hne
  | cons => rfl

theorem readDigitRun_append (ends : EndsNumber rest) {digits left : List Char}
    (h : readDigitRun s = .ok (digits, left)) :
    readDigitRun (s ++ rest) = .ok (digits, left ++ rest) := by
  obtain ⟨hspan, hne⟩ := readDigitRun_ok h
  refine readDigitRun_of_span (span_append hspan fun c more heq => ?_) hne
  subst heq
  exact ends.not_part.1

theorem readWhole_append (ends : EndsNumber rest) {digits left : List Char}
    (h : readWhole s = .ok (digits, left)) :
    readWhole (s ++ rest) = .ok (digits, left ++ rest) := by
  rw [readWhole] at h
  cases hrun : readDigitRun s with
  | error fault => rw [hrun] at h; cases h
  | ok run =>
    rw [hrun] at h
    rw [readWhole, readDigitRun_append ends hrun]
    simp only [bind, Except.bind] at h ⊢
    split at h
    · cases h
    · next hzero =>
      cases h
      rfl

theorem readFraction_append (ends : EndsNumber rest) {digits : Option (List Char)}
    {left : List Char} (h : readFraction s = .ok (digits, left)) :
    readFraction (s ++ rest) = .ok (digits, left ++ rest) := by
  rw [readFraction.eq_def] at h
  split at h
  · next more =>
    cases hrun : readDigitRun more with
    | error fault => rw [hrun] at h; cases h
    | ok run =>
      rw [hrun] at h
      cases h
      rw [List.cons_append, readFraction, readDigitRun_append ends hrun]
      rfl
  · next hpoint =>
    cases h
    cases s with
    | nil =>
      cases rest with
      | nil => rfl
      | cons c rest =>
        refine readFraction.eq_2 _ fun more heq => ?_
        exact ends.not_part.2.1 (List.cons.inj heq).1
    | cons c s =>
      refine readFraction.eq_2 _ fun more heq => ?_
      rw [List.cons_append, List.cons.injEq] at heq
      exact hpoint s (congrArg (· :: s) heq.1)

theorem splitSign_append (hne : s ≠ []) : Binary64.splitSign (s ++ rest) =
    ((Binary64.splitSign s).1, (Binary64.splitSign s).2 ++ rest) := by
  cases s with
  | nil => exact absurd rfl hne
  | cons c s =>
    by_cases hminus : c = '-'
    · subst hminus
      rfl
    · by_cases hplus : c = '+'
      · subst hplus
        rfl
      · have hnone (more : List Char) : Binary64.splitSign (c :: more) = (false, c :: more) := by
          rw [Binary64.splitSign.eq_def]
          split
          · next heq => exact absurd (List.cons.inj heq).1 hminus
          · next heq => exact absurd (List.cons.inj heq).1 hplus
          · rfl
        rw [List.cons_append, hnone, hnone]
        rfl

theorem readExponent_append (ends : EndsNumber rest) {exponent : Option (Bool × List Char)}
    {left : List Char} (h : readExponent s = .ok (exponent, left)) :
    readExponent (s ++ rest) = .ok (exponent, left ++ rest) := by
  cases s with
  | nil =>
    cases h
    cases rest with
    | nil => rfl
    | cons c rest => exact if_neg ends.not_part.2.2
  | cons c s =>
    rw [readExponent] at h
    rw [List.cons_append, readExponent]
    by_cases hmark : c = 'e' ∨ c = 'E'
    · rw [if_pos hmark] at h ⊢
      cases hrun : readDigitRun (Binary64.splitSign s).2 with
      | error fault =>
        simp only [hrun, bind, Except.bind] at h
        cases h
      | ok run =>
        have hne : s ≠ [] := by
          rintro rfl
          cases hrun
        simp only [hrun, bind, Except.bind] at h
        cases h
        rw [splitSign_append hne]
        simp only [readDigitRun_append ends hrun, bind, Except.bind]
    · rw [if_neg hmark] at h ⊢
      cases h
      rfl

/-! ## Whole numbers -/

/-- A number after its sign. -/
def readUnsigned (negative : Bool) (s : List Char) : Except Fault (NumberLiteral × List Char) := do
  let (whole, afterWhole) ← readWhole s
  let (fraction, afterFraction) ← readFraction afterWhole
  let (exponent, rest) ← readExponent afterFraction
  .ok (⟨negative, whole, fraction, exponent⟩, rest)

theorem readNumber_minus (s : List Char) : readNumber ('-' :: s) = readUnsigned true s := rfl

theorem readNumber_of_ne {c : Char} (hc : c ≠ '-') (s : List Char) :
    readNumber (c :: s) = readUnsigned false (c :: s) := by
  rw [readNumber.eq_def, readUnsigned]
  split
  next negative unsigned heq =>
    split at heq
    · next hminus => exact absurd (List.cons.inj hminus).1 hc
    · cases heq
      rfl

theorem readUnsigned_append (ends : EndsNumber rest) {negative : Bool} {literal : NumberLiteral}
    {left : List Char} (h : readUnsigned negative s = .ok (literal, left)) :
    readUnsigned negative (s ++ rest) = .ok (literal, left ++ rest) := by
  rw [readUnsigned] at h
  cases hwhole : readWhole s with
  | error fault =>
    rw [hwhole] at h
    cases h
  | ok whole =>
    simp only [hwhole, bind, Except.bind] at h
    cases hfraction : readFraction whole.2 with
    | error fault =>
      simp only [hfraction] at h
      cases h
    | ok fraction =>
      simp only [hfraction] at h
      cases hexponent : readExponent fraction.2 with
      | error fault =>
        simp only [hexponent] at h
        cases h
      | ok exponent =>
        simp only [hexponent] at h
        cases h
        simp only [readUnsigned, readWhole_append ends hwhole, readFraction_append ends hfraction,
          readExponent_append ends hexponent, bind, Except.bind]

/-- **A number is read in the same way whatever follows it.** -/
theorem readNumber_append (ends : EndsNumber rest) {literal : NumberLiteral} {left : List Char}
    (h : readNumber s = .ok (literal, left)) :
    readNumber (s ++ rest) = .ok (literal, left ++ rest) := by
  cases s with
  | nil => cases h
  | cons c s =>
    by_cases hc : c = '-'
    · subst hc
      rw [readNumber_minus] at h
      rw [List.cons_append, readNumber_minus]
      exact readUnsigned_append ends h
    · rw [readNumber_of_ne hc] at h
      rw [List.cons_append, readNumber_of_ne hc]
      exact readUnsigned_append ends h

/-! ## Integers -/

/-- An integer as it is spelled. -/
def integerLiteral (n : Int) : NumberLiteral := ⟨n < 0, digits10 n.natAbs, none, none⟩

/-- Only zero is written with a zero in front. -/
theorem digits10_ne_zero_cons {n : Nat} {c : Char} {more : List Char} :
    digits10 n ≠ '0' :: c :: more := by
  intro h
  rcases Nat.eq_zero_or_pos n with rfl | hn
  · cases h
  · exact head?_digits10_ne hn (by rw [h]; rfl)

theorem readUnsigned_digits10 (negative : Bool) (n : Nat) :
    readUnsigned negative (digits10 n) = .ok (⟨negative, digits10 n, none, none⟩, []) := by
  have hspan : (digits10 n).span Char.isDigit = (digits10 n, []) := by
    have hdigits (c : Char) (hc : c ∈ digits10 n) : c.isDigit = true :=
      Nat.isDigit_of_mem_toDigits (by decide) (by decide) hc
    rw [List.span_eq_takeWhile_dropWhile, Prod.mk.injEq]
    exact ⟨List.takeWhile_eq_self_iff.2 hdigits, List.dropWhile_eq_nil_iff.2 hdigits⟩
  have hrun := readDigitRun_of_span hspan Nat.toDigits_ne_nil
  have hwhole : readWhole (digits10 n) = .ok (digits10 n, []) := by
    rw [readWhole, hrun]
    simp only [bind, Except.bind]
    split
    · next heq => exact absurd heq digits10_ne_zero_cons
    · rfl
  simp only [readUnsigned, hwhole, bind, Except.bind, readFraction, readExponent]

/-- A written integer is read back. -/
theorem readNumber_writeInteger (n : Int) (ends : EndsNumber rest) :
    readNumber (writeInteger n ++ rest) = .ok (integerLiteral n, rest) := by
  suffices h : readNumber (writeInteger n) = .ok (integerLiteral n, []) from
    readNumber_append ends h
  rw [writeInteger, integerLiteral]
  by_cases hn : n < 0
  · rw [if_pos hn, decide_eq_true hn]
    exact readUnsigned_digits10 true n.natAbs
  · rw [if_neg hn, decide_eq_false hn]
    have hunsigned := readUnsigned_digits10 false n.natAbs
    cases hdigits : digits10 n.natAbs with
    | nil => exact absurd hdigits Nat.toDigits_ne_nil
    | cons c more =>
      have hdigit : c.isDigit = true :=
        Nat.isDigit_of_mem_toDigits (by decide) (by decide) (hdigits ▸ List.mem_cons_self)
      have hc : c ≠ '-' := by
        rintro rfl
        cases hdigit
      rw [hdigits] at hunsigned
      rw [List.nil_append, readNumber_of_ne hc]
      exact hunsigned

/-- It stands for the integer that was written, if that fits in 64 bits. -/
theorem numeral_integerLiteral {n : Int} (hlow : -(2 : Int) ^ 63 ≤ n) (hhigh : n < (2 : Int) ^ 64) :
    (integerLiteral n).numeral = .ok (.integer n) := by
  have hinteger : (integerLiteral n).integer? = some n := by
    rw [NumberLiteral.integer?, integerLiteral]
    dsimp only
    rw [readDigits_digits10]
    by_cases hn : n < 0
    · have hbound : 1 ≤ n.natAbs ∧ n.natAbs ≤ Nat.pow 2 63 := by
        have hpow : Nat.pow 2 63 = 2 ^ 63 := rfl
        omega
      simp only [hn, decide_true, if_true, Option.isSome_none, Bool.false_eq_true, or_self,
        if_false, if_pos hbound, Option.some_inj]
      omega
    · have hbound : n.natAbs < wordLimit := by
        have hword : wordLimit = 2 ^ 64 := rfl
        omega
      simp only [hn, decide_false, Option.isSome_none, Bool.false_eq_true, or_self, if_false,
        if_pos hbound, Option.some_inj]
      omega
  rw [NumberLiteral.numeral, hinteger]

end BillingConsole.Json
