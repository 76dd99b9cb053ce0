/-!
# Rounding a quotient to a whole number

Every place where the console gives up precision — reading a number, adding amounts, showing two
decimals — rounds the exact quotient of two whole numbers, and a half always goes to the even
neighbour.

## What is here

* `roundDiv num den` — the nearest whole number to `num / den`, the even one at a tie.
* `two_mul_roundDiv_le`, `le_two_mul_roundDiv` — it is never further than one half away.
* `roundDiv_mul` — a quotient that is whole already is kept.
-/

set_option autoImplicit false

namespace BillingConsole

/-- The whole number nearest to `num / den`; of two equally near ones, the even one. -/
def roundDiv (num den : Nat) : Nat :=
  let quotient := num / den
  let twice := 2 * (num % den)
  if twice < den then quotient
  else if den < twice then quotient + 1
  else quotient + quotient % 2

theorem roundDiv_mul (n den : Nat) (h : 0 < den) : roundDiv (n * den) den = n := by
  simp [roundDiv, Nat.mul_div_cancel n h, h]

/-- The rounded quotient exceeds the exact one by at most one half. -/
theorem two_mul_roundDiv_le (num den : Nat) (h : 0 < den) :
    2 * (roundDiv num den * den) ≤ 2 * num + den := by
  have hdiv : num / den * den + num % den = num := by
    rw [Nat.mul_comm]; exact Nat.div_add_mod num den
  have hlt := Nat.mod_lt num h
  unfold roundDiv
  dsimp only
  split
  · omega
  · split
    · rw [Nat.add_mul]; omega
    · rcases Nat.mod_two_eq_zero_or_one (num / den) with h0 | h0 <;> rw [h0] <;>
        simp only [Nat.add_zero, Nat.add_mul] <;> omega

/-- The rounded quotient falls short of the exact one by at most one half. -/
theorem le_two_mul_roundDiv (num den : Nat) (h : 0 < den) :
    2 * num ≤ 2 * (roundDiv num den * den) + den := by
  have hdiv : num / den * den + num % den = num := by
    rw [Nat.mul_comm]; exact Nat.div_add_mod num den
  have hlt := Nat.mod_lt num h
  unfold roundDiv
  dsimp only
  split
  · omega
  · split
    · rw [Nat.add_mul]; omega
    · rcases Nat.mod_two_eq_zero_or_one (num / den) with h0 | h0 <;> rw [h0] <;>
        simp only [Nat.add_zero, Nat.add_mul] <;> omega

end BillingConsole
