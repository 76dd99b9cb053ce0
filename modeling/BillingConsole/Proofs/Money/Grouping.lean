import BillingConsole.Money
import BillingConsole.Proofs.Text.Ends
import Mathlib.Algebra.BigOperators.Ring.List
import Mathlib.Algebra.Ring.Nat

/-!
# Groups of three

The digits of a number are read in groups of three, counted from the right, with a separator between
one group and the next.

## What is here

* `Grouping` — a text cut into groups: all have three characters, but the first may have fewer.
* `exists_grouping` — **separators stand exactly between the groups**; `filter_groupDigits` —
  without them the text is as before.
* `splitAround_append`, `groupThousands_of_point` — of a text with a point only what stands before
  it is grouped.
-/

set_option autoImplicit false

namespace BillingConsole

/-! ## Groups -/

/-- The groups of a text: the first has one to three characters and every other one has three. -/
structure Grouping (groups : List (List Char)) (text : List Char) : Prop where
  flatten_eq : groups.flatten = text
  first : ∀ group ∈ groups.head?, 1 ≤ group.length ∧ group.length ≤ 3
  rest : ∀ group ∈ groups.tail, group.length = 3

namespace Grouping

variable {groups : List (List Char)} {group text : List Char}

theorem first_cons (grouping : Grouping (group :: groups) text) :
    1 ≤ group.length ∧ group.length ≤ 3 := grouping.first group rfl

theorem ne_nil (grouping : Grouping (group :: groups) text) : text ≠ [] := by
  rintro rfl
  have hgroup : group = [] := (List.append_eq_nil_iff.1 grouping.flatten_eq).1
  have hlength := grouping.first_cons.1
  rw [hgroup] at hlength
  exact absurd hlength (by decide)

/-- The length of a text leaves that of its first group, but for whole groups. -/
theorem length_mod (grouping : Grouping (group :: groups) text) :
    text.length % 3 = group.length % 3 := by
  have hrest : 3 ∣ groups.flatten.length := by
    rw [List.length_flatten]
    refine List.dvd_sum fun n hn => ?_
    obtain ⟨other, hother, rfl⟩ := List.mem_map.1 hn
    rw [grouping.rest other hother]
  rw [← grouping.flatten_eq, List.flatten_cons, List.length_append]
  omega

/-- Before whole groups a character is a group of its own. -/
theorem cons_group (grouping : Grouping (group :: groups) text) (h : text.length % 3 = 0)
    (c : Char) : Grouping ([c] :: group :: groups) (c :: text) := by
  have hfirst := grouping.first_cons
  have hmod := grouping.length_mod
  refine ⟨congrArg (c :: ·) grouping.flatten_eq, ?_, ?_⟩
  · rintro _ ⟨rfl⟩
    simp
  · refine List.forall_mem_cons.2 ⟨?_, grouping.rest⟩
    omega

/-- Elsewhere it joins the first group. -/
theorem cons_char (grouping : Grouping (group :: groups) text) (h : ¬text.length % 3 = 0)
    (c : Char) : Grouping ((c :: group) :: groups) (c :: text) := by
  have hfirst := grouping.first_cons
  have hmod := grouping.length_mod
  refine ⟨congrArg (c :: ·) grouping.flatten_eq, ?_, grouping.rest⟩
  rintro _ ⟨rfl⟩
  rw [List.length_cons]
  omega

end Grouping

/-- **Separators stand exactly between the groups.** -/
theorem exists_grouping (separator : Char) (text : List Char) :
    ∃ groups, Grouping groups text ∧
      groupDigits separator text = [separator].intercalate groups := by
  induction text with
  | nil => exact ⟨[], ⟨rfl, nofun, nofun⟩, rfl⟩
  | cons c rest ih =>
    obtain ⟨groups, grouping, heq⟩ := ih
    cases groups with
    | nil =>
      obtain rfl : [] = rest := grouping.flatten_eq
      refine ⟨[[c]], ⟨rfl, ?_, nofun⟩, rfl⟩
      rintro _ ⟨rfl⟩
      simp
    | cons group groups =>
      rw [groupDigits, heq]
      by_cases hmod : rest.length % 3 = 0
      · rw [if_pos ⟨grouping.ne_nil, hmod⟩]
        exact ⟨_, grouping.cons_group hmod c, rfl⟩
      · rw [if_neg fun h => hmod h.2]
        refine ⟨_, grouping.cons_char hmod c, ?_⟩
        cases groups <;> rfl

/-- Without the separators the text is as before. -/
theorem filter_groupDigits {p : Char → Bool} {separator : Char} {text : List Char}
    (hseparator : p separator = false) (htext : ∀ c ∈ text, p c = true) :
    (groupDigits separator text).filter p = text := by
  induction text with
  | nil => rfl
  | cons c rest ih =>
    obtain ⟨hc, hrest⟩ := List.forall_mem_cons.1 htext
    rw [groupDigits]
    split
    · rw [List.filter_cons_of_pos hc, List.filter_cons_of_neg (by rw [hseparator]; decide),
        ih hrest]
    · rw [List.filter_cons_of_pos hc, ih hrest]

/-! ## Texts with a point -/

theorem splitAround_append {α : Type} {p : α → Bool} {before after : List α} {x : α}
    (hbefore : ∀ y ∈ before, p y = false) (hx : p x = true) :
    splitAround p (before ++ x :: after) = some (before, after) := by
  have hkeep : ∀ y ∈ before, (!p y) = true := fun y hy => by rw [hbefore y hy]; rfl
  have hstop : ∀ y ∈ (x :: after).head?, (!p y) = false := by simpa using hx
  rw [splitAround, List.span_eq_takeWhile_dropWhile, takeWhile_append_of_stop hkeep hstop,
    dropWhile_append_of_stop hkeep hstop]

/-- Of a text with a point and without a sign only what stands before the point is grouped. -/
theorem groupThousands_of_point {separator : Char} {whole fraction : List Char}
    (hsign : '-' ∉ whole) (hpoint : '.' ∉ whole) :
    groupThousands separator (whole ++ '.' :: fraction) =
      groupDigits separator whole ++ '.' :: fraction := by
  have hsplit : splitAround (· == '.') (whole ++ '.' :: fraction) = some (whole, fraction) :=
    splitAround_append (fun c hc => beq_false_of_ne fun heq => hpoint (heq ▸ hc))
      (beq_self_eq_true _)
  have hhead : ∀ rest, whole ++ '.' :: fraction ≠ '-' :: rest := by
    cases whole with
    | nil => intro rest h; cases h
    | cons c whole => exact fun rest h => hsign (List.mem_cons.2 (.inl (List.cons.inj h).1.symm))
  rw [groupThousands]
  · rw [hsplit]
    rfl
  · exact hhead

end BillingConsole
