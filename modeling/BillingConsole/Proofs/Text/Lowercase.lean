import BillingConsole.Text.Lowercase
import Mathlib.Data.List.Basic
import Mathlib.Data.List.Infix

/-!
# The lowercase form of a part of a text

A text is put into lower case letter by letter, and of all letters only the capital sigma looks at
its neighbours.  So a part of a text has the same lowercase form there as by itself, unless one of
its capital sigmas ends a word in one of the two places and not in the other.

## What is here

* `lowercaseBetween` — the lowercase form of a part of a text; `lowercase_append` puts the parts
  together.
* `SigmasAgree`, `lowercase_infix` — **where the sigmas agree, the lowercase form of a part stands
  in the lowercase form of the whole.**
* `HasOpenSigma`, `sigmasAgree_of_closed` — a sigma whose reading depends on what stands around the
  text; without one the sigmas agree everywhere.
* `exists_not_infix_of_open` — **with one they do not**, and the lowercase form of some longer text
  does not contain that of the text.
* `IsAscii`, `lowercase_of_isAscii` — ASCII is put into lower case letter by letter.
-/

set_option autoImplicit false

namespace BillingConsole

/-! ## Parts -/

/-- The lowercase form of a letter between two texts, the first of which is given in reverse. -/
def lowerCharBetween (before after : List Char) (c : Char) : List Char :=
  if c = 'Σ' then [if endsWord before after then 'ς' else 'σ'] else lowerChar c

/-- The lowercase form of a text between two others, the first of which is given in reverse. -/
def lowercaseBetween (before : List Char) : List Char → List Char → List Char
  | [], _ => []
  | c :: rest, after =>
    lowerCharBetween before (rest ++ after) c ++ lowercaseBetween (c :: before) rest after

theorem lowercaseAfter_eq (before s : List Char) :
    lowercaseAfter before s = lowercaseBetween before s [] := by
  induction s generalizing before with
  | nil => rfl
  | cons c rest ih => rw [lowercaseAfter, ih, lowercaseBetween, lowerCharBetween, List.append_nil]

theorem lowercaseBetween_append (before s t after : List Char) :
    lowercaseBetween before (s ++ t) after =
      lowercaseBetween before s (t ++ after) ++ lowercaseBetween (s.reverse ++ before) t after := by
  induction s generalizing before with
  | nil => rfl
  | cons c rest ih =>
    simp only [List.cons_append, lowercaseBetween, ih, List.append_assoc, List.reverse_cons,
      List.nil_append]

/-- The lowercase form of a text is that of its parts, each in its place. -/
theorem lowercase_append (u s v : List Char) :
    lowercase (u ++ s ++ v) = lowercaseBetween [] u (s ++ v) ++ lowercaseBetween u.reverse s v ++
      lowercaseBetween (s.reverse ++ u.reverse) v [] := by
  rw [lowercase, lowercaseAfter_eq, lowercaseBetween_append, lowercaseBetween_append,
    List.append_nil, List.append_nil, List.reverse_append, List.append_nil]

/-! ## Sigmas that agree -/

/-- Every capital sigma of a part ends a word in the whole exactly if it ends one in the part by
itself. -/
def SigmasAgree (u s v : List Char) : Prop :=
  ∀ a b, s = a ++ 'Σ' :: b → endsWord (a.reverse ++ u.reverse) (b ++ v) = endsWord a.reverse b

/-- A text has the same lowercase form in two places where its sigmas read the same. -/
theorem lowercaseBetween_congr {before before' s after after' : List Char}
    (h : ∀ a b, s = a ++ 'Σ' :: b →
      endsWord (a.reverseAux before) (b ++ after) = endsWord (a.reverseAux before') (b ++ after')) :
    lowercaseBetween before s after = lowercaseBetween before' s after' := by
  induction s generalizing before before' with
  | nil => rfl
  | cons c rest ih =>
    have hrest := @ih (c :: before) (c :: before') fun a b hsplit =>
      h (c :: a) b (congrArg (c :: ·) hsplit)
    have hhead : lowerCharBetween before (rest ++ after) c =
        lowerCharBetween before' (rest ++ after') c := by
      by_cases hc : c = 'Σ'
      · have hread : endsWord before (rest ++ after) = endsWord before' (rest ++ after') :=
          h [] rest (congrArg (· :: rest) hc)
        rw [lowerCharBetween, lowerCharBetween, hread]
      · rw [lowerCharBetween, lowerCharBetween, if_neg hc, if_neg hc]
    rw [lowercaseBetween, lowercaseBetween, hhead, hrest]

/-- **Where the sigmas agree, the lowercase form of a part stands in the lowercase form of the
whole.** -/
theorem lowercase_infix {u s v : List Char} (h : SigmasAgree u s v) :
    lowercase s <:+: lowercase (u ++ s ++ v) := by
  have halone : lowercase s = lowercaseBetween u.reverse s v := by
    rw [lowercase, lowercaseAfter_eq]
    refine lowercaseBetween_congr fun a b hsplit => ?_
    rw [List.reverseAux_eq, List.reverseAux_eq, List.append_nil, List.append_nil, h a b hsplit]
  rw [lowercase_append, ← halone]
  exact ⟨_, _, rfl⟩

/-! ## Sigmas whose reading is open -/

/-- A capital sigma of the text reads one way or the other, depending on what stands around the
text: there is no letter of the text before it and no cased one next after it, or a cased one next
before it and none after it.  Characters that are skipped do not count as letters. -/
def HasOpenSigma (s : List Char) : Prop :=
  ∃ a b, s = a ++ 'Σ' :: b ∧
    ((a.all isCaseIgnorable = true ∧ meetsCased b = false) ∨
      (meetsCased a.reverse = true ∧ b.all isCaseIgnorable = true))

/-- What is met first in two texts is met in the first of them, unless all of that is skipped. -/
theorem meetsCased_append (s t : List Char) :
    meetsCased (s ++ t) = if s.all isCaseIgnorable then meetsCased t else meetsCased s := by
  induction s with
  | nil => rfl
  | cons c rest ih =>
    by_cases hc : isCaseIgnorable c = true
    · have hskip (u : List Char) : meetsCased (c :: u) = meetsCased u := by
        rw [meetsCased, List.dropWhile_cons_of_pos hc, meetsCased]
      rw [List.cons_append, hskip, hskip, ih, List.all_cons, hc, Bool.true_and]
    · have hstop (u : List Char) : meetsCased (c :: u) = isCased c := by
        rw [meetsCased, List.dropWhile_cons_of_neg hc]
      rw [List.cons_append, hstop, hstop, List.all_cons, Bool.eq_false_iff.2 hc, Bool.false_and,
        if_neg Bool.false_ne_true]

theorem meetsCased_of_all {s : List Char} (h : s.all isCaseIgnorable = true) :
    meetsCased s = false := by
  have happend := meetsCased_append s []
  rwa [List.append_nil, if_pos h] at happend

theorem endsWord_eq_true_iff {before after : List Char} :
    endsWord before after = true ↔ meetsCased before = true ∧ meetsCased after = false := by
  rw [endsWord, Bool.and_eq_true, Bool.not_eq_true']

/-- **Without an open sigma the sigmas of a text agree wherever it stands.** -/
theorem sigmasAgree_of_closed {s : List Char} (h : ¬HasOpenSigma s) (u v : List Char) :
    SigmasAgree u s v := by
  intro a b hsplit
  have hfirst : a.all isCaseIgnorable = true → meetsCased b = true := fun ha =>
    Bool.of_not_eq_false fun hb => h ⟨a, b, hsplit, .inl ⟨ha, hb⟩⟩
  have hlast : b.all isCaseIgnorable = true → meetsCased a.reverse = false := fun hb =>
    Bool.of_not_eq_true fun ha => h ⟨a, b, hsplit, .inr ⟨ha, hb⟩⟩
  rw [Bool.eq_iff_iff, endsWord_eq_true_iff, endsWord_eq_true_iff, meetsCased_append,
    meetsCased_append, List.all_reverse]
  by_cases ha : a.all isCaseIgnorable = true
  · have hmeets := hfirst ha
    have hb : ¬b.all isCaseIgnorable = true := fun hb =>
      Bool.false_ne_true ((meetsCased_of_all hb).symm.trans hmeets)
    rw [if_neg hb, hmeets]
    simp
  · rw [if_neg ha]
    by_cases hb : b.all isCaseIgnorable = true
    · rw [hlast hb]
      simp
    · rw [if_neg hb]

/-! ## Texts that change an open sigma -/

/-- A character that no sigma has more often in one place than in another is not more frequent in
the lowercase form there, and it is less frequent if some sigma has it less often. -/
theorem count_lowercaseBetween {before before' s after after' : List Char} {x : Char}
    (h : ∀ a b, s = a ++ 'Σ' :: b →
      (lowerCharBetween (a.reverseAux before) (b ++ after) 'Σ').count x ≤
        (lowerCharBetween (a.reverseAux before') (b ++ after') 'Σ').count x) :
    (lowercaseBetween before s after).count x ≤ (lowercaseBetween before' s after').count x ∧
      ∀ a b, s = a ++ 'Σ' :: b →
        (lowerCharBetween (a.reverseAux before) (b ++ after) 'Σ').count x <
          (lowerCharBetween (a.reverseAux before') (b ++ after') 'Σ').count x →
        (lowercaseBetween before s after).count x <
          (lowercaseBetween before' s after').count x := by
  induction s generalizing before before' with
  | nil => exact ⟨le_rfl, fun a b hsplit => by simp at hsplit⟩
  | cons c rest ih =>
    obtain ⟨hle, hlt⟩ := @ih (c :: before) (c :: before') fun a b hsplit =>
      h (c :: a) b (congrArg (c :: ·) hsplit)
    have hhead : (lowerCharBetween before (rest ++ after) c).count x ≤
        (lowerCharBetween before' (rest ++ after') c).count x := by
      by_cases hc : c = 'Σ'
      · subst hc
        exact h [] rest rfl
      · rw [lowerCharBetween, lowerCharBetween, if_neg hc, if_neg hc]
    simp only [lowercaseBetween, List.count_append]
    refine ⟨Nat.add_le_add hhead hle, fun a b hsplit hless => ?_⟩
    cases a with
    | nil =>
      obtain ⟨rfl, rfl⟩ := List.cons.inj hsplit
      exact Nat.add_lt_add_of_lt_of_le hless hle
    | cons first a =>
      obtain ⟨rfl, hrest⟩ := List.cons.inj hsplit
      exact Nat.add_lt_add_of_le_of_lt hhead (hlt a b hrest hless)

theorem count_final (before after : List Char) :
    (lowerCharBetween before after 'Σ').count 'ς' = (endsWord before after).toNat := by
  rw [lowerCharBetween]
  cases endsWord before after <;> rfl

theorem count_nonfinal (before after : List Char) :
    (lowerCharBetween before after 'Σ').count 'σ' = (!endsWord before after).toNat := by
  rw [lowerCharBetween]
  cases endsWord before after <;> rfl

/-- At the end of a text, a cased letter is met unless something else is met first. -/
theorem meetsCased_append_letter (s : List Char) :
    meetsCased (s ++ ['A']) = (s.all isCaseIgnorable || meetsCased s) := by
  have hletter : meetsCased ['A'] = true := by decide +kernel
  rw [meetsCased_append, hletter]
  cases s.all isCaseIgnorable <;> rfl

theorem endsWord_alone (a b : List Char) : endsWord (a.reverseAux []) (b ++ []) =
    (meetsCased a.reverse && !meetsCased b) := by
  rw [endsWord, List.reverseAux_eq, List.append_nil, List.append_nil]

/-- Behind a letter, a sigma that is open at the start of a text ends a word, and no sigma ceases to
end one. -/
theorem count_behind_letter {a b : List Char} (hfirst : a.all isCaseIgnorable = true)
    (hafter : meetsCased b = false) :
    (lowercase ('A' :: a ++ 'Σ' :: b)).count 'σ' < (lowercase (a ++ 'Σ' :: b)).count 'σ' := by
  have hread (a b : List Char) : endsWord (a.reverseAux ['A']) (b ++ []) =
      ((a.all isCaseIgnorable || meetsCased a.reverse) && !meetsCased b) := by
    rw [endsWord, List.reverseAux_eq, meetsCased_append_letter, List.all_reverse, List.append_nil]
  have hbehind : lowercase ('A' :: a ++ 'Σ' :: b) =
      'a' :: lowercaseBetween ['A'] (a ++ 'Σ' :: b) [] := by
    rw [lowercase, lowercaseAfter_eq]
    rfl
  rw [hbehind, lowercase, lowercaseAfter_eq, List.count_cons_of_ne (by decide)]
  refine (count_lowercaseBetween fun a' b' _ => ?_).2 a b rfl ?_
  · rw [count_nonfinal, count_nonfinal, hread, endsWord_alone]
    cases a'.all isCaseIgnorable <;> cases meetsCased a'.reverse <;> cases meetsCased b' <;> decide
  · rw [count_nonfinal, count_nonfinal, hread, endsWord_alone, hfirst, hafter,
      meetsCased_of_all (List.all_reverse.trans hfirst)]
    decide

/-- Before a letter, a sigma that is open at the end of a text does not end a word, and no other
sigma comes to end one. -/
theorem count_before_letter {a b : List Char} (hbefore : meetsCased a.reverse = true)
    (hlast : b.all isCaseIgnorable = true) :
    (lowercase (a ++ 'Σ' :: b ++ ['A'])).count 'ς' < (lowercase (a ++ 'Σ' :: b)).count 'ς' := by
  have hread (a b : List Char) : endsWord (a.reverseAux []) (b ++ ['A']) =
      (meetsCased a.reverse && !(b.all isCaseIgnorable || meetsCased b)) := by
    rw [endsWord, List.reverseAux_eq, meetsCased_append_letter, List.append_nil]
  have hletter : lowercaseBetween ((a ++ 'Σ' :: b).reverse ++ []) ['A'] [] = ['a'] := rfl
  rw [lowercase, lowercase, lowercaseAfter_eq, lowercaseAfter_eq, lowercaseBetween_append, hletter,
    List.append_nil ['A'], List.count_append, List.count_singleton, if_neg (by decide),
    Nat.add_zero]
  refine (count_lowercaseBetween fun a' b' _ => ?_).2 a b rfl ?_
  · rw [count_final, count_final, hread, endsWord_alone]
    cases meetsCased a'.reverse <;> cases b'.all isCaseIgnorable <;> cases meetsCased b' <;> decide
  · rw [count_final, count_final, hread, endsWord_alone, hbefore, hlast, meetsCased_of_all hlast]
    decide

/-- **Some text that contains a text with an open sigma has another lowercase form there**, and does
not have that of the text anywhere. -/
theorem exists_not_infix_of_open {s : List Char} (h : HasOpenSigma s) :
    ∃ u v, ¬lowercase s <:+: lowercase (u ++ s ++ v) := by
  obtain ⟨a, b, rfl, ⟨hfirst, hafter⟩ | ⟨hbefore, hlast⟩⟩ := h
  · refine ⟨['A'], [], fun hpart => ?_⟩
    have hcount := hpart.sublist.count_le 'σ'
    rw [List.append_nil, List.singleton_append] at hcount
    exact absurd (count_behind_letter hfirst hafter) (Nat.not_lt.2 hcount)
  · exact ⟨[], ['A'], fun hpart =>
      absurd (count_before_letter hbefore hlast) (Nat.not_lt.2 (hpart.sublist.count_le 'ς'))⟩

/-! ## ASCII -/

/-- A text without characters outside ASCII. -/
def IsAscii (s : List Char) : Prop := ∀ c ∈ s, c.toNat < 0x80

instance (s : List Char) : Decidable (IsAscii s) :=
  List.decidableBAll (fun c : Char => c.toNat < 0x80) s

/-- No letter of ASCII looks at its neighbours. -/
theorem lowercase_of_isAscii {s : List Char} (h : IsAscii s) :
    lowercase s = s.map Char.toLower := by
  suffices hafter : ∀ before, lowercaseAfter before s = s.map Char.toLower from hafter []
  induction s with
  | nil => exact fun _ => rfl
  | cons c rest ih =>
    intro before
    have hascii : c.toNat < 0x80 := h c List.mem_cons_self
    have hsigma : c ≠ 'Σ' := fun hc => absurd (hc ▸ hascii) (by decide)
    have hrest := ih (fun d hd => h d (List.mem_cons_of_mem c hd)) (c :: before)
    rw [lowercaseAfter, if_neg hsigma, lowerChar, if_pos hascii, hrest, List.map_cons,
      List.singleton_append]

end BillingConsole
