import BillingConsole.Json.Literal
import BillingConsole.Json.Printer
import BillingConsole.Json.Reader
import Mathlib.Data.List.Basic

/-!
# Strings are read back

A string is written with escapes for quotes, backslashes and control characters, some of them by
the number of a code unit.  Whatever it holds, it is read back character by character.

## What is here

* `pieceOf`, `textLiteral` — a character and a text as they are spelled.
* `readString_escapedChar` — a written character is read as its piece.
* `readString_flatMap` — **a written text is read up to its closing quote.**
* `text_textLiteral` — what it stands for is the text that was written.
-/

set_option autoImplicit false

namespace BillingConsole.Json

/-- The piece of a literal that a character is written as. -/
def pieceOf (c : Char) : Piece :=
  if c < ' ' ∧ c ≠ '\n' ∧ c ≠ '\r' ∧ c ≠ '\t' ∧ c ≠ '\x08' ∧ c ≠ '\x0c' then .unit c.toNat
  else .char c

/-- A text as it is spelled. -/
def textLiteral (s : List Char) : StringLiteral := ⟨s.map pieceOf, .closed⟩

/-! ## Reading -/

/-- The four digits of a control character. -/
def controlDigits (n : Nat) : List Char :=
  List.replicate (4 - (hexDigits n).length) '0' ++ hexDigits n

/-- Four digits, and the number they stand for. -/
def unitOf? : List Char → Option Nat
  | [a, b, c, d] => hexUnit? a b c d
  | _ => none

theorem unitOf?_controlDigits : ∀ n < 32, unitOf? (controlDigits n) = some n := by decide

/-- A control character is written by its number. -/
theorem exists_controlDigits {n : Nat} (hn : n < 32) :
    ∃ a b c d, controlDigits n = [a, b, c, d] ∧ hexUnit? a b c d = some n := by
  have hunit := unitOf?_controlDigits n hn
  rw [unitOf?.eq_def] at hunit
  split at hunit
  · next a b c d heq => exact ⟨a, b, c, d, heq, hunit⟩
  · cases hunit

/-- A character that needs no escape stands for itself. -/
theorem readString_plain {c : Char} (hquote : c ≠ '"') (hslash : c ≠ '\\') (hcontrol : ¬ c < ' ')
    (rest : List Char) : readString (c :: rest) =
      ((readString rest).1.cons (.char c), (readString rest).2) := by
  rw [readString.eq_def]
  split
  · next heq => cases heq
  · next heq => exact absurd (List.cons.inj heq).1 hquote
  · next heq => exact absurd (List.cons.inj heq).1 hslash
  · next heq => exact absurd (List.cons.inj heq).1 hslash
  · next heq => exact absurd (List.cons.inj heq).1 hslash
  · next heq => exact absurd (List.cons.inj heq).1 hslash
  · next heq =>
    cases heq
    rw [if_neg hcontrol]

/-- A backslash and a letter stand for a character. -/
theorem readString_escape {letter c : Char} (hletter : letter ≠ 'u') (hc : escaped? letter = some c)
    (rest : List Char) : readString ('\\' :: letter :: rest) =
      ((readString rest).1.cons (.char c), (readString rest).2) := by
  rw [readString.eq_def]
  split
  · next heq => cases heq
  · next heq => cases heq
  · next heq => exact absurd (List.cons.inj (List.cons.inj heq).2).1 hletter
  · next heq => exact absurd (List.cons.inj (List.cons.inj heq).2).1 hletter
  · next heq =>
    cases heq
    rw [hc]
  · next heq => cases heq
  · next hescape _ heq =>
    cases heq
    exact (hescape letter rest rfl rfl).elim

/-- A control character is read back by its number. -/
theorem readString_control {c : Char} (hc : c < ' ') (rest : List Char) :
    readString ('\\' :: 'u' :: controlDigits c.toNat ++ rest) =
      ((readString rest).1.cons (.unit c.toNat), (readString rest).2) := by
  have hlt : c.toNat < 32 := Char.lt_def.1 hc
  obtain ⟨a, b, d, e, hdigits, hunit⟩ := exists_controlDigits hlt
  rw [hdigits]
  simp only [List.cons_append, List.nil_append, readString, hunit]

/-- **A written character is read as its piece**, whatever follows. -/
theorem readString_escapedChar (c : Char) (rest : List Char) :
    readString (escapedChar c ++ rest) =
      ((readString rest).1.cons (pieceOf c), (readString rest).2) := by
  by_cases hquote : c = '"'
  · subst hquote
    exact readString_escape (by decide) (by decide) rest
  by_cases hslash : c = '\\'
  · subst hslash
    exact readString_escape (by decide) (by decide) rest
  by_cases hfeed : c = '\n'
  · subst hfeed
    exact readString_escape (by decide) (by decide) rest
  by_cases hreturn : c = '\r'
  · subst hreturn
    exact readString_escape (by decide) (by decide) rest
  by_cases htab : c = '\t'
  · subst htab
    exact readString_escape (by decide) (by decide) rest
  by_cases hback : c = '\x08'
  · subst hback
    exact readString_escape (by decide) (by decide) rest
  by_cases hform : c = '\x0c'
  · subst hform
    exact readString_escape (by decide) (by decide) rest
  rw [escapedChar, if_neg (not_or.2 ⟨hquote, hslash⟩), if_neg hfeed, if_neg hreturn, if_neg htab,
    if_neg hback, if_neg hform]
  by_cases hcontrol : c < ' '
  · rw [if_pos hcontrol, pieceOf, if_pos ⟨hcontrol, hfeed, hreturn, htab, hback, hform⟩]
    exact readString_control hcontrol rest
  · rw [if_neg hcontrol, pieceOf, if_neg fun h => hcontrol h.1]
    exact readString_plain hquote hslash hcontrol rest

/-- **A written text is read up to its closing quote.** -/
theorem readString_flatMap (s rest : List Char) :
    readString (s.flatMap escapedChar ++ '"' :: rest) = (textLiteral s, rest) := by
  induction s with
  | nil => rfl
  | cons c s ih =>
    rw [List.flatMap_cons, List.append_assoc, readString_escapedChar, ih]
    rfl

/-! ## The text of a literal -/

/-- The number of a control character belongs to no pair. -/
theorem textOf_control {n : Nat} (hn : n < 32) (ending : StringEnd) (rest : List Piece) :
    textOf ending (.unit n :: rest) = (textOf ending rest).map (Char.ofNat n :: ·) := by
  have htrailing : isTrailing n = false := by
    rw [isTrailing, Bool.and_eq_false_iff, decide_eq_false_iff_not]
    exact .inl (by omega)
  have hleading : isLeading n = false := by
    rw [isLeading, Bool.and_eq_false_iff, decide_eq_false_iff_not]
    exact .inl (by omega)
  cases rest with
  | nil => simp only [textOf, htrailing, hleading, Bool.false_eq_true, if_false]
  | cons piece rest =>
    cases piece with
    | char => simp only [textOf, htrailing, hleading, Bool.false_eq_true, if_false]
    | unit => simp only [textOf, htrailing, hleading, Bool.false_eq_true, if_false]

/-- What a literal stands for is the text that was written. -/
theorem text_textLiteral (s : String) : (textLiteral s.toList).text = .ok s := by
  have htext (s : List Char) : textOf .closed (s.map pieceOf) = .ok s := by
    induction s with
    | nil => rfl
    | cons c s ih =>
      rw [List.map_cons, pieceOf]
      split
      · next hcontrol =>
        have hlt : c.toNat < 32 := Char.lt_def.1 hcontrol.1
        rw [textOf_control hlt, ih, Char.ofNat_toNat]
        rfl
      · rw [textOf, ih]
        rfl
  rw [StringLiteral.text, textLiteral, htext]
  exact congrArg Except.ok String.ofList_toList

end BillingConsole.Json
