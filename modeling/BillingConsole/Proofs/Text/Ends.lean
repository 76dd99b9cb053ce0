import BillingConsole.Text.Blank
import Mathlib.Data.List.DropRight
import Mathlib.Data.List.TakeWhile

/-!
# The ends of a text

A run of characters at an end of a text is told from the rest by a character that does not belong to
it.

## What is here

* `takeWhile_append_of_stop`, `dropWhile_append_of_stop` — a run at the start of a text.
* `dropEndWhile_append`, `dropEndWhile_eq_self_iff`, `exists_dropped` — a run at its end.
* `trimStart_append`, `trimEnd_append`, `trim_surrounded` — white space around a text is taken off;
  `head?_trim`, `getLast?_trim` — none is left at its ends.
-/

set_option autoImplicit false

namespace BillingConsole

/-! ## Runs of characters -/

section Runs

variable {α : Type} {p : α → Bool}

/-- A run of elements with a property is taken up to what follows it. -/
theorem takeWhile_append_of_stop {run rest : List α} (hrun : ∀ c ∈ run, p c = true)
    (hrest : ∀ c ∈ rest.head?, p c = false) : (run ++ rest).takeWhile p = run := by
  rw [List.takeWhile_append_of_pos hrun]
  cases rest with
  | nil => simp
  | cons c more => simp [hrest c rfl]

/-- What follows a run of elements with a property is left without it. -/
theorem dropWhile_append_of_stop {run rest : List α} (hrun : ∀ c ∈ run, p c = true)
    (hrest : ∀ c ∈ rest.head?, p c = false) : (run ++ rest).dropWhile p = rest := by
  have hboth := List.takeWhile_append_dropWhile (p := p) (l := run ++ rest)
  rw [takeWhile_append_of_stop hrun hrest] at hboth
  exact List.append_cancel_left hboth

/-- What comes before a run of elements with a property is left without it. -/
theorem dropEndWhile_append {text run : List α} (hrun : ∀ c ∈ run, p c = true)
    (htext : ∀ c ∈ text.getLast?, p c = false) : dropEndWhile p (text ++ run) = text := by
  rw [dropEndWhile, List.reverse_append, dropWhile_append_of_stop (by simpa using hrun)
    (by simpa using htext), List.reverse_reverse]

theorem isPrefix_dropEndWhile (p : α → Bool) (text : List α) : dropEndWhile p text <+: text :=
  List.rdropWhile_prefix p text

/-- A text ends in what is dropped. -/
theorem exists_dropped (p : α → Bool) (text : List α) :
    ∃ run, text = dropEndWhile p text ++ run ∧ ∀ c ∈ run, p c = true :=
  ⟨text.rtakeWhile p, List.rdropWhile_append_rtakeWhile.symm, fun _ => List.mem_rtakeWhile_imp⟩

theorem getLast?_dropEndWhile (p : α → Bool) (text : List α) :
    ∀ c ∈ (dropEndWhile p text).getLast?, p c = false := by
  intro c hc
  rw [dropEndWhile, List.getLast?_reverse] at hc
  simpa [Option.mem_def.1 hc] using List.head?_dropWhile_not p text.reverse

/-- Nothing is dropped exactly where the last element has not the property. -/
theorem dropEndWhile_eq_self_iff {text : List α} :
    dropEndWhile p text = text ↔ ∀ c ∈ text.getLast?, p c = false := by
  constructor
  · intro h
    rw [← h]
    exact getLast?_dropEndWhile p text
  · intro h
    have happend : dropEndWhile p (text ++ []) = text := dropEndWhile_append (by simp) h
    rwa [List.append_nil] at happend

end Runs

/-! ## White space -/

/-- White space is passed over up to what follows it. -/
theorem trimStart_append {blanks rest : List Char} (hblanks : ∀ c ∈ blanks, isBlank c = true)
    (hrest : ∀ c ∈ rest.head?, isBlank c = false) : trimStart (blanks ++ rest) = rest :=
  dropWhile_append_of_stop hblanks hrest

/-- A text that starts with no white space is as before without it. -/
theorem trimStart_eq {text : List Char} (h : ∀ c ∈ text.head?, isBlank c = false) :
    trimStart text = text := by
  have happend : trimStart ([] ++ text) = text := trimStart_append (by simp) h
  exact happend

theorem trimEnd_append {text blanks : List Char} (hblanks : ∀ c ∈ blanks, isBlank c = true)
    (htext : ∀ c ∈ text.getLast?, isBlank c = false) : trimEnd (text ++ blanks) = text :=
  dropEndWhile_append hblanks htext

/-- White space around a text is taken off. -/
theorem trim_surrounded {before text after : List Char} (hbefore : ∀ c ∈ before, isBlank c = true)
    (hafter : ∀ c ∈ after, isBlank c = true) (hne : text ≠ [])
    (hfirst : ∀ c ∈ text.head?, isBlank c = false)
    (hlast : ∀ c ∈ text.getLast?, isBlank c = false) : trim (before ++ text ++ after) = text := by
  have hhead : ∀ c ∈ (text ++ after).head?, isBlank c = false := by
    obtain ⟨c, more, rfl⟩ := List.exists_cons_of_ne_nil hne
    exact hfirst
  rw [trim, List.append_assoc, trimStart_append hbefore hhead, trimEnd_append hafter hlast]

/-- What a text starts with is at the start of the text. -/
theorem mem_head?_of_isPrefix {start text : List Char} (h : start <+: text) :
    ∀ c ∈ start.head?, c ∈ text.head? := by
  obtain ⟨rest, rfl⟩ := h
  intro c hc
  rw [Option.mem_def, List.head?_append, Option.mem_def.1 hc, Option.some_or]

/-- What is left of a text starts with no white space. -/
theorem head?_trim (text : List Char) : ∀ c ∈ (trim text).head?, isBlank c = false := by
  intro c hc
  have hhead := mem_head?_of_isPrefix (isPrefix_dropEndWhile isBlank (trimStart text)) c hc
  rw [trimStart] at hhead
  simpa [Option.mem_def.1 hhead] using List.head?_dropWhile_not isBlank text

/-- What is left of a text ends in no white space. -/
theorem getLast?_trim (text : List Char) : ∀ c ∈ (trim text).getLast?, isBlank c = false :=
  getLast?_dropEndWhile isBlank (trimStart text)

/-- White space is taken off once. -/
theorem trimStart_trim (text : List Char) : trimStart (trim text) = trim text :=
  trimStart_eq (head?_trim text)

end BillingConsole
