/-!
# Looking for a text inside another

## What is here

* `occursIn` — whether a text is a contiguous part of another; the empty text always is.
* `splitAround` — a list cut at the first element with a property, which is dropped.
-/

set_option autoImplicit false

namespace BillingConsole

/-- Whether `needle` stands somewhere in the text. -/
def occursIn (needle : List Char) : List Char → Bool
  | [] => needle.isEmpty
  | c :: rest => needle.isPrefixOf (c :: rest) || occursIn needle rest

theorem occursIn_iff (needle text : List Char) :
    occursIn needle text = true ↔ needle <:+: text := by
  induction text with
  | nil => simp [occursIn, List.isEmpty_iff]
  | cons c rest ih =>
    simp [occursIn, ih, List.infix_cons_iff, List.isPrefixOf_iff_prefix]

/-- What stands before and after the first element with a property, or `none` without one. -/
def splitAround {α : Type} (p : α → Bool) (s : List α) : Option (List α × List α) :=
  match s.span (fun x => !p x) with
  | (before, _ :: after) => some (before, after)
  | (_, []) => none

end BillingConsole
