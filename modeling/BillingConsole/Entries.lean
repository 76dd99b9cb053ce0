/-!
# Named entries in order

A short table is a list of names with values.  Setting a name that is there replaces its value in
place; a new name comes last.

## What is here

* `setEntry`, `removeEntry` — a table with a name set, or without it.
* `lookup_setEntry`, `lookup_removeEntry` — what is found afterwards.
-/

set_option autoImplicit false

namespace BillingConsole

/-- A table with the value of a name replaced where the name stands, or appended. -/
def setEntry {α : Type} (name : String) (value : α) : List (String × α) → List (String × α)
  | [] => [(name, value)]
  | entry :: rest =>
    if entry.1 = name then (name, value) :: rest else entry :: setEntry name value rest

/-- A table without a name. -/
def removeEntry {α : Type} (name : String) (entries : List (String × α)) : List (String × α) :=
  entries.filter (·.1 ≠ name)

theorem lookup_cons_eq {α : Type} (key name : String) (value : α) (rest : List (String × α)) :
    ((name, value) :: rest).lookup key = if key = name then some value else rest.lookup key := by
  by_cases h : key = name
  · subst h; simp
  · simp [List.lookup_cons, h, beq_false_of_ne h]

theorem lookup_setEntry {α : Type} (key name : String) (value : α) (entries : List (String × α)) :
    (setEntry name value entries).lookup key =
      if key = name then some value else entries.lookup key := by
  induction entries with
  | nil => simp [setEntry, lookup_cons_eq]
  | cons entry rest ih =>
    obtain ⟨other, old⟩ := entry
    by_cases ho : other = name
    · subst ho
      by_cases h : key = other <;> simp [setEntry, lookup_cons_eq, h]
    · by_cases h : key = other
      · subst h; simp [setEntry, ho]
      · simp [setEntry, lookup_cons_eq, ho, h, ih]

theorem lookup_removeEntry {α : Type} (key name : String) (entries : List (String × α)) :
    (removeEntry name entries).lookup key = if key = name then none else entries.lookup key := by
  unfold removeEntry
  induction entries with
  | nil => simp
  | cons entry rest ih =>
    obtain ⟨other, old⟩ := entry
    by_cases ho : other = name
    · subst ho
      simp only [ne_eq, not_true_eq_false, decide_false, Bool.false_eq_true, not_false_eq_true,
        List.filter_cons_of_neg, ih, lookup_cons_eq]
      by_cases h : key = other <;> simp [h]
    · simp only [ne_eq, ho, not_false_eq_true, decide_true, List.filter_cons_of_pos,
        lookup_cons_eq, ih]
      by_cases h : key = other
      · subst h; simp [ho]
      · simp [h]

end BillingConsole
