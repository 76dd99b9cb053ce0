import BillingConsole.Text.CaseTable

/-!
# Lowercase

The full lowercase mapping of the Unicode standard, without language-specific rules.  One letter
has a lowercase form of two characters, and a capital sigma becomes a final sigma at the end of a
word.

## What is here

* `lowerChar` — the lowercase form of a letter by itself.
* `endsWord` — whether a capital sigma between two texts stands at the end of a word.
* `lowercase` — the lowercase form of a text.
-/

set_option autoImplicit false

namespace BillingConsole

/-- Whether a character is in one of the ranges of a table. -/
def inRanges (table : List (Nat × Nat)) (c : Char) : Bool :=
  table.any fun (first, last) => decide (first ≤ c.toNat) && decide (c.toNat ≤ last)

/-- Whether a letter has case. -/
def isCased (c : Char) : Bool :=
  if c.toNat < 0x80 then c.isAlpha else inRanges casedRanges c

/-- Whether a character is skipped when a word is searched for its end. -/
def isCaseIgnorable (c : Char) : Bool := inRanges caseIgnorableRanges c

/-- Whether a character belongs to a run of letters with a lowercase form. -/
def CaseRun.holds (run : CaseRun) (c : Char) : Bool :=
  decide (run.first ≤ c.toNat) && decide (c.toNat ≤ run.last) &&
    (c.toNat - run.first) % run.step == 0

/-- The lowercase form of a character by itself. -/
def lowerChar (c : Char) : List Char :=
  if c.toNat < 0x80 then [c.toLower]
  else if c = 'İ' then ['i', '\u0307']
  else match caseRuns.find? (·.holds c) with
    | some run => [Char.ofNat ((c.toNat : Int) + run.shift).toNat]
    | none => [c]

/-- Whether, past the characters to be skipped, the next one has case. -/
def meetsCased (s : List Char) : Bool :=
  match s.dropWhile isCaseIgnorable with
  | c :: _ => isCased c
  | [] => false

/-- Whether a sigma ends a word: some letter stands before it and none after it.  The text before
is given in reverse. -/
def endsWord (before after : List Char) : Bool := meetsCased before && !meetsCased after

/-- The lowercase form of a text that follows another one, given in reverse. -/
def lowercaseAfter (before : List Char) : List Char → List Char
  | [] => []
  | c :: rest =>
    (if c = 'Σ' then [if endsWord before rest then 'ς' else 'σ'] else lowerChar c) ++
      lowercaseAfter (c :: before) rest

/-- The lowercase form of a text. -/
def lowercase (s : List Char) : List Char := lowercaseAfter [] s

end BillingConsole
