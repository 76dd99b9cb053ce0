import BillingConsole.Calendar.Date
import BillingConsole.Number.Fixed
import BillingConsole.Number.Literal
import BillingConsole.Text.Blank

/-!
# Dates as text

A date is exchanged as year, month and day joined by hyphens.  A year from 0 to 9999 has four
digits; any other has a sign and at least four.

## What is here

* `CivilDay.text`, `Date.text` — the text of a date.
* `Date.ofText?` — reading: a signed year may have any number of digits and an unsigned one at most
  four, month and day at most two, each number may follow white space, and the whole is trimmed.
* `dateFieldText`, `Date.ofField?` — the contents of a date field, where an empty field is no date.
-/

set_option autoImplicit false

namespace BillingConsole

/-- The text of a year. -/
def yearText (year : Int) : List Char :=
  if 0 ≤ year ∧ year ≤ 9999 then padded10 4 year.toNat
  else (if year < 0 then '-' else '+') :: padded10 4 year.natAbs

/-- Year, month and day joined by hyphens. -/
def CivilDay.text (d : CivilDay) : List Char :=
  yearText d.year ++ '-' :: padded10 2 d.month ++ '-' :: padded10 2 d.day

/-- The text of a date. -/
def Date.text (d : Date) : String := String.ofList d.toCivilDay.text

/-- At least one and at most `width` digits at the start of a text, and what follows them. -/
def takeNumber? (width : Nat) (text : List Char) : Option (Nat × List Char) :=
  let digits := (text.take width).takeWhile Char.isDigit
  if digits = [] then none else some (readDigits digits, text.drop digits.length)

/-- A year at the start of a text: any number of digits after a sign, at most four without. -/
def takeYear? (text : List Char) : Option (Int × List Char) :=
  match trimStart text with
  | '-' :: rest => (takeNumber? rest.length rest).map fun (n, more) => (-(n : Int), more)
  | '+' :: rest => (takeNumber? rest.length rest).map fun (n, more) => ((n : Int), more)
  | rest => (takeNumber? 4 rest).map fun (n, more) => ((n : Int), more)

/-- A hyphen and a number of at most two digits, with white space allowed between them. -/
def takePart? : List Char → Option (Nat × List Char)
  | '-' :: rest => takeNumber? 2 (trimStart rest)
  | _ => none

/-- The date a text stands for, white space around it aside. -/
def Date.ofText? (text : List Char) : Option Date := do
  let (year, afterYear) ← takeYear? (trim text)
  let (month, afterMonth) ← takePart? afterYear
  let (day, afterDay) ← takePart? afterMonth
  if afterDay = [] then Date.ofYmd? year month day else none

/-- What a date field contains. -/
def dateFieldText : Option Date → String
  | some d => d.text
  | none => ""

/-- The date in a date field; an empty or unreadable field holds none. -/
def Date.ofField? (text : String) : Option Date := Date.ofText? text.toList

end BillingConsole
