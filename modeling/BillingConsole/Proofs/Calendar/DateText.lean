import BillingConsole.Calendar.DateText
import BillingConsole.Proofs.Calendar.Order
import BillingConsole.Proofs.Number.Digits
import BillingConsole.Proofs.Text.Ends
import Mathlib.Data.List.TakeDrop

/-!
# Dates read from their spellings

A date is read from a year with or without a sign, a month and a day with hyphens between them.  The
reader does not ask for all zeros in front and allows white space before the month and the day, so a
date has many spellings, of which its text is one.

## What is here

* `takeNumber?_append`, `exists_of_takeNumber?`, and the same for `takePart?` and `takeYear?` — the
  parts of a date are read up to what follows them, and nothing else is read.
* `Spelling`, `Spelling.Names` — a spelling of a date.
* `Date.ofText?_eq_some_iff` — **a date is read from its spellings and from no other text.**
* `Date.spelling` — the spelling that is the text of a date; so `Date.ofText?_of_trim_eq`, a date is
  read back from its text, and `Date.text_injective`, different dates have different texts.
-/

set_option autoImplicit false

namespace BillingConsole

theorem isBlank_of_isDigit {c : Char} (h : c.isDigit = true) : isBlank c = false := by
  obtain ⟨hlow, hhigh⟩ := isDigit_bounds h
  simp only [isBlank]
  grind

/-! ## Numbers -/

/-- A number is read up to what follows it, if that is no digit. -/
theorem takeNumber?_append {width : ℕ} {digits rest : List Char} (h : IsNumber digits)
    (hwidth : digits.length ≤ width) (hrest : ∀ c ∈ rest.head?, c.isDigit = false) :
    takeNumber? width (digits ++ rest) = some (readDigits digits, rest) := by
  have hstop : ∀ c ∈ (rest.take (width - digits.length)).head?, c.isDigit = false := by
    intro c hc
    rw [List.head?_take] at hc
    split at hc
    · simp at hc
    · exact hrest c hc
  have htaken : ((digits ++ rest).take width).takeWhile Char.isDigit = digits := by
    rw [List.take_append, List.take_of_length_le hwidth, takeWhile_append_of_stop h.isDigit hstop]
  rw [takeNumber?, htaken, if_neg h.ne_nil, List.drop_left]

/-- What is read as a number are digits. -/
theorem exists_of_takeNumber? {width n : ℕ} {text rest : List Char}
    (h : takeNumber? width text = some (n, rest)) :
    ∃ digits, IsNumber digits ∧ digits.length ≤ width ∧ n = readDigits digits ∧
      text = digits ++ rest := by
  rw [takeNumber?] at h
  split at h
  · simp at h
  · next hne =>
    rw [Option.some_inj, Prod.mk.injEq] at h
    obtain ⟨rfl, rfl⟩ := h
    have hfront := List.takeWhile_prefix Char.isDigit (l := text.take width)
    refine ⟨_, ⟨hne, fun c hc => List.mem_takeWhile_imp hc⟩, ?_, rfl, ?_⟩
    · exact hfront.length_le.trans (List.length_take_le _ _)
    · exact (List.prefix_iff_eq_append.1 (hfront.trans (List.take_prefix _ _))).symm

/-! ## The parts of a date -/

theorem IsNumber.head?_append {digits : List Char} (h : IsNumber digits) (rest : List Char) :
    ∀ c ∈ (digits ++ rest).head?, c.isDigit = true := by
  obtain ⟨first, more, rfl⟩ := List.exists_cons_of_ne_nil h.ne_nil
  simpa using h.isDigit first List.mem_cons_self

/-- A month or a day is read, with white space before it. -/
theorem takePart?_append {blanks digits : List Char} (rest : List Char)
    (hblanks : ∀ c ∈ blanks, isBlank c = true) (h : IsNumber digits) (hlength : digits.length ≤ 2)
    (hrest : ∀ c ∈ rest.head?, c.isDigit = false) :
    takePart? ('-' :: (blanks ++ (digits ++ rest))) = some (readDigits digits, rest) := by
  have hdigit : ∀ c ∈ (digits ++ rest).head?, isBlank c = false :=
    fun c hc => isBlank_of_isDigit (h.head?_append rest c hc)
  rw [takePart?, trimStart_append hblanks hdigit, takeNumber?_append h hlength hrest]

/-- What is read as a month or a day follows a hyphen and white space. -/
theorem exists_of_takePart? {n : ℕ} {text rest : List Char} (h : takePart? text = some (n, rest)) :
    ∃ blanks digits, (∀ c ∈ blanks, isBlank c = true) ∧ IsNumber digits ∧ digits.length ≤ 2 ∧
      n = readDigits digits ∧ text = '-' :: (blanks ++ (digits ++ rest)) := by
  rw [takePart?.eq_def] at h
  split at h
  · next more =>
    obtain ⟨digits, hnumber, hlength, hn, hmore⟩ := exists_of_takeNumber? h
    refine ⟨more.takeWhile isBlank, digits, fun c hc => List.mem_takeWhile_imp hc, hnumber,
      hlength, hn, ?_⟩
    rw [← hmore, trimStart, List.takeWhile_append_dropWhile]
  · simp at h

/-- The sign before a year. -/
inductive YearSign where
  | absent
  | plus
  | minus
deriving DecidableEq

namespace YearSign

/-- The sign as written. -/
def mark : YearSign → List Char
  | absent => []
  | plus => ['+']
  | minus => ['-']

/-- A year by its sign and its number. -/
def apply : YearSign → ℕ → ℤ
  | minus, n => -n
  | _, n => n

end YearSign

/-- A year is read with its sign; without one it may have four digits. -/
theorem takeYear?_append (sign : YearSign) {digits : List Char} (rest : List Char)
    (h : IsNumber digits) (hplain : sign = .absent → digits.length ≤ 4)
    (hrest : ∀ c ∈ rest.head?, c.isDigit = false) :
    takeYear? (sign.mark ++ (digits ++ rest)) = some (sign.apply (readDigits digits), rest) := by
  have hlength : digits.length ≤ (digits ++ rest).length := by simp
  cases sign with
  | absent =>
    have hdigit := h.head?_append rest
    have hread := takeNumber?_append h (hplain rfl) hrest
    rw [YearSign.mark, List.nil_append, takeYear?,
      trimStart_eq fun c hc => isBlank_of_isDigit (hdigit c hc)]
    -- a digit is no sign
    split
    · next heq => simp [heq] at hdigit
    · next heq => simp [heq] at hdigit
    · rw [hread]
      rfl
  | plus =>
    have hstart : trimStart ('+' :: (digits ++ rest)) = '+' :: (digits ++ rest) :=
      trimStart_eq (by simp [isBlank])
    simp only [YearSign.mark, List.singleton_append, takeYear?, hstart,
      takeNumber?_append h hlength hrest]
    rfl
  | minus =>
    have hstart : trimStart ('-' :: (digits ++ rest)) = '-' :: (digits ++ rest) :=
      trimStart_eq (by simp [isBlank])
    simp only [YearSign.mark, List.singleton_append, takeYear?, hstart,
      takeNumber?_append h hlength hrest]
    rfl

/-- What is read as the number of a year are digits. -/
theorem exists_of_signedNumber (sign : YearSign) {width : ℕ} {year : ℤ} {text rest : List Char}
    (h : (takeNumber? width text).map (fun read => (sign.apply read.1, read.2)) =
      some (year, rest)) :
    ∃ digits, IsNumber digits ∧ digits.length ≤ width ∧ year = sign.apply (readDigits digits) ∧
      text = digits ++ rest := by
  obtain ⟨⟨n, more⟩, hread, heq⟩ := Option.map_eq_some_iff.1 h
  obtain ⟨digits, hnumber, hlength, rfl, rfl⟩ := exists_of_takeNumber? hread
  rw [Prod.mk.injEq] at heq
  obtain ⟨rfl, rfl⟩ := heq
  exact ⟨digits, hnumber, hlength, rfl, rfl⟩

/-- What is read as a year is a sign and digits. -/
theorem exists_of_takeYear? {year : ℤ} {text rest : List Char} (htext : trimStart text = text)
    (h : takeYear? text = some (year, rest)) :
    ∃ (sign : YearSign) (digits : List Char), IsNumber digits ∧
      (sign = .absent → digits.length ≤ 4) ∧ year = sign.apply (readDigits digits) ∧
        text = sign.mark ++ (digits ++ rest) := by
  rw [takeYear?, htext] at h
  split at h
  · obtain ⟨digits, hnumber, -, hyear, rfl⟩ := exists_of_signedNumber .minus h
    exact ⟨.minus, digits, hnumber, nofun, hyear, rfl⟩
  · obtain ⟨digits, hnumber, -, hyear, rfl⟩ := exists_of_signedNumber .plus h
    exact ⟨.plus, digits, hnumber, nofun, hyear, rfl⟩
  · obtain ⟨digits, hnumber, hlength, hyear, rfl⟩ := exists_of_signedNumber .absent h
    exact ⟨.absent, digits, hnumber, fun _ => hlength, hyear, rfl⟩

/-! ## Spellings -/

/-- The parts of a date as they are spelled. -/
structure Spelling where
  sign : YearSign
  year : List Char
  beforeMonth : List Char
  month : List Char
  beforeDay : List Char
  day : List Char

namespace Spelling

/-- The spelling as a text. -/
def text (s : Spelling) : List Char :=
  s.sign.mark ++ (s.year ++ '-' :: (s.beforeMonth ++ (s.month ++ '-' :: (s.beforeDay ++ s.day))))

/-- The spelling has the form of a date, and its numbers are those of a date. -/
structure Names (s : Spelling) (d : Date) : Prop where
  year : IsNumber s.year
  month : IsNumber s.month
  day : IsNumber s.day
  /-- A year without a sign has at most four digits. -/
  plain : s.sign = .absent → s.year.length ≤ 4
  /-- Month and day have at most two. -/
  short : s.month.length ≤ 2 ∧ s.day.length ≤ 2
  /-- There may be white space before month and day. -/
  blank : (∀ c ∈ s.beforeMonth, isBlank c = true) ∧ ∀ c ∈ s.beforeDay, isBlank c = true
  year_eq : d.year = s.sign.apply (readDigits s.year)
  month_eq : d.month = readDigits s.month
  day_eq : d.day = readDigits s.day

/-- A spelling starts with a sign or a digit and ends with a digit, so only what is around it is taken
off as white space. -/
theorem Names.trim_surrounded {s : Spelling} {d : Date} (names : s.Names d)
    {before after : List Char} (hbefore : ∀ c ∈ before, isBlank c = true)
    (hafter : ∀ c ∈ after, isBlank c = true) : trim (before ++ s.text ++ after) = s.text := by
  have hne : s.text ≠ [] := by simp [text]
  refine BillingConsole.trim_surrounded hbefore hafter hne ?_ ?_
  · intro c hc
    rw [text] at hc
    cases hsign : s.sign with
    | absent =>
      rw [hsign, YearSign.mark, List.nil_append] at hc
      exact isBlank_of_isDigit (names.year.head?_append _ c hc)
    | plus =>
      obtain rfl : '+' = c := by simpa [hsign, YearSign.mark] using hc
      rfl
    | minus =>
      obtain rfl : '-' = c := by simpa [hsign, YearSign.mark] using hc
      rfl
  · intro c hc
    obtain ⟨front, htext⟩ : ∃ front, s.text = front ++ s.day :=
      ⟨s.sign.mark ++ (s.year ++ '-' :: (s.beforeMonth ++ (s.month ++ '-' :: s.beforeDay))),
        by simp [text]⟩
    rw [htext, List.getLast?_append, List.getLast?_eq_some_getLast names.day.ne_nil,
      Option.some_or, ← List.getLast?_eq_some_getLast names.day.ne_nil] at hc
    exact isBlank_of_isDigit (names.day.isDigit c (List.mem_of_getLast? hc))

end Spelling

namespace Date

variable {d : Date}

/-- **A date is read from its spellings and from no other text**, white space around it aside. -/
theorem ofText?_eq_some_iff {text : List Char} :
    ofText? text = some d ↔ ∃ s : Spelling, s.Names d ∧ trim text = s.text := by
  constructor
  · intro h
    simp only [ofText?, Option.bind_eq_bind, Option.bind_eq_some_iff] at h
    obtain ⟨⟨year, afterYear⟩, hyear, ⟨month, afterMonth⟩, hmonth, ⟨day, afterDay⟩, hday, hdate⟩ := h
    obtain ⟨sign, yearDigits, hyearNumber, hplain, rfl, htext⟩ :=
      exists_of_takeYear? (trimStart_trim text) hyear
    obtain ⟨beforeMonth, monthDigits, hbeforeMonth, hmonthNumber, hmonthLength, rfl, rfl⟩ :=
      exists_of_takePart? hmonth
    obtain ⟨beforeDay, dayDigits, hbeforeDay, hdayNumber, hdayLength, rfl, rfl⟩ :=
      exists_of_takePart? hday
    split at hdate
    · next hend =>
      dsimp only at hend
      subst hend
      obtain ⟨hyearEq, hmonthEq, hdayEq⟩ := ofYmd?_eq_some_iff.1 hdate
      rw [List.append_nil] at htext
      exact ⟨⟨sign, yearDigits, beforeMonth, monthDigits, beforeDay, dayDigits⟩,
        ⟨hyearNumber, hmonthNumber, hdayNumber, hplain, ⟨hmonthLength, hdayLength⟩,
          ⟨hbeforeMonth, hbeforeDay⟩, hyearEq, hmonthEq, hdayEq⟩, htext⟩
    · simp at hdate
  · rintro ⟨s, names, htext⟩
    have hday := takePart?_append [] names.blank.2 names.day names.short.2 (by simp)
    have hmonth := takePart?_append ('-' :: (s.beforeDay ++ s.day)) names.blank.1 names.month
      names.short.1 (by simp)
    have hyear := takeYear?_append s.sign
      ('-' :: (s.beforeMonth ++ (s.month ++ '-' :: (s.beforeDay ++ s.day)))) names.year names.plain
      (by simp)
    rw [List.append_nil] at hday
    rw [ofText?, htext, Spelling.text]
    simp only [hyear, hmonth, hday, Option.bind_eq_bind, Option.bind_some, if_true]
    exact ofYmd?_eq_some_iff.2 ⟨names.year_eq, names.month_eq, names.day_eq⟩

/-! ## The text of a date -/

/-- The spelling that is the text of a date. -/
def spelling (d : Date) : Spelling where
  sign := if 0 ≤ d.year ∧ d.year ≤ 9999 then .absent else if d.year < 0 then .minus else .plus
  year := padded10 4 d.year.natAbs
  beforeMonth := []
  month := padded10 2 d.month
  beforeDay := []
  day := padded10 2 d.day

theorem text_spelling (d : Date) : d.spelling.text = d.toCivilDay.text := by
  rw [Spelling.text, CivilDay.text, toCivilDay, yearText, spelling]
  split_ifs with hplain hneg
  · have hyear : d.year.toNat = d.year.natAbs := by omega
    simp [YearSign.mark, hyear]
  · simp [YearSign.mark]
  · simp [YearSign.mark]

theorem names_spelling (d : Date) : d.spelling.Names d where
  year := isNumber_padded10 _ _
  month := isNumber_padded10 _ _
  day := isNumber_padded10 _ _
  plain := by
    intro hsign
    refine (length_padded10 (by decide) ?_).le
    simp only [spelling] at hsign
    split_ifs at hsign with hplain
    omega
  short := by
    have hmonth := d.month_bounds
    have hday := d.day_le.trans (daysInMonth_bounds d.year hmonth).2
    exact ⟨(length_padded10 (by decide) (by omega)).le,
      (length_padded10 (by decide) (by omega)).le⟩
  blank := by simp [spelling]
  year_eq := by
    simp only [spelling, readDigits_padded10]
    split_ifs <;> simp only [YearSign.apply] <;> omega
  month_eq := (readDigits_padded10 _ _).symm
  day_eq := (readDigits_padded10 _ _).symm

/-- **A date is read back** from its text, whatever white space was taken off around it. -/
theorem ofText?_of_trim_eq {text : List Char} (h : trim text = d.toCivilDay.text) :
    ofText? text = some d :=
  ofText?_eq_some_iff.2 ⟨d.spelling, d.names_spelling, h.trans d.text_spelling.symm⟩

theorem trim_text (d : Date) : trim d.toCivilDay.text = d.toCivilDay.text := by
  have htrim : trim ([] ++ d.spelling.text ++ []) = d.spelling.text :=
    d.names_spelling.trim_surrounded (by simp) (by simp)
  rwa [List.nil_append, List.append_nil, text_spelling] at htrim

/-- Different dates have different texts. -/
theorem text_injective : Function.Injective text := by
  intro d e h
  have htext : d.toCivilDay.text = e.toCivilDay.text := String.ofList_injective h
  have hd := ofText?_of_trim_eq d.trim_text
  rw [htext, ofText?_of_trim_eq e.trim_text, Option.some_inj] at hd
  exact hd.symm

end Date

end BillingConsole
