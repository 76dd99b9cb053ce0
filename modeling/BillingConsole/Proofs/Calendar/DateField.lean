import BillingConsole.Proofs.Calendar.DateText
import BillingConsole.Spend

/-!
# Dates in date fields

What the console writes into a date field is read back as the same date, and the report is asked for
with the same text.  The reader also takes other spellings of a date, so a field may hold a text that
the console would not have written.

## What is here

* `Spelling.Names.text_injective` — a text is spelled in one way only.
* `Spelling.WrittenOut` — a spelling with all its digits and nothing else;
  `Spelling.Names.writtenOut_iff` — of the spellings of a date only its text is.
* `Date.ofField?_surrounded` — **dates survive their text**, with white space around it.
* `Date.ofField?_spelled` — **which texts are read as a date**, and which of them are its text;
  `Date.not_ofField?_short` — not all are.
-/

set_option autoImplicit false

namespace BillingConsole

/-! ## A text is spelled in one way -/

/-- Two runs of characters with a property are equal where neither can go on. -/
theorem append_inj_of_all {α : Type} {p : α → Bool} {run other rest rest' : List α}
    (hrun : ∀ c ∈ run, p c = true) (hother : ∀ c ∈ other, p c = true)
    (hrest : ∀ c ∈ rest.head?, p c = false) (hrest' : ∀ c ∈ rest'.head?, p c = false)
    (h : run ++ rest = other ++ rest') : run = other ∧ rest = rest' := by
  have htaken := congrArg (List.takeWhile p) h
  rw [takeWhile_append_of_stop hrun hrest, takeWhile_append_of_stop hother hrest'] at htaken
  subst htaken
  exact ⟨rfl, List.append_cancel_left h⟩

/-- The sign that a text starts with. -/
def YearSign.ofStart : List Char → YearSign
  | '+' :: _ => .plus
  | '-' :: _ => .minus
  | _ => .absent

/-- A digit is no sign, so a sign is told from what follows it. -/
theorem YearSign.ofStart_append (sign : YearSign) {rest : List Char}
    (hrest : ∀ c ∈ rest.head?, c.isDigit = true) : ofStart (sign.mark ++ rest) = sign := by
  cases sign with
  | absent =>
    rw [mark, List.nil_append, ofStart.eq_def]
    split
    · simp at hrest
    · simp at hrest
    · rfl
  | plus => rfl
  | minus => rfl

theorem YearSign.mark_append_inj {sign other : YearSign} {rest rest' : List Char}
    (hrest : ∀ c ∈ rest.head?, c.isDigit = true) (hrest' : ∀ c ∈ rest'.head?, c.isDigit = true)
    (h : sign.mark ++ rest = other.mark ++ rest') : sign = other ∧ rest = rest' := by
  have hsign : sign = other := by
    rw [← sign.ofStart_append hrest, h, other.ofStart_append hrest']
  subst hsign
  exact ⟨rfl, List.append_cancel_left h⟩

/-- Only a minus makes a year negative. -/
theorem YearSign.eq_minus {sign : YearSign} {n : ℕ} (h : sign.apply n < 0) : sign = .minus := by
  cases sign with
  | minus => rfl
  | _ =>
    simp only [apply] at h
    omega

theorem YearSign.eq_plus {sign : YearSign} {n : ℕ} (hne : sign ≠ .absent)
    (hpos : 0 < sign.apply n) : sign = .plus := by
  cases sign with
  | absent => exact absurd rfl hne
  | plus => rfl
  | minus =>
    simp only [apply] at hpos
    omega

namespace Spelling

variable {s t : Spelling} {d e : Date}

/-- **A text is spelled in one way only.** -/
theorem Names.text_injective (hs : s.Names d) (ht : t.Names e) (h : s.text = t.text) : s = t := by
  obtain ⟨hsign, hafterSign⟩ :=
    YearSign.mark_append_inj (hs.year.head?_append _) (ht.year.head?_append _) h
  obtain ⟨hyear, hafterYear⟩ := append_inj_of_all hs.year.isDigit ht.year.isDigit (by simp)
    (by simp) hafterSign
  have hblank : ∀ {digits : List Char} (rest : List Char), IsNumber digits →
      ∀ c ∈ (digits ++ rest).head?, isBlank c = false :=
    fun rest hnumber c hc => isBlank_of_isDigit (hnumber.head?_append rest c hc)
  obtain ⟨hbeforeMonth, hafterBlank⟩ := append_inj_of_all hs.blank.1 ht.blank.1
    (hblank _ hs.month) (hblank _ ht.month) (List.cons.inj hafterYear).2
  obtain ⟨hmonth, hafterMonth⟩ := append_inj_of_all hs.month.isDigit ht.month.isDigit (by simp)
    (by simp) hafterBlank
  have hday := (List.cons.inj hafterMonth).2
  rw [← List.append_nil s.day, ← List.append_nil t.day] at hday
  obtain ⟨hbeforeDay, hdays⟩ := append_inj_of_all hs.blank.2 ht.blank.2 (hblank _ hs.day)
    (hblank _ ht.day) hday
  cases s
  cases t
  simp_all

/-! ## The spelling that is written out -/

/-- Month and day have two digits and the year has four, or more without a zero in front; a year has
no sign exactly if it is one from 0 to 9999; and there is no white space. -/
structure WrittenOut (s : Spelling) : Prop where
  blank : s.beforeMonth = [] ∧ s.beforeDay = []
  two : s.month.length = 2 ∧ s.day.length = 2
  four : s.year.length = 4 ∨ 4 < s.year.length ∧ s.year.head? ≠ some '0'
  sign : s.sign = .absent ↔
    0 ≤ s.sign.apply (readDigits s.year) ∧ s.sign.apply (readDigits s.year) ≤ 9999

theorem natAbs_apply (sign : YearSign) (n : ℕ) : (sign.apply n).natAbs = n := by
  cases sign <;> simp [YearSign.apply]

/-- The only spelling of a date that is written out is its text. -/
theorem Names.eq_spelling (names : s.Names d) (h : s.WrittenOut) : s = d.spelling := by
  have hyear : padded10 4 d.year.natAbs = s.year := by
    rw [names.year_eq, natAbs_apply]
    exact padded10_readDigits names.year h.four
  have hmonth : padded10 2 d.month = s.month := by
    rw [names.month_eq]
    exact padded10_readDigits names.month (.inl h.two.1)
  have hday : padded10 2 d.day = s.day := by
    rw [names.day_eq]
    exact padded10_readDigits names.day (.inl h.two.2)
  have hsign : s.sign = d.spelling.sign := by
    have habsent := h.sign
    rw [← names.year_eq] at habsent
    simp only [Date.spelling]
    split_ifs with hplain hneg
    · exact habsent.2 hplain
    · rw [names.year_eq] at hneg
      exact YearSign.eq_minus hneg
    · have hpos : 0 < s.sign.apply (readDigits s.year) := by
        rw [← names.year_eq]
        omega
      exact YearSign.eq_plus (fun hmark => hplain (habsent.1 hmark)) hpos
  obtain ⟨hbeforeMonth, hbeforeDay⟩ := h.blank
  cases s
  simp_all [Date.spelling]

end Spelling

namespace Date

/-- The text of a date is written out. -/
theorem writtenOut_spelling (d : Date) : d.spelling.WrittenOut where
  blank := ⟨rfl, rfl⟩
  two := by
    have hmonth := d.month_bounds
    have hday := d.day_le.trans (daysInMonth_bounds d.year hmonth).2
    exact ⟨length_padded10 (by decide) (by omega), length_padded10 (by decide) (by omega)⟩
  four := by
    by_cases hsmall : d.year.natAbs < 10 ^ 4
    · exact .inl (length_padded10 (by decide) hsmall)
    · have hlength : 4 < (digits10 d.year.natAbs).length := by
        rw [← not_le, digits10, Nat.length_toDigits_le_iff (by decide) (by decide)]
        exact hsmall
      have hyear : d.spelling.year = digits10 d.year.natAbs := by
        show padded10 4 d.year.natAbs = _
        rw [padded10, Nat.sub_eq_zero_of_le hlength.le, List.replicate_zero, List.nil_append]
      rw [hyear]
      exact .inr ⟨hlength, head?_digits10_ne (by omega)⟩
  sign := by
    rw [← d.names_spelling.year_eq]
    simp only [spelling]
    split_ifs <;> simp_all

end Date

/-- Of the spellings of a date only the one that is written out is its text. -/
theorem Spelling.Names.writtenOut_iff {s : Spelling} {d : Date} (names : s.Names d) :
    s.text = d.toCivilDay.text ↔ s.WrittenOut := by
  rw [← d.text_spelling]
  constructor
  · intro h
    rw [names.text_injective d.names_spelling h]
    exact d.writtenOut_spelling
  · intro h
    rw [names.eq_spelling h]

/-! ## Reading a date field -/

namespace Date

variable {d : Date}

/-- A field is read as a date exactly if it spells one, white space around it aside. -/
theorem ofField?_eq_some_iff {text : String} :
    ofField? text = some d ↔ ∃ s : Spelling, s.Names d ∧ trim text.toList = s.text :=
  ofText?_eq_some_iff

theorem ofField?_dateFieldText_surrounded (d : Date) {before after : String}
    (hbefore : ∀ c ∈ before.toList, isBlank c = true)
    (hafter : ∀ c ∈ after.toList, isBlank c = true) :
    ofField? (before ++ dateFieldText (some d) ++ after) = some d := by
  rw [ofField?_eq_some_iff]
  refine ⟨d.spelling, d.names_spelling, ?_⟩
  have htext : (dateFieldText (some d)).toList = d.spelling.text := by
    rw [text_spelling]
    exact String.toList_ofList
  rw [String.toList_append, String.toList_append, htext]
  exact d.names_spelling.trim_surrounded hbefore hafter

/-- **Dates survive their text.**  Every date of the calendar is read back from a field that contains
its text and any white space around it; a report from or up to the date is asked for with the same
text; and no other date has this text. -/
theorem ofField?_surrounded (d : Date) :
    (∀ before after : String, (∀ c ∈ before.toList, isBlank c = true) →
      (∀ c ∈ after.toList, isBlank c = true) →
        ofField? (before ++ dateFieldText (some d) ++ after) = some d) ∧
    (∀ bound : Option Date,
      (SpendQuery.forRange (some d) bound).start = some (dateFieldText (some d)) ∧
      (SpendQuery.forRange bound (some d)).stop = some (dateFieldText (some d))) ∧
    ∀ e : Date, d ≠ e → dateFieldText (some d) ≠ dateFieldText (some e) := by
  refine ⟨fun _ _ => d.ofField?_dateFieldText_surrounded, fun _ => ⟨rfl, rfl⟩, ?_⟩
  intro e hne htext
  exact hne (text_injective htext)

/-- A leap day of a year with a sign and five digits. -/
def signedLeapDay : Date := ⟨-10000, 2, 29, by decide⟩

theorem ofField?_surrounded_leapDay :
    dateFieldText (some signedLeapDay) = "-10000-02-29" ∧
      ofField? ("\t\u3000" ++ dateFieldText (some signedLeapDay) ++ "\n") = some signedLeapDay ∧
      dateFieldText (some signedLeapDay) ≠ dateFieldText (some ⟨10000, 2, 29, by decide⟩) := by
  obtain ⟨hread, -, hdistinct⟩ := ofField?_surrounded signedLeapDay
  have hbefore : ∀ c ∈ "\t\u3000".toList, isBlank c = true := List.all_eq_true.1 (by decide)
  have hafter : ∀ c ∈ "\n".toList, isBlank c = true := List.all_eq_true.1 (by decide)
  exact ⟨by decide, hread "\t\u3000" "\n" hbefore hafter,
    hdistinct ⟨10000, 2, 29, by decide⟩ (by decide)⟩

/-- **Which texts are read as a date**: the spellings of the date, white space around them aside.  Of
these one is the text of the date, the spelling that is written out; the others leave out zeros, have
white space inside or a sign that the year does not need. -/
theorem ofField?_spelled (text : String) (d : Date) :
    (ofField? text = some d ↔ ∃ s : Spelling, s.Names d ∧ trim text.toList = s.text) ∧
      ∀ s : Spelling, s.Names d → (s.text = (dateFieldText (some d)).toList ↔ s.WrittenOut) := by
  refine ⟨ofField?_eq_some_iff, fun s names => ?_⟩
  rw [← names.writtenOut_iff]
  exact iff_of_eq (congrArg (s.text = ·) String.toList_ofList)

/-- A spelling of the fifth of January 2024 that leaves out zeros. -/
def shortFifth : Spelling := ⟨.absent, "2024".toList, [], "1".toList, [], "5".toList⟩

theorem ofField?_spelled_short :
    shortFifth.Names ⟨2024, 1, 5, by decide⟩ ∧
      ofField? " 2024-1-5" = some ⟨2024, 1, 5, by decide⟩ ∧
      shortFifth.text ≠ (dateFieldText (some ⟨2024, 1, 5, by decide⟩)).toList := by
  have hnames : shortFifth.Names ⟨2024, 1, 5, by decide⟩ :=
    { year := ⟨by decide, List.all_eq_true.1 (by decide)⟩
      month := ⟨by decide, List.all_eq_true.1 (by decide)⟩
      day := ⟨by decide, List.all_eq_true.1 (by decide)⟩
      plain := by decide
      short := by decide
      blank := ⟨List.all_eq_true.1 (by decide), List.all_eq_true.1 (by decide)⟩
      year_eq := by decide
      month_eq := by decide
      day_eq := by decide }
  have hspelled := ofField?_spelled " 2024-1-5" ⟨2024, 1, 5, by decide⟩
  refine ⟨hnames, hspelled.1.2 ⟨shortFifth, hnames, by decide⟩, fun htext => ?_⟩
  exact absurd ((hspelled.2 shortFifth hnames).1 htext).two (by decide)

/-- Not only the text of a date is read as the date. -/
theorem not_ofField?_short :
    ¬∀ (text : String) (d : Date), ofField? text = some d →
      trim text.toList = (dateFieldText (some d)).toList := by
  intro h
  exact absurd (h "2024-1-5" ⟨2024, 1, 5, by decide⟩ (by decide)) (by decide)

end Date

end BillingConsole
