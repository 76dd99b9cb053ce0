import BillingConsole.Proofs.Money.Grouping
import BillingConsole.Proofs.Number.Digits

/-!
# Thousands set apart

A number that is already text is grouped between its sign and its point.  All that grouping does to
the text is to put separators into it, so the text is had back by deleting them; and they stand where
a reader expects them.

## What is here

* `SetsAside` — the parts of a text of which only the middle one is grouped; `exists_setsAside` —
  every text has them.
* `groupThousands_of_setsAside` — what becomes of the parts.
* `Grouping.splitOn_eq` — the groups are found again at the separators.
* `IsGrouped` — a text with separators in the right places and nothing else changed.
* `isGrouped_groupThousands` — **grouping only inserts separators, at the right places**, and a count
  reads as before without its commas.
-/

set_option autoImplicit false

namespace BillingConsole

/-! ## What is set aside -/

/-- A text in three parts: one leading minus sign, if there is one, what stands before the first
point, and everything from that point on. -/
structure SetsAside (sign whole fraction text : List Char) : Prop where
  text_eq : text = sign ++ (whole ++ fraction)
  sign : sign = ['-'] ∨ sign = [] ∧ text.head? ≠ some '-'
  whole : '.' ∉ whole
  fraction : fraction = [] ∨ fraction.head? = some '.'

/-- Every text is cut at its first point. -/
theorem exists_cut_at_point (text : List Char) :
    ∃ whole fraction, text = whole ++ fraction ∧ '.' ∉ whole ∧
      (fraction = [] ∨ fraction.head? = some '.') := by
  refine ⟨text.takeWhile (· != '.'), text.dropWhile (· != '.'),
    List.takeWhile_append_dropWhile.symm, fun hmem => ?_, ?_⟩
  · exact absurd (List.mem_takeWhile_imp hmem) (by decide)
  · have hhead := List.head?_dropWhile_not (· != '.') text
    cases hrest : text.dropWhile (· != '.') with
    | nil => exact .inl rfl
    | cons c rest =>
      rw [hrest] at hhead
      exact .inr (congrArg some (by simpa using hhead))

/-- Every text has three parts. -/
theorem exists_setsAside (text : List Char) :
    ∃ sign whole fraction, SetsAside sign whole fraction text := by
  by_cases hsign : text.head? = some '-'
  · obtain ⟨unsigned, rfl⟩ := List.head?_eq_some_iff.1 hsign
    obtain ⟨whole, fraction, rfl, hwhole, hfraction⟩ := exists_cut_at_point unsigned
    exact ⟨['-'], whole, fraction, rfl, .inl rfl, hwhole, hfraction⟩
  · obtain ⟨whole, fraction, rfl, hwhole, hfraction⟩ := exists_cut_at_point text
    exact ⟨[], whole, fraction, rfl, .inr ⟨rfl, hsign⟩, hwhole, hfraction⟩

/-- Without a point there is nothing to cut at. -/
theorem splitAround_eq_none {α : Type} {p : α → Bool} {s : List α} (h : ∀ x ∈ s, p x = false) :
    splitAround p s = none := by
  have hkeep : ∀ x ∈ s, (!p x) = true := fun x hx => by rw [h x hx]; rfl
  rw [splitAround, List.span_eq_takeWhile_dropWhile, List.takeWhile_eq_self_iff.2 hkeep,
    List.dropWhile_eq_nil_iff.2 hkeep]

/-- Of a text without a sign only what stands before the point is grouped. -/
theorem grouped_of_cut {separator : Char} (sign : List Char) {whole fraction : List Char}
    (hwhole : '.' ∉ whole) (hfraction : fraction = [] ∨ fraction.head? = some '.') :
    (match splitAround (· == '.') (whole ++ fraction) with
      | some (whole, fraction) => sign ++ groupDigits separator whole ++ '.' :: fraction
      | none => sign ++ groupDigits separator (whole ++ fraction)) =
        sign ++ (groupDigits separator whole ++ fraction) := by
  have hnoPoint : ∀ c ∈ whole, (c == '.') = false :=
    fun c hc => beq_false_of_ne fun heq => hwhole (heq ▸ hc)
  rcases hfraction with rfl | hpoint
  · rw [List.append_nil, splitAround_eq_none hnoPoint, List.append_nil]
  · obtain ⟨decimals, rfl⟩ := List.head?_eq_some_iff.1 hpoint
    rw [splitAround_append hnoPoint (beq_self_eq_true _), ← List.append_assoc]

/-- Only what stands between the sign and the point is grouped. -/
theorem groupThousands_of_setsAside {separator : Char} {sign whole fraction text : List Char}
    (h : SetsAside sign whole fraction text) :
    groupThousands separator text = sign ++ (groupDigits separator whole ++ fraction) := by
  rw [← grouped_of_cut sign h.whole h.fraction, h.text_eq]
  rcases h.sign with rfl | ⟨rfl, hhead⟩
  · rfl
  · rw [h.text_eq] at hhead
    rw [groupThousands]
    · rfl
    · rintro rest heq
      exact hhead (by rw [heq]; rfl)

/-! ## Where the separators stand -/

/-- Groups in which the separator does not occur are found again at the separators. -/
theorem Grouping.splitOn_eq {groups : List (List Char)} {text : List Char}
    (grouping : Grouping groups text) (hne : text ≠ []) {separator : Char}
    (hseparator : separator ∉ text) :
    ([separator].intercalate groups).splitOn separator = groups := by
  refine List.splitOn_intercalate separator (fun group hgroup hmem => ?_) ?_
  · rw [← grouping.flatten_eq] at hseparator
    exact hseparator (List.mem_flatten_of_mem hgroup hmem)
  · rintro rfl
    exact hne grouping.flatten_eq.symm

/-- A text with its thousands set apart. -/
structure IsGrouped (separator : Char) (text grouped : List Char) : Prop where
  /-- Without the separators the text is as it was. -/
  removed : grouped.filter (· ≠ separator) = text
  /-- The sign and everything from the point on stay, and what stands between is cut by the
  separators into groups, of which the first has one to three characters and every other one has
  three. -/
  cut : ∃ sign whole fraction middle, SetsAside sign whole fraction text ∧
    grouped = sign ++ (middle ++ fraction) ∧
      if whole = [] then middle = [] else Grouping (middle.splitOn separator) whole

theorem isGrouped {separator : Char} {text : List Char} (h : separator ∉ text) :
    IsGrouped separator text (groupThousands separator text) := by
  obtain ⟨sign, whole, fraction, haside⟩ := exists_setsAside text
  have hgrouped : groupThousands separator text =
      sign ++ (groupDigits separator whole ++ fraction) := groupThousands_of_setsAside haside
  have hkeep : ∀ part : List Char, (∀ c ∈ part, c ∈ text) →
      ∀ c ∈ part, decide (c ≠ separator) = true := fun part hpart c hc =>
    decide_eq_true fun heq => h (heq ▸ hpart c hc)
  have hmem : ∀ c, c ∈ text ↔ c ∈ sign ∨ c ∈ whole ∨ c ∈ fraction := fun c => by
    rw [haside.text_eq, List.mem_append, List.mem_append]
  constructor
  · rw [hgrouped, List.filter_append, List.filter_append,
      List.filter_eq_self.2 (hkeep sign fun c hc => (hmem c).2 (.inl hc)),
      filter_groupDigits (by simp) (hkeep whole fun c hc => (hmem c).2 (.inr (.inl hc))),
      List.filter_eq_self.2 (hkeep fraction fun c hc => (hmem c).2 (.inr (.inr hc))),
      ← haside.text_eq]
  · refine ⟨sign, whole, fraction, _, haside, hgrouped, ?_⟩
    split_ifs with hempty
    · rw [hempty]
      rfl
    · obtain ⟨groups, grouping, heq⟩ := exists_grouping separator whole
      have hnone : separator ∉ whole := fun hc => h ((hmem _).2 (.inr (.inl hc)))
      rw [heq, grouping.splitOn_eq hempty hnone]
      exact grouping

/-- **Grouping only inserts separators, at the right places.**  That holds of every text, whether it
is a number or not, and every separator that does not occur in it; and a count without its commas is
a number that reads as the count. -/
theorem isGrouped_groupThousands :
    (∀ (separator : Char) (text : List Char), separator ∉ text →
      IsGrouped separator text (groupThousands separator text)) ∧
    ∀ n : UInt64, IsNumber ((countText n.toNat).toList.filter (· ≠ ',')) ∧
      readDigits ((countText n.toNat).toList.filter (· ≠ ',')) = n.toNat := by
  refine ⟨fun _ _ => isGrouped, fun n => ?_⟩
  have hcomma : ',' ∉ digits10 n.toNat := fun hmem =>
    absurd (isDigit_of_mem_digits10 hmem) (by decide)
  have hdigits : (countText n.toNat).toList.filter (· ≠ ',') = digits10 n.toNat := by
    rw [countText, String.toList_ofList]
    exact (isGrouped hcomma).removed
  rw [hdigits]
  exact ⟨⟨Nat.toDigits_ne_nil, fun _ => isDigit_of_mem_digits10⟩, readDigits_digits10 _⟩

/-- Seven characters, of which one is no digit, behind a sign and before two points. -/
theorem isGrouped_groupThousands_signed : ' ' ∉ "-12a4567.8.9".toList ∧
    IsGrouped ' ' "-12a4567.8.9".toList "-1 2a4 567.8.9".toList := by
  have hnone : ' ' ∉ "-12a4567.8.9".toList := by decide
  have hgrouped : groupThousands ' ' "-12a4567.8.9".toList = "-1 2a4 567.8.9".toList := by decide
  exact ⟨hnone, hgrouped ▸ isGrouped_groupThousands.1 ' ' _ hnone⟩

end BillingConsole
