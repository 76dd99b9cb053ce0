import BillingConsole.Gateway.Address
import BillingConsole.Proofs.Calendar.DateText
import BillingConsole.Proofs.Text.Percent

/-!
# Queries read back from their path

A reader of submitted forms that was written against the format and not against the writer: fields
stand between ampersands, a name ends at the first equals sign, a plus sign is a space, and percent
escapes are bytes of UTF-8.

## What is here

* `formDecode?`, `readField?`, `readForm?` — the reader.
* `formDecode?_encodeFormValue`, `readForm?_encodeForm` — values and whole forms are read back.
* `SpendQuery.parts` — the parts of a query that are present, by their names.
* `SpendQuery.readForm_spendReportPath` — **a query survives its path**: nothing is sent of what is
  absent, the rest comes back as it was, and the dates and numbers of a page come back from it.
-/

set_option autoImplicit false

namespace BillingConsole

/-! ## Reading a form -/

/-- What a name or a value in a form stands for. -/
def formDecode? (text : List Char) : Option String :=
  percentDecode? (text.map fun c => if c = '+' then ' ' else c)

/-- A field of a form: its name, and what stands behind its first equals sign. -/
def readField? (field : List Char) : Option (String × String) := do
  let name ← formDecode? (field.takeWhile (· ≠ '='))
  let value ← formDecode? ((field.dropWhile (· ≠ '=')).drop 1)
  some (name, value)

/-- The fields of a form.  Nothing between two ampersands is no field. -/
def readForm? (form : List Char) : Option (List (String × String)) :=
  ((form.splitOn '&').filter (· ≠ [])).mapM readField?

/-! ## Values -/

/-- With its plus signs read as spaces, a value is escaped but for the safe characters and the
space. -/
theorem map_encodeFormValue (text : List Char) :
    ((encodeFormValue text).map fun c => if c = '+' then ' ' else c) =
      percentEncode (fun c => isFormSafe c || c == ' ') text := by
  have hplus : ∀ c : Char, isFormSafe c = true ∨ c = '%' ∨ c.isAlphanum = true → c ≠ '+' := by
    rintro c hc rfl
    revert hc
    decide
  induction text with
  | nil => rfl
  | cons c text ih =>
    have hvalue : encodeFormValue (c :: text) =
        (if c = ' ' then ['+'] else percentEncode isFormSafe [c]) ++ encodeFormValue text := rfl
    have hescaped : percentEncode (fun c => isFormSafe c || c == ' ') (c :: text) =
        percentEncode (fun c => isFormSafe c || c == ' ') [c] ++
          percentEncode (fun c => isFormSafe c || c == ' ') text := by
      simp [percentEncode]
    rw [hvalue, hescaped, List.map_append, ih]
    congr 1
    by_cases hc : c = ' '
    · subst hc
      rfl
    · have hsame : percentEncode (fun c => isFormSafe c || c == ' ') [c] =
          percentEncode isFormSafe [c] := by
        simp [percentEncode, hc]
      rw [if_neg hc, hsame]
      refine (List.map_congr_left fun d hd => ?_).trans (List.map_id _)
      exact if_neg (hplus d (mem_percentEncode hd))

/-- A value is read back. -/
theorem formDecode?_encodeFormValue (text : List Char) :
    formDecode? (encodeFormValue text) = some (String.ofList text) := by
  rw [formDecode?, map_encodeFormValue]
  exact percentDecode?_percentEncode (by decide) text

/-- Nothing in a value separates fields, or a name from its value. -/
theorem ne_separator_of_mem {text : List Char} {c : Char} (h : c ∈ encodeFormValue text) :
    c ≠ '&' ∧ c ≠ '=' := by
  obtain ⟨source, -, hc⟩ := List.mem_flatMap.1 h
  have hall : isFormSafe c = true ∨ c = '%' ∨ c.isAlphanum = true ∨ c = '+' := by
    by_cases hsource : source = ' '
    · rw [if_pos hsource, List.mem_singleton] at hc
      simp [hc]
    · rw [if_neg hsource] at hc
      have := mem_percentEncode hc
      tauto
  constructor <;> rintro rfl <;> revert hall <;> decide

/-! ## Forms -/

/-- A name that is made of safe characters only. -/
def IsFormName (name : String) : Prop := encodeFormValue name.toList = name.toList

theorem readField?_append {name : String} (hname : IsFormName name) (value : List Char) :
    readField? (name.toList ++ '=' :: encodeFormValue value) =
      some (name, String.ofList value) := by
  have hnot : ∀ c ∈ name.toList, decide (c ≠ '=') = true := by
    intro c hc
    rw [← hname] at hc
    simpa using (ne_separator_of_mem hc).2
  have htake : (name.toList ++ '=' :: encodeFormValue value).takeWhile (· ≠ '=') =
      name.toList := takeWhile_append_of_stop hnot (by simp)
  have hdrop : (name.toList ++ '=' :: encodeFormValue value).dropWhile (· ≠ '=') =
      '=' :: encodeFormValue value := dropWhile_append_of_stop hnot (by simp)
  have hread : formDecode? name.toList = some name := by
    rw [← hname, formDecode?_encodeFormValue, String.ofList_toList]
  rw [readField?, htake, hdrop, hread, List.drop_one, List.tail_cons, formDecode?_encodeFormValue]
  rfl

/-- Between its ampersands a form has its fields. -/
theorem splitOn_encodeForm {fields : List (String × List Char)}
    (hnames : ∀ field ∈ fields, IsFormName field.1) :
    ((encodeForm fields).splitOn '&').filter (· ≠ []) =
      fields.map fun field => field.1.toList ++ '=' :: encodeFormValue field.2 := by
  by_cases hfields : fields = []
  · subst hfields
    rfl
  · rw [encodeForm, List.splitOn_intercalate]
    · refine List.filter_eq_self.2 fun part hpart => ?_
      obtain ⟨field, -, rfl⟩ := List.mem_map.1 hpart
      simp
    · intro part hpart hmem
      obtain ⟨field, hfield, rfl⟩ := List.mem_map.1 hpart
      rcases List.mem_append.1 hmem with hmem | hmem
      · rw [← hnames field hfield] at hmem
        exact (ne_separator_of_mem hmem).1 rfl
      · rcases List.mem_cons.1 hmem with hmem | hmem
        · exact absurd hmem (by decide)
        · exact (ne_separator_of_mem hmem).1 rfl
    · simpa using hfields

/-- **A form is read back**, field by field. -/
theorem readForm?_encodeForm {fields : List (String × List Char)}
    (hnames : ∀ field ∈ fields, IsFormName field.1) :
    readForm? (encodeForm fields) =
      some (fields.map fun field => (field.1, String.ofList field.2)) := by
  rw [readForm?, splitOn_encodeForm hnames]
  induction fields with
  | nil => rfl
  | cons field fields ih =>
    have hrest := ih fun other hother => hnames other (List.mem_cons_of_mem _ hother)
    rw [List.map_cons, List.mapM_cons, readField?_append (hnames field List.mem_cons_self), hrest]
    rfl

/-! ## Queries -/

namespace SpendQuery

/-- The parts of a query that are present, by their names and in their order. -/
def parts (query : SpendQuery) : List (String × String) :=
  (query.start.map fun date => ("start_date", date)).toList ++
    (query.stop.map fun date => ("end_date", date)).toList ++
    (query.page.map fun n => ("page", String.ofList (digits10 n.toNat))).toList ++
    (query.pageSize.map fun n => ("page_size", String.ofList (digits10 n.toNat))).toList

theorem map_formFields (query : SpendQuery) :
    (query.formFields.map fun field => (field.1, String.ofList field.2)) = query.parts := by
  obtain ⟨start, stop, page, pageSize⟩ := query
  cases start <;> cases stop <;> cases page <;> cases pageSize <;> simp [formFields, parts]

theorem isFormName_of_mem_formFields {query : SpendQuery} {field : String × List Char}
    (h : field ∈ query.formFields) : IsFormName field.1 := by
  have hnames : ∀ name ∈ ["start_date", "end_date", "page", "page_size"], IsFormName name := by
    unfold IsFormName
    decide
  refine hnames _ ?_
  obtain ⟨⟨name, value⟩, hmem, hsome⟩ := List.mem_filterMap.1 h
  obtain ⟨text, -, rfl⟩ := Option.map_eq_some_iff.1 hsome
  exact List.mem_map_of_mem (f := Prod.fst) hmem

theorem formFields_eq_nil_iff {query : SpendQuery} :
    query.formFields = [] ↔ query = ⟨none, none, none, none⟩ := by
  obtain ⟨start, stop, page, pageSize⟩ := query
  simp [formFields]

/-- Behind the question mark of a path stands the form of a query, if anything is asked for. -/
theorem spendReportPath_of_ne {query : SpendQuery} (h : query ≠ ⟨none, none, none, none⟩) :
    spendReportPath query =
      "/customer/spend?" ++ String.ofList (encodeForm query.formFields) := by
  rw [spendReportPath]
  split
  · next hnil => exact absurd (formFields_eq_nil_iff.1 hnil) h
  · rw [← String.toList_inj]
    simp [spendPath]

theorem readForm?_formFields (query : SpendQuery) :
    readForm? (encodeForm query.formFields) = some query.parts := by
  rw [readForm?_encodeForm fun _ => isFormName_of_mem_formFields, map_formFields]

/-! ## Pages -/

/-- The date under a name among the fields of a form. -/
def askedDate? (fields : List (String × String)) (name : String) : Option Date :=
  (fields.lookup name).bind fun text => Date.ofText? text.toList

/-- The number under a name among the fields of a form. -/
def askedNumber? (fields : List (String × String)) (name : String) : Option Nat :=
  (fields.lookup name).bind fun text => readWhole? text.toList

theorem readWhole?_digits10 (n : Nat) : readWhole? (digits10 n) = some n := by
  have hdigits : (digits10 n).all Char.isDigit = true :=
    List.all_eq_true.2 fun _ hc => Nat.isDigit_of_mem_toDigits (by decide) (by decide) hc
  rw [readWhole?, if_pos ⟨Nat.toDigits_ne_nil, hdigits⟩, readDigits_digits10]

theorem ofText?_text (date : Date) : Date.ofText? date.text.toList = some date := by
  rw [Date.text, String.toList_ofList, Date.ofText?_of_trim_eq date.trim_text]

/-- What a page was asked for with is found among its parts. -/
theorem asked_parts (first last : Option Date) (page size : UInt32) :
    let fields := ((forRange first last).withPage page size).parts
    askedDate? fields "start_date" = first ∧ askedDate? fields "end_date" = last ∧
      askedNumber? fields "page" = some (max page 1).toNat ∧
      askedNumber? fields "page_size" = some size.toNat := by
  cases first <;> cases last <;>
    simp [askedDate?, askedNumber?, forRange, withPage, parts, List.lookup_cons, ofText?_text,
      readWhole?_digits10]

/-- **A query survives its path.**  The path of a query that asks for nothing has no form; the form
of any other is read back into exactly the parts that are present.  In particular the form of a page
of a range leads back to the dates, the page, which is at least the first, and the page size. -/
theorem readForm_spendReportPath :
    (∀ query : SpendQuery,
      if query = ⟨none, none, none, none⟩ then spendReportPath query = "/customer/spend"
      else ∃ form, spendReportPath query = "/customer/spend?" ++ String.ofList form ∧
        readForm? form = some query.parts) ∧
    ∀ (first last : Option Date) (page size : UInt32), ∃ form fields,
      spendReportPath ((forRange first last).withPage page size) =
          "/customer/spend?" ++ String.ofList form ∧
        readForm? form = some fields ∧
        askedDate? fields "start_date" = first ∧ askedDate? fields "end_date" = last ∧
        askedNumber? fields "page" = some (max page 1).toNat ∧
        askedNumber? fields "page_size" = some size.toNat := by
  refine ⟨fun query => ?_, fun first last page size => ?_⟩
  · split
    · next h => rw [h]; rfl
    · next h => exact ⟨_, spendReportPath_of_ne h, readForm?_formFields query⟩
  · have hne : (forRange first last).withPage page size ≠ ⟨none, none, none, none⟩ := by
      simp [withPage]
    exact ⟨_, _, spendReportPath_of_ne hne, readForm?_formFields _,
      asked_parts first last page size⟩

/-- A year of five digits has a sign, which is escaped, and there is no page before the first. -/
example : spendReportPath ((forRange (some ⟨10000, 2, 29, by decide⟩) none).withPage 0 25) =
    "/customer/spend?start_date=%2B10000-02-29&page=1&page_size=25" := by decide

end SpendQuery

end BillingConsole
