import BillingConsole.Proofs.Json.Record
import BillingConsole.Wire.Spend

/-!
# Spending comes back

Reports, records and the spending of one customer come back from what is written for them.  The
usage by model keeps its order, and in a record each model stands once.  A query leaves out what is
missing and takes what is left out to be missing.

## What is here

* `ModelSpend.Sound`, `SpendRecord.Sound`, `SpendReport.Sound`, `ModelSpendDetail.Sound`,
  `SpendDetail.Sound` — what is read.
* `SpendRecord.yields`, `SpendReport.yields`, `SpendDetail.yields` — **whatever is read is sound.**
* `SpendRecord.survives`, `SpendReport.survives`, `SpendDetail.survives` — **whatever is sound
  comes back.**
* `SpendQuery.survives` — so does every query.
-/

set_option autoImplicit false

namespace BillingConsole

open Json

/-! ## Records -/

namespace ModelSpend

/-- The amount spent is finite. -/
structure Sound (usage : ModelSpend) : Prop where
  spend : usage.spend.isFinite = true

theorem yields : Yields decoder Sound := by
  intro tree usage h
  obtain ⟨found, hbuild⟩ := exists_build_of_record h
  obtain ⟨spend, hspend, hbuild⟩ := exists_of_bind hbuild
  obtain ⟨requests, -, hbuild⟩ := exists_of_bind hbuild
  obtain ⟨tokens, -, hbuild⟩ := exists_of_bind hbuild
  cases hbuild
  have hdouble : Yields spendField.decoder fun d => d.isFinite = true := yields_double
  exact ⟨hdouble.withDefault rfl hspend⟩

/-- What is written for the usage of a model. -/
def slots (usage : ModelSpend) : List Slot :=
  [⟨spendField, .double, usage.spend⟩,
    ⟨requestsField, encodeWord64, usage.requests⟩,
    ⟨tokensField, encodeWord64, usage.tokens⟩]

theorem survives {usage : ModelSpend} (h : usage.Sound) : Survives decoder encode usage := by
  have hapart : FieldCheck.Apart fields := by decide
  refine survives_record hapart usage.slots (.refl _) ?_ ?_ ?_ _
  · rfl
  · exact ⟨survives_double h.spend, survives_word64 _, survives_word64 _⟩
  · rintro found ⟨hspend, hrequests, htokens⟩ - -
    rw [build, withDefault_of_found hspend, withDefault_of_found hrequests,
      withDefault_of_found htokens]
    rfl

end ModelSpend

namespace SpendRecord

/-- The amounts spent are finite, and each model stands once. -/
structure Sound (entry : SpendRecord) : Prop where
  spend : entry.spend.isFinite = true
  names : DistinctNames entry.byModel
  byModel : ∀ usage ∈ entry.byModel, usage.2.Sound

theorem yields : Yields decoder Sound := by
  intro tree entry h
  obtain ⟨found, hbuild⟩ := exists_build_of_record h
  obtain ⟨customerId, -, hbuild⟩ := exists_of_bind hbuild
  obtain ⟨aliasName, -, hbuild⟩ := exists_of_bind hbuild
  obtain ⟨spend, hspend, hbuild⟩ := exists_of_bind hbuild
  obtain ⟨requests, -, hbuild⟩ := exists_of_bind hbuild
  obtain ⟨tokens, -, hbuild⟩ := exists_of_bind hbuild
  obtain ⟨promptTokens, -, hbuild⟩ := exists_of_bind hbuild
  obtain ⟨completionTokens, -, hbuild⟩ := exists_of_bind hbuild
  obtain ⟨byModel, hbyModel, hbuild⟩ := exists_of_bind hbuild
  cases hbuild
  have hdouble : Yields spendField.decoder fun d => d.isFinite = true := yields_double
  have hmapping : Yields byModelField.decoder fun entries =>
      DistinctNames entries ∧ ∀ usage ∈ entries, usage.2.Sound := yields_mapping ModelSpend.yields
  have hnone : DistinctNames ([] : List (String × ModelSpend)) := List.nodup_nil
  have hfound := hmapping.withDefault ⟨hnone, List.forall_mem_nil _⟩ hbyModel
  exact ⟨hdouble.withDefault rfl hspend, hfound.1, hfound.2⟩

/-- How the usage by model is written. -/
def encodeByModel (byModel : List (String × ModelSpend)) : Value :=
  .record (byModel.map fun usage => (usage.1, usage.2.encode))

/-- What is written for a record. -/
def slots (entry : SpendRecord) : List Slot :=
  [⟨customerIdField, .text, entry.customerId⟩,
    ⟨aliasField, .ofOption .text, entry.aliasName⟩,
    ⟨spendField, .double, entry.spend⟩,
    ⟨requestsField, encodeWord64, entry.requests⟩,
    ⟨tokensField, encodeWord64, entry.tokens⟩,
    ⟨promptTokensField, encodeWord64, entry.promptTokens⟩,
    ⟨completionTokensField, encodeWord64, entry.completionTokens⟩,
    ⟨byModelField, encodeByModel, entry.byModel⟩]

theorem survives {entry : SpendRecord} (h : entry.Sound) : Survives decoder encode entry := by
  have hapart : FieldCheck.Apart fields := by decide
  refine survives_record hapart entry.slots (.refl _) ?_ ?_ ?_ _
  · rfl
  · exact ⟨survives_text _,
      survives_nullable refusesNull_text fun s _ => survives_text s,
      survives_double h.spend,
      survives_word64 _, survives_word64 _, survives_word64 _, survives_word64 _,
      survives_mapping h.names fun usage husage => ModelSpend.survives (h.byModel usage husage)⟩
  · rintro found ⟨hcustomer, halias, hspend, hrequests, htokens, hprompt, hcompletion, hmodels⟩ - -
    rw [build, required_of_found hcustomer, withDefault_of_found halias,
      withDefault_of_found hspend, withDefault_of_found hrequests, withDefault_of_found htokens,
      withDefault_of_found hprompt, withDefault_of_found hcompletion, withDefault_of_found hmodels]
    rfl

end SpendRecord

/-! ## Reports -/

namespace ReportRange

/-- What is written for a range. -/
def slots (range : ReportRange) : List Slot :=
  [⟨startField, .ofOption .text, range.start⟩, ⟨stopField, .ofOption .text, range.stop⟩]

theorem survives (range : ReportRange) : Survives decoder encode range := by
  have hapart : FieldCheck.Apart fields := by decide
  refine survives_record hapart range.slots (.refl _) ?_ ?_ ?_ _
  · rfl
  · exact ⟨survives_nullable refusesNull_text fun s _ => survives_text s,
      survives_nullable refusesNull_text fun s _ => survives_text s⟩
  · rintro found ⟨hstart, hstop⟩ - -
    rw [build, withDefault_of_found hstart, withDefault_of_found hstop]
    rfl

end ReportRange

namespace SpendReport

/-- The records are sound. -/
structure Sound (report : SpendReport) : Prop where
  records : ∀ entry ∈ report.records, entry.Sound

theorem yields : Yields decoder Sound := by
  intro tree report h
  obtain ⟨found, hbuild⟩ := exists_build_of_record h
  obtain ⟨records, hrecords, hbuild⟩ := exists_of_bind hbuild
  obtain ⟨totalCustomers, -, hbuild⟩ := exists_of_bind hbuild
  obtain ⟨range, -, hbuild⟩ := exists_of_bind hbuild
  obtain ⟨page, -, hbuild⟩ := exists_of_bind hbuild
  obtain ⟨pageSize, -, hbuild⟩ := exists_of_bind hbuild
  obtain ⟨totalPages, -, hbuild⟩ := exists_of_bind hbuild
  cases hbuild
  have hlist : Yields recordsField.decoder fun records => ∀ entry ∈ records, entry.Sound :=
    yields_list SpendRecord.yields
  exact ⟨hlist.withDefault (List.forall_mem_nil _) hrecords⟩

/-- How the records are written. -/
def encodeRecords (records : List SpendRecord) : Value := .list (records.map SpendRecord.encode)

/-- What is written for a report. -/
def slots (report : SpendReport) : List Slot :=
  [⟨recordsField, encodeRecords, report.records⟩,
    ⟨totalCustomersField, encodeWord64, report.totalCustomers⟩,
    ⟨rangeField, ReportRange.encode, report.range⟩,
    ⟨pageField, encodeWord32, report.page⟩,
    ⟨pageSizeField, encodeWord32, report.pageSize⟩,
    ⟨totalPagesField, encodeWord32, report.totalPages⟩]

theorem survives {report : SpendReport} (h : report.Sound) : Survives decoder encode report := by
  have hapart : FieldCheck.Apart fields := by decide
  refine survives_record hapart report.slots (.refl _) ?_ ?_ ?_ _
  · rfl
  · exact ⟨survives_list fun entry hentry => SpendRecord.survives (h.records entry hentry),
      survives_word64 _,
      ReportRange.survives _,
      survives_word32 _, survives_word32 _, survives_word32 _⟩
  · rintro found ⟨hrecords, htotal, hrange, hpage, hsize, hpages⟩ - -
    rw [build, withDefault_of_found hrecords, withDefault_of_found htotal,
      withDefault_of_found hrange, withDefault_of_found hpage, withDefault_of_found hsize,
      withDefault_of_found hpages]
    rfl

end SpendReport

/-! ## One customer by model -/

namespace ModelSpendDetail

/-- The amount spent is finite. -/
structure Sound (usage : ModelSpendDetail) : Prop where
  spend : usage.spend.isFinite = true

theorem yields : Yields decoder Sound := by
  intro tree usage h
  obtain ⟨found, hbuild⟩ := exists_build_of_record h
  obtain ⟨model, -, hbuild⟩ := exists_of_bind hbuild
  obtain ⟨spend, hspend, hbuild⟩ := exists_of_bind hbuild
  obtain ⟨requests, -, hbuild⟩ := exists_of_bind hbuild
  obtain ⟨tokens, -, hbuild⟩ := exists_of_bind hbuild
  obtain ⟨promptTokens, -, hbuild⟩ := exists_of_bind hbuild
  obtain ⟨completionTokens, -, hbuild⟩ := exists_of_bind hbuild
  cases hbuild
  have hdouble : Yields spendField.decoder fun d => d.isFinite = true := yields_double
  exact ⟨hdouble.withDefault rfl hspend⟩

/-- What is written for the usage of a model. -/
def slots (usage : ModelSpendDetail) : List Slot :=
  [⟨modelField, .text, usage.model⟩,
    ⟨spendField, .double, usage.spend⟩,
    ⟨requestsField, encodeWord64, usage.requests⟩,
    ⟨tokensField, encodeWord64, usage.tokens⟩,
    ⟨promptTokensField, encodeWord64, usage.promptTokens⟩,
    ⟨completionTokensField, encodeWord64, usage.completionTokens⟩]

theorem survives {usage : ModelSpendDetail} (h : usage.Sound) :
    Survives decoder encode usage := by
  have hapart : FieldCheck.Apart fields := by decide
  refine survives_record hapart usage.slots (.refl _) ?_ ?_ ?_ _
  · rfl
  · exact ⟨survives_text _,
      survives_double h.spend,
      survives_word64 _, survives_word64 _, survives_word64 _, survives_word64 _⟩
  · rintro found ⟨hmodel, hspend, hrequests, htokens, hprompt, hcompletion⟩ - -
    rw [build, required_of_found hmodel, withDefault_of_found hspend,
      withDefault_of_found hrequests, withDefault_of_found htokens, withDefault_of_found hprompt,
      withDefault_of_found hcompletion]
    rfl

end ModelSpendDetail

namespace SpendDetail

/-- The amounts spent are finite. -/
structure Sound (detail : SpendDetail) : Prop where
  spend : detail.spend.isFinite = true
  byModel : ∀ usage ∈ detail.byModel, usage.Sound

theorem yields : Yields decoder Sound := by
  intro tree detail h
  obtain ⟨found, hbuild⟩ := exists_build_of_record h
  obtain ⟨customerId, -, hbuild⟩ := exists_of_bind hbuild
  obtain ⟨aliasName, -, hbuild⟩ := exists_of_bind hbuild
  obtain ⟨spend, hspend, hbuild⟩ := exists_of_bind hbuild
  obtain ⟨requests, -, hbuild⟩ := exists_of_bind hbuild
  obtain ⟨tokens, -, hbuild⟩ := exists_of_bind hbuild
  obtain ⟨promptTokens, -, hbuild⟩ := exists_of_bind hbuild
  obtain ⟨completionTokens, -, hbuild⟩ := exists_of_bind hbuild
  obtain ⟨byModel, hbyModel, hbuild⟩ := exists_of_bind hbuild
  cases hbuild
  have hdouble : Yields spendField.decoder fun d => d.isFinite = true := yields_double
  have hlist : Yields byModelField.decoder fun byModel => ∀ usage ∈ byModel, usage.Sound :=
    yields_list ModelSpendDetail.yields
  exact ⟨hdouble.withDefault rfl hspend, hlist.withDefault (List.forall_mem_nil _) hbyModel⟩

/-- How the usage by model is written. -/
def encodeByModel (byModel : List ModelSpendDetail) : Value :=
  .list (byModel.map ModelSpendDetail.encode)

/-- What is written for the spending of a customer. -/
def slots (detail : SpendDetail) : List Slot :=
  [⟨customerIdField, .text, detail.customerId⟩,
    ⟨aliasField, .ofOption .text, detail.aliasName⟩,
    ⟨spendField, .double, detail.spend⟩,
    ⟨requestsField, encodeWord64, detail.requests⟩,
    ⟨tokensField, encodeWord64, detail.tokens⟩,
    ⟨promptTokensField, encodeWord64, detail.promptTokens⟩,
    ⟨completionTokensField, encodeWord64, detail.completionTokens⟩,
    ⟨byModelField, encodeByModel, detail.byModel⟩]

theorem survives {detail : SpendDetail} (h : detail.Sound) : Survives decoder encode detail := by
  have hapart : FieldCheck.Apart fields := by decide
  refine survives_record hapart detail.slots (.refl _) ?_ ?_ ?_ _
  · rfl
  · exact ⟨survives_text _,
      survives_nullable refusesNull_text fun s _ => survives_text s,
      survives_double h.spend,
      survives_word64 _, survives_word64 _, survives_word64 _, survives_word64 _,
      survives_list fun usage husage => ModelSpendDetail.survives (h.byModel usage husage)⟩
  · rintro found ⟨hcustomer, halias, hspend, hrequests, htokens, hprompt, hcompletion, hmodels⟩ - -
    rw [build, required_of_found hcustomer, withDefault_of_found halias,
      withDefault_of_found hspend, withDefault_of_found hrequests, withDefault_of_found htokens,
      withDefault_of_found hprompt, withDefault_of_found hcompletion, withDefault_of_found hmodels]
    rfl

end SpendDetail

/-! ## Queries -/

namespace SpendQuery

/-- What is written for a query: whatever is there. -/
def slots (query : SpendQuery) : List Slot :=
  Slot.ofOption startField .text query.start ++ Slot.ofOption stopField .text query.stop ++
    Slot.ofOption pageField encodeWord32 query.page ++
    Slot.ofOption pageSizeField encodeWord32 query.pageSize

/-- Every query comes back. -/
theorem survives (query : SpendQuery) : Survives decoder encode query := by
  have hapart : FieldCheck.Apart fields := by decide
  refine survives_record hapart query.slots ?_ ?_ ?_ ?_ _
  · rw [slots, List.map_append, List.map_append, List.map_append]
    exact ((Slot.sublist_ofOption.append Slot.sublist_ofOption).append
      Slot.sublist_ofOption).append Slot.sublist_ofOption
  · rw [slots, List.map_append, List.map_append, List.map_append, Slot.member_ofOption,
      Slot.member_ofOption, Slot.member_ofOption, Slot.member_ofOption]
    rfl
  · rw [slots, List.forall_append, List.forall_append, List.forall_append]
    have htext (s : String) : Survives (nullable text) (.ofOption .text) (some s) :=
      survives_nullable refusesNull_text fun s _ => survives_text s
    have hword (n : UInt32) : Survives (nullable word32) (.ofOption encodeWord32) (some n) :=
      survives_nullable refusesNull_word32 fun n _ => survives_word32 n
    exact ⟨⟨⟨Slot.survives_ofOption htext, Slot.survives_ofOption htext⟩,
      Slot.survives_ofOption hword⟩, Slot.survives_ofOption hword⟩
  · intro found hfound hmissing hnamed
    rw [slots, List.forall_append, List.forall_append, List.forall_append] at hfound
    obtain ⟨⟨⟨hstart, hstop⟩, hpage⟩, hsize⟩ := hfound
    -- a field that was left out is not found under the name of another one
    simp only [slots, List.map_append, Slot.names_ofOption] at hmissing
    have hnostart (hnone : query.start = none) : found.values.lookup startField.name = none :=
      hmissing _ (by simp [hnone, startField, stopField, pageField, pageSizeField])
    have hnostop (hnone : query.stop = none) : found.values.lookup stopField.name = none :=
      hmissing _ (by simp [hnone, startField, stopField, pageField, pageSizeField])
    have hnopage (hnone : query.page = none) : found.values.lookup pageField.name = none :=
      hmissing _ (by simp [hnone, startField, stopField, pageField, pageSizeField])
    have hnosize (hnone : query.pageSize = none) : found.values.lookup pageSizeField.name = none :=
      hmissing _ (by simp [hnone, startField, stopField, pageField, pageSizeField])
    rw [build, omissible_of_found hstart hnostart hnamed, omissible_of_found hstop hnostop hnamed,
      omissible_of_found hpage hnopage hnamed, omissible_of_found hsize hnosize hnamed]
    rfl

end SpendQuery

end BillingConsole
