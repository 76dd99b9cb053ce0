import BillingConsole.Json.Decoder
import BillingConsole.Json.Printer
import BillingConsole.Spend

/-!
# Spending on the wire

## What is here

* Decoders and encoders for `ModelSpend`, `SpendRecord`, `ReportRange`, `SpendReport`,
  `SpendQuery`, `ModelSpendDetail` and `SpendDetail`.

Counters and amounts default to zero, lists and tables to empty ones.  A query leaves out what is
missing; everything else is written with null for it.
-/

set_option autoImplicit false

namespace BillingConsole

open Json

/-- A counter as it is written. -/
def encodeWord64 (n : UInt64) : Value := .integer n.toNat

/-- A page number as it is written. -/
def encodeWord32 (n : UInt32) : Value := .integer n.toNat

namespace ModelSpend

/-- The amount spent. -/
def spendField : RecordField Binary64 := ⟨"spend", double, ["total_spend"]⟩

/-- How many requests were made. -/
def requestsField : RecordField UInt64 := ⟨"requests", word64, ["total_requests"]⟩

/-- How many tokens were used. -/
def tokensField : RecordField UInt64 := ⟨"tokens", word64, ["total_tokens"]⟩

/-- The fields in their order. -/
def fields : List FieldCheck :=
  [spendField.toCheck, requestsField.toCheck, tokensField.toCheck]

/-- The usage of a model from the values of its fields. -/
def build (found : FieldValues) : Except DecodeError ModelSpend := do
  let spend ← found.withDefault spendField (.zero false)
  let requests ← found.withDefault requestsField 0
  let tokens ← found.withDefault tokensField 0
  .ok ⟨spend, requests, tokens⟩

/-- Reads the usage of a model. -/
def decoder : Decoder ModelSpend := record "ModelSpend" fields build

/-- Writes the usage of a model. -/
def encode (usage : ModelSpend) : Value :=
  .record [
    (spendField.name, .double usage.spend),
    (requestsField.name, encodeWord64 usage.requests),
    (tokensField.name, encodeWord64 usage.tokens)]

end ModelSpend

namespace SpendRecord

/-- The id of the customer, which has an older name. -/
def customerIdField : RecordField String := ⟨"end_user_id", text, ["user_id"]⟩

/-- The alias of the customer. -/
def aliasField : RecordField (Option String) := ⟨"alias", nullable text, []⟩

/-- The amount spent. -/
def spendField : RecordField Binary64 := ⟨"total_spend", double, []⟩

/-- How many requests were made. -/
def requestsField : RecordField UInt64 := ⟨"total_requests", word64, []⟩

/-- How many tokens were used. -/
def tokensField : RecordField UInt64 := ⟨"total_tokens", word64, []⟩

/-- How many of the tokens were prompts. -/
def promptTokensField : RecordField UInt64 := ⟨"total_prompt_tokens", word64, []⟩

/-- How many of the tokens were completions. -/
def completionTokensField : RecordField UInt64 := ⟨"total_completion_tokens", word64, []⟩

/-- The usage by model. -/
def byModelField : RecordField (List (String × ModelSpend)) :=
  ⟨"spend_by_model", mapping ModelSpend.decoder, []⟩

/-- The fields in their order. -/
def fields : List FieldCheck :=
  [customerIdField.toCheck, aliasField.toCheck, spendField.toCheck, requestsField.toCheck,
    tokensField.toCheck, promptTokensField.toCheck, completionTokensField.toCheck,
    byModelField.toCheck]

/-- A record from the values of its fields. -/
def build (found : FieldValues) : Except DecodeError SpendRecord := do
  let customerId ← found.required customerIdField
  let aliasName ← found.withDefault aliasField none
  let spend ← found.withDefault spendField (.zero false)
  let requests ← found.withDefault requestsField 0
  let tokens ← found.withDefault tokensField 0
  let promptTokens ← found.withDefault promptTokensField 0
  let completionTokens ← found.withDefault completionTokensField 0
  let byModel ← found.withDefault byModelField []
  .ok ⟨customerId, aliasName, spend, requests, tokens, promptTokens, completionTokens, byModel⟩

/-- Reads a record. -/
def decoder : Decoder SpendRecord := Json.record "SpendRecord" fields build

/-- Writes a record. -/
def encode (entry : SpendRecord) : Value :=
  .record [
    (customerIdField.name, .text entry.customerId),
    (aliasField.name, .ofOption .text entry.aliasName),
    (spendField.name, .double entry.spend),
    (requestsField.name, encodeWord64 entry.requests),
    (tokensField.name, encodeWord64 entry.tokens),
    (promptTokensField.name, encodeWord64 entry.promptTokens),
    (completionTokensField.name, encodeWord64 entry.completionTokens),
    (byModelField.name, .record (entry.byModel.map fun (model, usage) => (model, usage.encode)))]

end SpendRecord

namespace ReportRange

/-- The first date. -/
def startField : RecordField (Option String) := ⟨"start_date", nullable text, []⟩

/-- The last date. -/
def stopField : RecordField (Option String) := ⟨"end_date", nullable text, []⟩

/-- The fields in their order. -/
def fields : List FieldCheck := [startField.toCheck, stopField.toCheck]

/-- A range from the values of its fields. -/
def build (found : FieldValues) : Except DecodeError ReportRange := do
  let start ← found.withDefault startField none
  let stop ← found.withDefault stopField none
  .ok ⟨start, stop⟩

/-- Reads a range. -/
def decoder : Decoder ReportRange := record "SpendDateRange" fields build

/-- Writes a range. -/
def encode (range : ReportRange) : Value :=
  .record [
    (startField.name, .ofOption .text range.start),
    (stopField.name, .ofOption .text range.stop)]

end ReportRange

namespace SpendReport

/-- The records. -/
def recordsField : RecordField (List SpendRecord) := ⟨"spend_report", list SpendRecord.decoder, []⟩

/-- How many customers the whole report has. -/
def totalCustomersField : RecordField UInt64 := ⟨"total_customers", word64, []⟩

/-- The range of the report. -/
def rangeField : RecordField ReportRange := ⟨"date_range", ReportRange.decoder, []⟩

/-- The number of the page. -/
def pageField : RecordField UInt32 := ⟨"page", word32, []⟩

/-- How many records a page has. -/
def pageSizeField : RecordField UInt32 := ⟨"page_size", word32, []⟩

/-- How many pages the report has. -/
def totalPagesField : RecordField UInt32 := ⟨"total_pages", word32, []⟩

/-- The fields in their order. -/
def fields : List FieldCheck :=
  [recordsField.toCheck, totalCustomersField.toCheck, rangeField.toCheck, pageField.toCheck,
    pageSizeField.toCheck, totalPagesField.toCheck]

/-- A report from the values of its fields. -/
def build (found : FieldValues) : Except DecodeError SpendReport := do
  let records ← found.withDefault recordsField []
  let totalCustomers ← found.withDefault totalCustomersField 0
  let range ← found.withDefault rangeField ⟨none, none⟩
  let page ← found.withDefault pageField 0
  let pageSize ← found.withDefault pageSizeField 0
  let totalPages ← found.withDefault totalPagesField 0
  .ok ⟨records, totalCustomers, range, page, pageSize, totalPages⟩

/-- Reads a report. -/
def decoder : Decoder SpendReport := record "SpendReport" fields build

/-- Writes a report. -/
def encode (report : SpendReport) : Value :=
  .record [
    (recordsField.name, .list (report.records.map SpendRecord.encode)),
    (totalCustomersField.name, encodeWord64 report.totalCustomers),
    (rangeField.name, report.range.encode),
    (pageField.name, encodeWord32 report.page),
    (pageSizeField.name, encodeWord32 report.pageSize),
    (totalPagesField.name, encodeWord32 report.totalPages)]

end SpendReport

namespace SpendQuery

/-- The first date. -/
def startField : RecordField (Option String) := ⟨"start_date", nullable text, []⟩

/-- The last date. -/
def stopField : RecordField (Option String) := ⟨"end_date", nullable text, []⟩

/-- The number of the page. -/
def pageField : RecordField (Option UInt32) := ⟨"page", nullable word32, []⟩

/-- How many records a page has. -/
def pageSizeField : RecordField (Option UInt32) := ⟨"page_size", nullable word32, []⟩

/-- The fields in their order. -/
def fields : List FieldCheck :=
  [startField.toCheck, stopField.toCheck, pageField.toCheck, pageSizeField.toCheck]

/-- A query from the values of its fields. -/
def build (found : FieldValues) : Except DecodeError SpendQuery := do
  let start ← found.omissible startField
  let stop ← found.omissible stopField
  let page ← found.omissible pageField
  let pageSize ← found.omissible pageSizeField
  .ok ⟨start, stop, page, pageSize⟩

/-- Reads a query. -/
def decoder : Decoder SpendQuery := record "SpendReportQuery" fields build

/-- The members of a query that are there, in field order. -/
def members (query : SpendQuery) : List (String × Value) :=
  (query.start.map fun date => (startField.name, Value.text date)).toList ++
    (query.stop.map fun date => (stopField.name, Value.text date)).toList ++
    (query.page.map fun page => (pageField.name, encodeWord32 page)).toList ++
    (query.pageSize.map fun size => (pageSizeField.name, encodeWord32 size)).toList

/-- Writes a query. -/
def encode (query : SpendQuery) : Value := .record query.members

end SpendQuery

namespace ModelSpendDetail

/-- The model. -/
def modelField : RecordField String := ⟨"model", text, []⟩

/-- The amount spent. -/
def spendField : RecordField Binary64 := ⟨"total_spend", double, []⟩

/-- How many requests were made. -/
def requestsField : RecordField UInt64 := ⟨"total_requests", word64, []⟩

/-- How many tokens were used. -/
def tokensField : RecordField UInt64 := ⟨"total_tokens", word64, []⟩

/-- How many of the tokens were prompts. -/
def promptTokensField : RecordField UInt64 := ⟨"prompt_tokens", word64, []⟩

/-- How many of the tokens were completions. -/
def completionTokensField : RecordField UInt64 := ⟨"completion_tokens", word64, []⟩

/-- The fields in their order. -/
def fields : List FieldCheck :=
  [modelField.toCheck, spendField.toCheck, requestsField.toCheck, tokensField.toCheck,
    promptTokensField.toCheck, completionTokensField.toCheck]

/-- The usage of a model from the values of its fields. -/
def build (found : FieldValues) : Except DecodeError ModelSpendDetail := do
  let model ← found.required modelField
  let spend ← found.withDefault spendField (.zero false)
  let requests ← found.withDefault requestsField 0
  let tokens ← found.withDefault tokensField 0
  let promptTokens ← found.withDefault promptTokensField 0
  let completionTokens ← found.withDefault completionTokensField 0
  .ok ⟨model, spend, requests, tokens, promptTokens, completionTokens⟩

/-- Reads the usage of a model. -/
def decoder : Decoder ModelSpendDetail := record "ModelSpendDetail" fields build

/-- Writes the usage of a model. -/
def encode (usage : ModelSpendDetail) : Value :=
  .record [
    (modelField.name, .text usage.model),
    (spendField.name, .double usage.spend),
    (requestsField.name, encodeWord64 usage.requests),
    (tokensField.name, encodeWord64 usage.tokens),
    (promptTokensField.name, encodeWord64 usage.promptTokens),
    (completionTokensField.name, encodeWord64 usage.completionTokens)]

end ModelSpendDetail

namespace SpendDetail

/-- The id of the customer. -/
def customerIdField : RecordField String := ⟨"end_user_id", text, []⟩

/-- The alias of the customer. -/
def aliasField : RecordField (Option String) := ⟨"alias", nullable text, []⟩

/-- The amount spent. -/
def spendField : RecordField Binary64 := ⟨"total_spend", double, []⟩

/-- How many requests were made. -/
def requestsField : RecordField UInt64 := ⟨"total_requests", word64, []⟩

/-- How many tokens were used. -/
def tokensField : RecordField UInt64 := ⟨"total_tokens", word64, []⟩

/-- How many of the tokens were prompts. -/
def promptTokensField : RecordField UInt64 := ⟨"total_prompt_tokens", word64, []⟩

/-- How many of the tokens were completions. -/
def completionTokensField : RecordField UInt64 := ⟨"total_completion_tokens", word64, []⟩

/-- The usage by model. -/
def byModelField : RecordField (List ModelSpendDetail) :=
  ⟨"spend_by_model", list ModelSpendDetail.decoder, []⟩

/-- The fields in their order. -/
def fields : List FieldCheck :=
  [customerIdField.toCheck, aliasField.toCheck, spendField.toCheck, requestsField.toCheck,
    tokensField.toCheck, promptTokensField.toCheck, completionTokensField.toCheck,
    byModelField.toCheck]

/-- The spending of a customer from the values of its fields. -/
def build (found : FieldValues) : Except DecodeError SpendDetail := do
  let customerId ← found.required customerIdField
  let aliasName ← found.withDefault aliasField none
  let spend ← found.withDefault spendField (.zero false)
  let requests ← found.withDefault requestsField 0
  let tokens ← found.withDefault tokensField 0
  let promptTokens ← found.withDefault promptTokensField 0
  let completionTokens ← found.withDefault completionTokensField 0
  let byModel ← found.withDefault byModelField []
  .ok ⟨customerId, aliasName, spend, requests, tokens, promptTokens, completionTokens, byModel⟩

/-- Reads the spending of a customer. -/
def decoder : Decoder SpendDetail := record "CustomerSpendDetail" fields build

/-- Writes the spending of a customer. -/
def encode (detail : SpendDetail) : Value :=
  .record [
    (customerIdField.name, .text detail.customerId),
    (aliasField.name, .ofOption .text detail.aliasName),
    (spendField.name, .double detail.spend),
    (requestsField.name, encodeWord64 detail.requests),
    (tokensField.name, encodeWord64 detail.tokens),
    (promptTokensField.name, encodeWord64 detail.promptTokens),
    (completionTokensField.name, encodeWord64 detail.completionTokens),
    (byModelField.name, .list (detail.byModel.map ModelSpendDetail.encode))]

end SpendDetail

end BillingConsole
