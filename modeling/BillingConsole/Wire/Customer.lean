import BillingConsole.Customer
import BillingConsole.Json.Decoder
import BillingConsole.Json.Printer

/-!
# Customers on the wire

## What is here

* `Budget.decoder`, `Customer.decoder` — reading; every member but the id of a customer has a
  default.
* `Budget.encode`, `Customer.encode` — writing, with null for what is missing.
-/

set_option autoImplicit false

namespace BillingConsole

open Json

namespace Budget

/-- The ceiling for spending. -/
def maxBudgetField : RecordField (Option Binary64) := ⟨"max_budget", nullable double, []⟩

/-- The ceiling at which to warn. -/
def softBudgetField : RecordField (Option Binary64) := ⟨"soft_budget", nullable double, []⟩

/-- The ceiling for tokens per minute. -/
def tokensPerMinuteField : RecordField (Option Int64) := ⟨"tpm_limit", nullable signed64, []⟩

/-- The ceiling for requests per minute. -/
def requestsPerMinuteField : RecordField (Option Int64) := ⟨"rpm_limit", nullable signed64, []⟩

/-- How long the ceilings hold. -/
def durationField : RecordField (Option String) := ⟨"budget_duration", nullable text, []⟩

/-- The fields in their order. -/
def fields : List FieldCheck :=
  [maxBudgetField.toCheck, softBudgetField.toCheck, tokensPerMinuteField.toCheck,
    requestsPerMinuteField.toCheck, durationField.toCheck]

/-- A budget from the values of its fields. -/
def build (found : FieldValues) : Except DecodeError Budget := do
  let maxBudget ← found.withDefault maxBudgetField none
  let softBudget ← found.withDefault softBudgetField none
  let tokensPerMinute ← found.withDefault tokensPerMinuteField none
  let requestsPerMinute ← found.withDefault requestsPerMinuteField none
  let duration ← found.withDefault durationField none
  .ok ⟨maxBudget, softBudget, tokensPerMinute, requestsPerMinute, duration⟩

/-- Reads a budget. -/
def decoder : Decoder Budget := record "BudgetTable" fields build

/-- Writes a budget. -/
def encode (budget : Budget) : Value :=
  .record [
    (maxBudgetField.name, .ofOption .double budget.maxBudget),
    (softBudgetField.name, .ofOption .double budget.softBudget),
    (tokensPerMinuteField.name, .ofOption (.integer ·.toInt) budget.tokensPerMinute),
    (requestsPerMinuteField.name, .ofOption (.integer ·.toInt) budget.requestsPerMinute),
    (durationField.name, .ofOption .text budget.duration)]

end Budget

namespace Customer

/-- The id. -/
def idField : RecordField String := ⟨"user_id", text, []⟩

/-- The alias. -/
def aliasField : RecordField (Option String) := ⟨"alias", nullable text, []⟩

/-- The amount spent. -/
def spendField : RecordField Binary64 := ⟨"spend", double, []⟩

/-- Whether the customer is locked out. -/
def blockedField : RecordField Bool := ⟨"blocked", boolean, []⟩

/-- The region the customer may use models of. -/
def allowedRegionField : RecordField (Option String) := ⟨"allowed_model_region", nullable text, []⟩

/-- The model used unless another is asked for. -/
def defaultModelField : RecordField (Option String) := ⟨"default_model", nullable text, []⟩

/-- The id of the budget. -/
def budgetIdField : RecordField (Option String) := ⟨"budget_id", nullable text, []⟩

/-- The budget itself, which has a short name besides its full one. -/
def budgetField : RecordField (Option Budget) :=
  ⟨"litellm_budget_table", nullable Budget.decoder, ["budget"]⟩

/-- The fields in their order. -/
def fields : List FieldCheck :=
  [idField.toCheck, aliasField.toCheck, spendField.toCheck, blockedField.toCheck,
    allowedRegionField.toCheck, defaultModelField.toCheck, budgetIdField.toCheck,
    budgetField.toCheck]

/-- A customer from the values of its fields. -/
def build (found : FieldValues) : Except DecodeError Customer := do
  let id ← found.required idField
  let aliasName ← found.withDefault aliasField none
  let spend ← found.withDefault spendField (.zero false)
  let blocked ← found.withDefault blockedField false
  let allowedRegion ← found.withDefault allowedRegionField none
  let defaultModel ← found.withDefault defaultModelField none
  let budgetId ← found.withDefault budgetIdField none
  let budget ← found.withDefault budgetField none
  .ok ⟨id, aliasName, spend, blocked, allowedRegion, defaultModel, budgetId, budget⟩

/-- Reads a customer. -/
def decoder : Decoder Customer := record "Customer" fields build

/-- Writes a customer. -/
def encode (customer : Customer) : Value :=
  .record [
    (idField.name, .text customer.id),
    (aliasField.name, .ofOption .text customer.aliasName),
    (spendField.name, .double customer.spend),
    (blockedField.name, .bool customer.blocked),
    (allowedRegionField.name, .ofOption .text customer.allowedRegion),
    (defaultModelField.name, .ofOption .text customer.defaultModel),
    (budgetIdField.name, .ofOption .text customer.budgetId),
    (budgetField.name, .ofOption Budget.encode customer.budget)]

/-- Reads a list of customers. -/
def listDecoder : Decoder (List Customer) := list decoder

/-- Writes a list of customers. -/
def encodeList (customers : List Customer) : Value := .list (customers.map encode)

end Customer

end BillingConsole
