import BillingConsole.Proofs.Json.Spelling
import BillingConsole.Wire.Customer
import BillingConsole.Wire.Spend

/-!
# Customers and reports in another spelling

A list of customers and a report are decoded without regard to how the gateway spells the objects
in them.

## What is here

* `Budget.kind`, `Customer.kind`, `ModelSpend.kind`, `SpendRecord.kind`, `ReportRange.kind`,
  `SpendReport.kind` — the kinds of records that are read.
* `Customer.ListObjects`, `SpendReport.Objects` — where objects stand for them.
* `exchanged_spellingFree` — **the spelling of these objects makes no difference**, and what is
  given twice is refused.
-/

set_option autoImplicit false

namespace BillingConsole

open Json

/-! ## Customers -/

/-- Budgets. -/
def Budget.kind : RecordKind where
  name := "BudgetTable"
  fields := [⟨maxBudgetField⟩, ⟨softBudgetField⟩, ⟨tokensPerMinuteField⟩,
    ⟨requestsPerMinuteField⟩, ⟨durationField⟩]
  build := build
  apart := by decide
  same_build := by
    rintro found found' ⟨hmax, hsoft, htokens, hrequests, hduration⟩
    exact (FieldValues.same_withDefault hmax _).bind fun _ =>
      (FieldValues.same_withDefault hsoft _).bind fun _ =>
      (FieldValues.same_withDefault htokens _).bind fun _ =>
      (FieldValues.same_withDefault hrequests _).bind fun _ =>
      (FieldValues.same_withDefault hduration _).bind fun _ => .refl _

/-- Customers. -/
def Customer.kind : RecordKind where
  name := "Customer"
  fields := [⟨idField⟩, ⟨aliasField⟩, ⟨spendField⟩, ⟨blockedField⟩, ⟨allowedRegionField⟩,
    ⟨defaultModelField⟩, ⟨budgetIdField⟩, ⟨budgetField⟩]
  build := build
  apart := by decide
  same_build := by
    rintro found found' ⟨hid, halias, hspend, hblocked, hregion, hmodel, hbudgetId, hbudget⟩
    exact (FieldValues.same_required hid).bind fun _ =>
      (FieldValues.same_withDefault halias _).bind fun _ =>
      (FieldValues.same_withDefault hspend _).bind fun _ =>
      (FieldValues.same_withDefault hblocked _).bind fun _ =>
      (FieldValues.same_withDefault hregion _).bind fun _ =>
      (FieldValues.same_withDefault hmodel _).bind fun _ =>
      (FieldValues.same_withDefault hbudgetId _).bind fun _ =>
      (FieldValues.same_withDefault hbudget _).bind fun _ => .refl _

/-- Where objects stand in a list of customers: each item is a customer, and the value of a
customer's budget is a budget. -/
structure Customer.ListObjects : Prop where
  customers : ∀ (before after : List Tree) (stop : Stop),
    Stands kind listDecoder fun tree => .array (before ++ tree :: after) stop
  budgets : ∀ customer around : Tree → Tree, Stands kind listDecoder customer →
    kind.Holds ⟨budgetField⟩ around →
    Stands Budget.kind listDecoder fun tree => customer (around tree)

theorem Customer.listObjects : ListObjects where
  customers before after stop := .item before after stop .here
  budgets _ _ hcustomer hholds :=
    have hbudget : Stands Budget.kind budgetField.decoder fun tree => tree := .value .here
    (Stands.field hholds hbudget).within hcustomer

/-! ## Reports -/

/-- The usage of a model. -/
def ModelSpend.kind : RecordKind where
  name := "ModelSpend"
  fields := [⟨spendField⟩, ⟨requestsField⟩, ⟨tokensField⟩]
  build := build
  apart := by decide
  same_build := by
    rintro found found' ⟨hspend, hrequests, htokens⟩
    exact (FieldValues.same_withDefault hspend _).bind fun _ =>
      (FieldValues.same_withDefault hrequests _).bind fun _ =>
      (FieldValues.same_withDefault htokens _).bind fun _ => .refl _

/-- What one customer spent. -/
def SpendRecord.kind : RecordKind where
  name := "SpendRecord"
  fields := [⟨customerIdField⟩, ⟨aliasField⟩, ⟨spendField⟩, ⟨requestsField⟩, ⟨tokensField⟩,
    ⟨promptTokensField⟩, ⟨completionTokensField⟩, ⟨byModelField⟩]
  build := build
  apart := by decide
  same_build := by
    rintro found found' ⟨hid, halias, hspend, hrequests, htokens, hprompt, hcompletion, hbyModel⟩
    exact (FieldValues.same_required hid).bind fun _ =>
      (FieldValues.same_withDefault halias _).bind fun _ =>
      (FieldValues.same_withDefault hspend _).bind fun _ =>
      (FieldValues.same_withDefault hrequests _).bind fun _ =>
      (FieldValues.same_withDefault htokens _).bind fun _ =>
      (FieldValues.same_withDefault hprompt _).bind fun _ =>
      (FieldValues.same_withDefault hcompletion _).bind fun _ =>
      (FieldValues.same_withDefault hbyModel _).bind fun _ => .refl _

/-- The range a report was made for. -/
def ReportRange.kind : RecordKind where
  name := "SpendDateRange"
  fields := [⟨startField⟩, ⟨stopField⟩]
  build := build
  apart := by decide
  same_build := by
    rintro found found' ⟨hstart, hstop⟩
    exact (FieldValues.same_withDefault hstart _).bind fun _ =>
      (FieldValues.same_withDefault hstop _).bind fun _ => .refl _

/-- Pages of a report. -/
def SpendReport.kind : RecordKind where
  name := "SpendReport"
  fields := [⟨recordsField⟩, ⟨totalCustomersField⟩, ⟨rangeField⟩, ⟨pageField⟩, ⟨pageSizeField⟩,
    ⟨totalPagesField⟩]
  build := build
  apart := by decide
  same_build := by
    rintro found found' ⟨hrecords, htotal, hrange, hpage, hsize, hpages⟩
    exact (FieldValues.same_withDefault hrecords _).bind fun _ =>
      (FieldValues.same_withDefault htotal _).bind fun _ =>
      (FieldValues.same_withDefault hrange _).bind fun _ =>
      (FieldValues.same_withDefault hpage _).bind fun _ =>
      (FieldValues.same_withDefault hsize _).bind fun _ =>
      (FieldValues.same_withDefault hpages _).bind fun _ => .refl _

/-- Where objects stand in a report: the report itself, its range, each item of its records, and in
a record each entry of the usage by model. -/
structure SpendReport.Objects : Prop where
  report : Stands kind decoder fun tree => tree
  range : ∀ around : Tree → Tree, kind.Holds ⟨rangeField⟩ around →
    Stands ReportRange.kind decoder around
  records : ∀ (around : Tree → Tree) (before after : List Tree) (stop : Stop),
    kind.Holds ⟨recordsField⟩ around →
    Stands SpendRecord.kind decoder fun tree => around (.array (before ++ tree :: after) stop)
  models : ∀ (record around : Tree → Tree) (before after : List (StringLiteral × Tree))
    (model : StringLiteral) (stop : Stop),
    Stands SpendRecord.kind decoder record →
    SpendRecord.kind.Holds ⟨SpendRecord.byModelField⟩ around →
    Stands ModelSpend.kind decoder fun tree =>
      record (around (.object (before ++ (model, tree) :: after) stop))

theorem SpendReport.objects : Objects where
  report := .here
  range _ hholds := .field hholds .here
  records _ before after stop hholds :=
    have hrecord : Stands SpendRecord.kind recordsField.decoder fun tree =>
        .array (before ++ tree :: after) stop := .item before after stop .here
    .field hholds hrecord
  models _ _ before after model stop hrecord hholds :=
    have hmodel : Stands ModelSpend.kind SpendRecord.byModelField.decoder fun tree =>
        .object (before ++ (model, tree) :: after) stop := .entry before after model stop .here
    (Stands.field hholds hmodel).within hrecord

/-! ## Whole texts -/

/-- **The spelling of the objects makes no difference** to what a list of customers or a report is
decoded to, and a text in which one of them gives a field twice is refused. -/
theorem exchanged_spellingFree :
    (Customer.ListObjects ∧ SpellingFree Customer.listDecoder) ∧
      SpendReport.Objects ∧ SpellingFree SpendReport.decoder :=
  ⟨⟨Customer.listObjects, spellingFree _⟩, SpendReport.objects, spellingFree _⟩

-- a budget before its customer's id, by its other name and with a member that is not known
example :
    decode Customer.decoder
        "\x7b\"litellm_budget_table\":\x7b\"note\":[0],\"max_budget\":2\x7d,\"user_id\":\"a\"\x7d" =
      decode Customer.decoder "\x7b\"user_id\":\"a\",\"budget\":\x7b\"max_budget\":2\x7d\x7d" := by
  decide +kernel

end BillingConsole
