import BillingConsole.Calendar.DateText
import BillingConsole.Number.Binary64

/-!
# What customers spent

The gateway reports the spending of all customers over a range of dates, page by page, and the
spending of one customer by model.

## What is here

* `ModelSpend`, `SpendRecord`, `SpendReport` — a page of the report.
* `SpendQuery` — which page of which report is asked for.
* `ModelSpendDetail`, `SpendDetail` — one customer by model.
* `SpendTotals` — the sums over the records of a page.
-/

set_option autoImplicit false

namespace BillingConsole

/-- What was spent on one model. -/
structure ModelSpend where
  spend : Binary64
  requests : UInt64
  tokens : UInt64
deriving DecidableEq

/-- What one customer spent in the range of a report.  The models stand in the order they were
received. -/
structure SpendRecord where
  customerId : String
  aliasName : Option String
  spend : Binary64
  requests : UInt64
  tokens : UInt64
  promptTokens : UInt64
  completionTokens : UInt64
  byModel : List (String × ModelSpend)
deriving DecidableEq

/-- The range a report was made for. -/
structure ReportRange where
  start : Option String
  stop : Option String
deriving DecidableEq

/-- One page of a report. -/
structure SpendReport where
  records : List SpendRecord
  totalCustomers : UInt64
  range : ReportRange
  page : UInt32
  pageSize : UInt32
  totalPages : UInt32
deriving DecidableEq

/-- The report before any was received. -/
def SpendReport.empty : SpendReport := ⟨[], 0, ⟨none, none⟩, 0, 0, 0⟩

instance : Inhabited SpendReport := ⟨.empty⟩

/-- Which page of which report is asked for; whatever is missing is left to the gateway. -/
structure SpendQuery where
  start : Option String
  stop : Option String
  page : Option UInt32
  pageSize : Option UInt32
deriving DecidableEq

namespace SpendQuery

/-- The query for a range of dates; a missing bound is left open. -/
def forRange (first last : Option Date) : SpendQuery :=
  ⟨first.map Date.text, last.map Date.text, none, none⟩

/-- The query for one page, counted from one. -/
def withPage (query : SpendQuery) (page pageSize : UInt32) : SpendQuery :=
  { query with page := some (max page 1), pageSize := some pageSize }

end SpendQuery

/-- What one customer spent on one model. -/
structure ModelSpendDetail where
  model : String
  spend : Binary64
  requests : UInt64
  tokens : UInt64
  promptTokens : UInt64
  completionTokens : UInt64
deriving DecidableEq

/-- What one customer spent, by model. -/
structure SpendDetail where
  customerId : String
  aliasName : Option String
  spend : Binary64
  requests : UInt64
  tokens : UInt64
  promptTokens : UInt64
  completionTokens : UInt64
  byModel : List ModelSpendDetail
deriving DecidableEq

/-- Sums over the records of a report. -/
structure SpendTotals where
  spend : Binary64
  requests : UInt64
  tokens : UInt64
deriving DecidableEq

namespace SpendTotals

/-- The sums over no records. -/
def zero : SpendTotals := ⟨.zero false, 0, 0⟩

/-- The sums with one more record. -/
def add (totals : SpendTotals) (record : SpendRecord) : SpendTotals :=
  ⟨totals.spend + record.spend, totals.requests + record.requests,
    totals.tokens + record.tokens⟩

/-- The sums over records, added up in their order. -/
def ofRecords (records : List SpendRecord) : SpendTotals := records.foldl add zero

end SpendTotals

end BillingConsole
