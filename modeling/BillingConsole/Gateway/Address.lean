import BillingConsole.Number.Fixed
import BillingConsole.Spend
import BillingConsole.Text.Blank
import BillingConsole.Text.Percent

/-!
# Addresses of the gateway

An address is a base followed by a path.  The base is kept without white space around it and without
slashes at its end, so that a path can be appended as it is.

## What is here

* `normalizeBase` — the base in the form paths are appended to.
* `SpendQuery.formFields` — the parts of a query that are sent.
* `spendReportPath`, `customerSpendPath` — where spending is asked for.
-/

set_option autoImplicit false

namespace BillingConsole

/-- A base without white space around it and without slashes at its end. -/
def normalizeBase (base : List Char) : List Char := dropEndWhile (· == '/') (trim base)

/-- The parts of a query that are present, by their names and in their order. -/
def SpendQuery.formFields (query : SpendQuery) : List (String × List Char) :=
  [("start_date", query.start.map String.toList),
    ("end_date", query.stop.map String.toList),
    ("page", query.page.map fun n => digits10 n.toNat),
    ("page_size", query.pageSize.map fun n => digits10 n.toNat)].filterMap
      fun (name, value) => value.map fun text => (name, text)

/-- Names and values joined as in a submitted form. -/
def encodeForm (fields : List (String × List Char)) : List Char :=
  ['&'].intercalate (fields.map fun (name, value) => name.toList ++ '=' :: encodeFormValue value)

/-- Where the list of customers is. -/
def customerListPath : String := "/customer/list"

/-- Where the spending of all customers is. -/
def spendPath : String := "/customer/spend"

/-- Where the page of the report that a query asks for is. -/
def spendReportPath (query : SpendQuery) : String :=
  match query.formFields with
  | [] => spendPath
  | fields => String.ofList (spendPath.toList ++ '?' :: encodeForm fields)

/-- Where the spending of one customer is. -/
def customerSpendPath (id : String) : String :=
  String.ofList ("/customer/".toList ++ encodeSegment id.toList ++ "/spend".toList)

end BillingConsole
