import BillingConsole.Customer
import BillingConsole.Spend

/-!
# Tables as CSV

A table is exported as text with semicolons between cells and a line feed after every line, behind a
byte order mark.  A cell that contains a semicolon, a quote or a line break is put between quotes,
with every quote in it written twice.

## What is here

* `csvCell` — a cell as written.
* `csvText` — a whole table; the titles of its columns are written as they are.
* `csvOfCustomers`, `csvOfSpend` — the two tables the console exports.
-/

set_option autoImplicit false

namespace BillingConsole

/-- Whether a cell has to stand between quotes. -/
def needsQuotes (cell : List Char) : Bool :=
  cell.any fun c => c == ';' || c == '"' || c == '\n' || c == '\r'

/-- A cell as written. -/
def csvCell (cell : List Char) : List Char :=
  if needsQuotes cell then
    '"' :: cell.flatMap (fun c => if c = '"' then ['"', '"'] else [c]) ++ ['"']
  else cell

/-- Cells as one line, with the line feed at its end. -/
def csvLine (cells : List (List Char)) : List Char := [';'].intercalate cells ++ ['\n']

/-- A table as text. -/
def csvText (titles : List (List Char)) (rows : List (List (List Char))) : List Char :=
  '\ufeff' :: csvLine titles ++ rows.flatMap fun row => csvLine (row.map csvCell)

/-- The titles of the columns for customers. -/
def customerTitles : List String :=
  ["Customer ID", "Alias", "Spend (USD)", "Max Budget (USD)", "Status", "Allowed Region",
    "Default Model", "Budget ID"]

/-- The cells of a customer. -/
def Customer.csvCells (customer : Customer) : List (List Char) :=
  [customer.id.toList, (textOrDash customer.aliasName).toList, customer.spend.twoPlaces,
    match customer.maxBudget with
    | some amount => amount.twoPlaces
    | none => ['-'],
    customer.status.label.toList, (textOrDash customer.allowedRegion).toList,
    (textOrDash customer.defaultModel).toList, (textOrDash customer.budgetId).toList]

/-- Customers as a table. -/
def csvOfCustomers (customers : List Customer) : String :=
  String.ofList (csvText (customerTitles.map String.toList) (customers.map Customer.csvCells))

/-- The titles of the columns for spending. -/
def spendTitles : List String :=
  ["Customer ID", "Alias", "Total Spend (USD)", "Requests", "Tokens", "Prompt Tokens",
    "Completion Tokens"]

/-- The cells of what a customer spent. -/
def SpendRecord.csvCells (record : SpendRecord) : List (List Char) :=
  [record.customerId.toList, (record.aliasName.getD "").toList, record.spend.twoPlaces,
    digits10 record.requests.toNat, digits10 record.tokens.toNat,
    digits10 record.promptTokens.toNat, digits10 record.completionTokens.toNat]

/-- Spending as a table. -/
def csvOfSpend (records : List SpendRecord) : String :=
  String.ofList (csvText (spendTitles.map String.toList) (records.map SpendRecord.csvCells))

end BillingConsole
