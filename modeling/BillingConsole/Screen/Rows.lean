/-!
# Rows with keys

A row of a table is made once for its key and kept as long as the key stays: only a new key makes a
new row.

## What is here

* `KeyedRow` — what a row was made from, with its key.
* `keepRows` — the rows after the data have changed.
-/

set_option autoImplicit false

namespace BillingConsole

/-- A row and its key: the number of the load it belongs to, and an id. -/
structure KeyedRow (α : Type) where
  key : Nat × String
  item : α
deriving DecidableEq

/-- The rows for new data, in their order; a row whose key was there before is kept as it was. -/
def keepRows {α : Type} (old fresh : List (KeyedRow α)) : List (KeyedRow α) :=
  fresh.map fun row => (old.find? fun kept => kept.key == row.key).getD row

end BillingConsole
