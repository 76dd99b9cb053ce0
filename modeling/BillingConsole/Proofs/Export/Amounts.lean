import BillingConsole.Export.Csv
import BillingConsole.Proofs.Money.Usd

/-!
# Amounts in exported tables

The page shows an amount with the sign of the currency and with commas between groups of digits, an
exported table with neither.  Both round to cents alike.  They differ where nothing is left of an
amount with a minus sign: the page then drops the sign, and the table keeps it.

## What is here

* `plainAmount` — an amount as the page shows it, without the sign of the currency and the commas.
* `Binary64.LosesSign` — a minus sign and at most half a cent; `-0.0` is such an amount.
* `twoPlaces_eq_iff` — **the two texts agree for all other finite amounts**, and only for these.
* `Customer.amounts`, `SpendRecord.amounts`, `ExportsShown` — the columns of the exported tables that
  hold amounts, and what it means that such a column repeats the page.
* `exportsShown_iff` — when it does; `not_exportsShown_tenthOfCent` — that it does not always.
-/

set_option autoImplicit false

namespace BillingConsole

/-! ## The text of an amount in a table -/

/-- Neither the sign of the currency nor a comma. -/
def isOfPlainAmount (c : Char) : Bool := c != '$' && c != ','

/-- An amount as it is shown, without the sign of the currency and without commas. -/
def plainAmount (shown : String) : List Char := shown.toList.filter isOfPlainAmount

theorem isOfPlainAmount_of_isDigit {c : Char} (h : c.isDigit = true) :
    isOfPlainAmount c = true := by
  have hdollar : c ≠ '$' := by rintro rfl; simp at h
  have hcomma : c ≠ ',' := by rintro rfl; simp at h
  simp [isOfPlainAmount, hdollar, hcomma]

namespace Binary64

variable {v : Binary64}

/-- Whether the double has a minus sign, as `-0.0` has too. -/
def hasMinus : Binary64 → Bool
  | .nan => false
  | .infinite s => s
  | .finite s _ _ _ => s

/-- A minus sign before an amount of which nothing is left when it is rounded to cents. -/
def LosesSign (v : Binary64) : Prop := v.hasMinus = true ∧ |v.value| ≤ 1 / 200

theorem twoPlaces_eq (hv : v.isFinite = true) :
    v.twoPlaces = (if v.hasMinus then ['-'] else []) ++ hundredthsText v.cents := by
  cases v with
  | finite s m e h => rfl
  | _ => simp [isFinite] at hv

/-- Nothing is left of half a cent, which is rounded to the even neighbour. -/
theorem cents_eq_zero_iff (hv : v.isFinite = true) : v.cents = 0 ↔ |v.value| ≤ 1 / 200 := by
  have hnear := nearestEven_cents hv
  have hnonneg : 0 ≤ |v.value| * 100 := by positivity
  constructor
  · intro hzero
    have hhalf := hnear.near
    rw [hzero, Nat.cast_zero, sub_zero, abs_of_nonneg hnonneg] at hhalf
    linarith
  · intro hle
    have hzero : NearestEven (|v.value| * 100) 0 := by
      refine ⟨?_, fun _ => Nat.even_iff.2 rfl⟩
      rw [Nat.cast_zero, sub_zero, abs_of_nonneg hnonneg]
      linarith
    exact hnear.unique hzero

theorem losesSign_iff (hv : v.isFinite = true) :
    v.LosesSign ↔ v.hasMinus = true ∧ v.cents = 0 := by
  rw [LosesSign, cents_eq_zero_iff hv]

/-- Where cents are left, the numbers below zero are those with a minus sign. -/
theorem value_neg_iff (hv : v.isFinite = true) (hcents : 0 < v.cents) :
    v.value < 0 ↔ v.hasMinus = true := by
  rw [← isBelowZero_iff hv]
  cases v with
  | finite s m e h =>
    have hm : m ≠ 0 := by
      rintro rfl
      -- no cents are left of a zero
      have hzero : (finite s 0 e h).cents = 0 := (cents_eq_zero_iff hv).2 (by simp [value])
      omega
    simp [isBelowZero, hasMinus, hm]
  | _ => simp [isFinite] at hv

end Binary64

variable {v : Binary64}

/-- Without the commas the dollars are the hundredths with their point. -/
theorem filter_dollars (cents : ℕ) :
    (dollars cents).filter isOfPlainAmount = Binary64.hundredthsText cents := by
  have hwhole : (groupDigits ',' (digits10 (cents / 100))).filter isOfPlainAmount =
      digits10 (cents / 100) :=
    filter_groupDigits rfl fun c hc => isOfPlainAmount_of_isDigit (isDigit_of_mem_digits10 hc)
  have hfraction : (padded10 2 (cents % 100)).filter isOfPlainAmount = padded10 2 (cents % 100) :=
    List.filter_eq_self.2 fun c hc => isOfPlainAmount_of_isDigit (isDigit_of_mem_padded10 hc)
  rw [dollars, List.filter_append, List.filter_cons_of_pos rfl, hwhole, hfraction,
    Binary64.hundredthsText]

/-- What the page shows of a finite amount, but for the sign of the currency and the commas. -/
theorem plainAmount_usd (hv : v.isFinite = true) :
    plainAmount (usd v) =
      (if v.value < 0 ∧ 0 < v.cents then ['-'] else []) ++ Binary64.hundredthsText v.cents := by
  rw [plainAmount, toList_usd hv, List.filter_append,
    List.filter_cons_of_neg (by simp [isOfPlainAmount]), filter_dollars]
  split_ifs <;> simp [isOfPlainAmount]

/-- **The table and the page agree on every finite amount but those that lose their sign.** -/
theorem twoPlaces_eq_iff (hv : v.isFinite = true) :
    v.twoPlaces = plainAmount (usd v) ↔ ¬v.LosesSign := by
  rw [Binary64.twoPlaces_eq hv, plainAmount_usd hv, List.append_left_inj,
    Binary64.losesSign_iff hv]
  rcases Nat.eq_zero_or_pos v.cents with hzero | hpos
  · simp [hzero]
  · have hne : v.cents ≠ 0 := by omega
    simp [Binary64.value_neg_iff hv hpos, hpos, hne]

/-- The texts of an amount that loses its sign. -/
theorem texts_of_losesSign (hv : v.isFinite = true) (h : v.LosesSign) :
    v.twoPlaces = "-0.00".toList ∧ usd v = "$0.00" := by
  obtain ⟨hminus, hcents⟩ := (Binary64.losesSign_iff hv).1 h
  refine ⟨?_, String.toList_inj.1 ?_⟩
  · rw [Binary64.twoPlaces_eq hv, hminus, hcents]
    rfl
  · rw [toList_usd hv, hcents, if_neg (by simp)]
    rfl

/-! ## The columns with amounts -/

/-- The columns that hold an amount of a customer, by their titles. -/
def Customer.amounts (customer : Customer) : List (String × Binary64) :=
  ("Spend (USD)", customer.spend) :: (customer.maxBudget.map ("Max Budget (USD)", ·)).toList

/-- The column that holds an amount of a record, by its title. -/
def SpendRecord.amounts (record : SpendRecord) : List (String × Binary64) :=
  [("Total Spend (USD)", record.spend)]

/-- The cell of a customer under a title. -/
def Customer.cellUnder? (customer : Customer) (title : String) : Option (List Char) :=
  (customerTitles.zip customer.csvCells).lookup title

/-- The cell of a record under a title. -/
def SpendRecord.cellUnder? (record : SpendRecord) (title : String) : Option (List Char) :=
  (spendTitles.zip record.csvCells).lookup title

theorem Customer.cellUnder?_amount {customer : Customer} {column : String × Binary64}
    (h : column ∈ customer.amounts) : customer.cellUnder? column.1 = some column.2.twoPlaces := by
  rw [amounts, List.mem_cons] at h
  rcases h with rfl | h
  · rfl
  · simp only [Option.mem_toList, Option.map_eq_some_iff] at h
    obtain ⟨ceiling, hceiling, rfl⟩ := h
    simp [cellUnder?, customerTitles, csvCells, hceiling, List.lookup_cons]

theorem SpendRecord.cellUnder?_amount {record : SpendRecord} {column : String × Binary64}
    (h : column ∈ record.amounts) : record.cellUnder? column.1 = some column.2.twoPlaces := by
  rw [amounts, List.mem_singleton] at h
  rw [h]
  rfl

/-- A cell repeats an amount as the page shows it, without the sign of the currency and the
commas. -/
def ExportsShown (cell : Option (List Char)) (amount : Binary64) : Prop :=
  cell = some (plainAmount (usd amount))

theorem exportsShown_twoPlaces_iff (hv : v.isFinite = true) :
    (ExportsShown (some v.twoPlaces) v ↔ ¬v.LosesSign) ∧
      (v.LosesSign → some v.twoPlaces = some "-0.00".toList ∧ usd v = "$0.00") := by
  refine ⟨?_, fun h => ?_⟩
  · rw [ExportsShown, Option.some_inj, twoPlaces_eq_iff hv]
  · obtain ⟨hcell, hshown⟩ := texts_of_losesSign hv h
    exact ⟨congrArg some hcell, hshown⟩

/-- **A table repeats the amounts of the page**, those of customers and those of records, except
where an amount loses its sign: then the table has a minus sign before nothing and the page has
none. -/
theorem exportsShown_iff (customer : Customer) (record : SpendRecord) :
    (∀ column ∈ customer.amounts, column.2.isFinite = true →
      (ExportsShown (customer.cellUnder? column.1) column.2 ↔ ¬column.2.LosesSign) ∧
      (column.2.LosesSign →
        customer.cellUnder? column.1 = some "-0.00".toList ∧ usd column.2 = "$0.00")) ∧
    ∀ column ∈ record.amounts, column.2.isFinite = true →
      (ExportsShown (record.cellUnder? column.1) column.2 ↔ ¬column.2.LosesSign) ∧
      (column.2.LosesSign →
        record.cellUnder? column.1 = some "-0.00".toList ∧ usd column.2 = "$0.00") := by
  refine ⟨fun column hmem hfinite => ?_, fun column hmem hfinite => ?_⟩
  · rw [Customer.cellUnder?_amount hmem]
    exact exportsShown_twoPlaces_iff hfinite
  · rw [SpendRecord.cellUnder?_amount hmem]
    exact exportsShown_twoPlaces_iff hfinite

/-- Owing a tenth of a cent. -/
def owedTenthOfCent : Binary64 := .finite true 4611686018427388 (-62) (by decide)

/-- Owing 1234.5, with a comma on the page. -/
def owedThousands : Binary64 := .finite true 5429388417957888 (-42) (by decide)

/-- A customer who owes a tenth of a cent, below a ceiling that is negative itself. -/
def owingCustomer : Customer :=
  ⟨"u1", none, owedTenthOfCent, false, none, none, none,
    some ⟨some owedThousands, none, none, none, none⟩⟩

/-- What was paid back to the customer. -/
def repaidRecord : SpendRecord := ⟨"u1", none, owedThousands, 0, 0, 0, 0, []⟩

theorem exportsShown_iff_owing :
    (owedTenthOfCent.isFinite = true ∧ owedThousands.isFinite = true) ∧
      ¬ExportsShown (owingCustomer.cellUnder? "Spend (USD)") owedTenthOfCent ∧
      ExportsShown (owingCustomer.cellUnder? "Max Budget (USD)") owedThousands ∧
      ExportsShown (repaidRecord.cellUnder? "Total Spend (USD)") owedThousands := by
  have hloses : owedTenthOfCent.LosesSign := by
    refine ⟨rfl, ?_⟩
    norm_num [owedTenthOfCent, Binary64.value]
  have hkeeps : ¬owedThousands.LosesSign := by
    intro h
    have hsmall := h.2
    norm_num [owedThousands, Binary64.value] at hsmall
  obtain ⟨hcustomer, hrecord⟩ := exportsShown_iff owingCustomer repaidRecord
  have hspend := hcustomer ("Spend (USD)", owedTenthOfCent)
    (by simp [Customer.amounts, owingCustomer]) rfl
  have hceiling := hcustomer ("Max Budget (USD)", owedThousands)
    (by simp [Customer.amounts, Customer.maxBudget, owingCustomer]) rfl
  have hrepaid := hrecord ("Total Spend (USD)", owedThousands)
    (by simp [SpendRecord.amounts, repaidRecord]) rfl
  exact ⟨⟨rfl, rfl⟩, fun h => hspend.1.1 h hloses, hceiling.1.2 hkeeps, hrepaid.1.2 hkeeps⟩

/-- A tenth of a cent that is owed has a minus sign in the table and none on the page. -/
theorem not_exportsShown_tenthOfCent :
    ¬((∀ customer : Customer, (∀ column ∈ customer.amounts, column.2.isFinite = true) →
        ∀ column ∈ customer.amounts, ExportsShown (customer.cellUnder? column.1) column.2) ∧
      ∀ record : SpendRecord, (∀ column ∈ record.amounts, column.2.isFinite = true) →
        ∀ column ∈ record.amounts, ExportsShown (record.cellUnder? column.1) column.2) := by
  intro h
  have hfinite : ∀ column ∈ owingCustomer.amounts, column.2.isFinite = true := by decide
  have hcell := h.1 owingCustomer hfinite ("Spend (USD)", owedTenthOfCent) List.mem_cons_self
  exact absurd hcell (by unfold ExportsShown; decide)

end BillingConsole
