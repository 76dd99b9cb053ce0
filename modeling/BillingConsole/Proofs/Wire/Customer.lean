import BillingConsole.Proofs.Json.Record
import BillingConsole.Wire.Customer

/-!
# Customers come back

A customer that was read from a text comes back from the text that is written for it: its amounts
are finite then, and nothing else is asked of it.  A missing budget is written as null, and a budget
without ceilings as a record of nulls, so the two stay apart.

## What is here

* `Budget.Sound`, `Customer.Sound` — what is read.
* `Budget.yields`, `Customer.yields` — **whatever is read is sound.**
* `Budget.survives`, `Customer.survives` — **whatever is sound comes back.**
-/

set_option autoImplicit false

namespace BillingConsole

open Json

/-! ## Budgets -/

namespace Budget

/-- The ceilings for spending are finite. -/
structure Sound (budget : Budget) : Prop where
  maxBudget : ∀ d ∈ budget.maxBudget, d.isFinite = true
  softBudget : ∀ d ∈ budget.softBudget, d.isFinite = true

theorem yields : Yields decoder Sound := by
  intro tree budget h
  obtain ⟨found, hbuild⟩ := exists_build_of_record h
  obtain ⟨maxBudget, hmax, hbuild⟩ := exists_of_bind hbuild
  obtain ⟨softBudget, hsoft, hbuild⟩ := exists_of_bind hbuild
  obtain ⟨tokens, -, hbuild⟩ := exists_of_bind hbuild
  obtain ⟨requests, -, hbuild⟩ := exists_of_bind hbuild
  obtain ⟨duration, -, hbuild⟩ := exists_of_bind hbuild
  cases hbuild
  have hdouble : Yields (nullable double) fun d? => ∀ d ∈ d?, d.isFinite = true :=
    yields_nullable yields_double
  exact ⟨hdouble.withDefault_none hmax, hdouble.withDefault_none hsoft⟩

/-- What is written for a budget. -/
def slots (budget : Budget) : List Slot :=
  [⟨maxBudgetField, .ofOption .double, budget.maxBudget⟩,
    ⟨softBudgetField, .ofOption .double, budget.softBudget⟩,
    ⟨tokensPerMinuteField, .ofOption (.integer ·.toInt), budget.tokensPerMinute⟩,
    ⟨requestsPerMinuteField, .ofOption (.integer ·.toInt), budget.requestsPerMinute⟩,
    ⟨durationField, .ofOption .text, budget.duration⟩]

theorem survives {budget : Budget} (h : budget.Sound) : Survives decoder encode budget := by
  have hapart : FieldCheck.Apart fields := by decide
  refine survives_record hapart budget.slots (.refl _) ?_ ?_ ?_ _
  · rfl
  · exact ⟨survives_nullable refusesNull_double fun d hd => survives_double (h.maxBudget d hd),
      survives_nullable refusesNull_double fun d hd => survives_double (h.softBudget d hd),
      survives_nullable refusesNull_signed64 fun n _ => survives_signed64 n,
      survives_nullable refusesNull_signed64 fun n _ => survives_signed64 n,
      survives_nullable refusesNull_text fun s _ => survives_text s⟩
  · rintro found ⟨hmax, hsoft, htokens, hrequests, hduration⟩ - -
    rw [build, withDefault_of_found hmax, withDefault_of_found hsoft, withDefault_of_found htokens,
      withDefault_of_found hrequests, withDefault_of_found hduration]
    rfl

end Budget

/-! ## Customers -/

namespace Customer

/-- The amount spent and the ceilings are finite. -/
structure Sound (customer : Customer) : Prop where
  spend : customer.spend.isFinite = true
  budget : ∀ budget ∈ customer.budget, budget.Sound

theorem yields : Yields decoder Sound := by
  intro tree customer h
  obtain ⟨found, hbuild⟩ := exists_build_of_record h
  obtain ⟨id, -, hbuild⟩ := exists_of_bind hbuild
  obtain ⟨aliasName, -, hbuild⟩ := exists_of_bind hbuild
  obtain ⟨spend, hspend, hbuild⟩ := exists_of_bind hbuild
  obtain ⟨blocked, -, hbuild⟩ := exists_of_bind hbuild
  obtain ⟨allowedRegion, -, hbuild⟩ := exists_of_bind hbuild
  obtain ⟨defaultModel, -, hbuild⟩ := exists_of_bind hbuild
  obtain ⟨budgetId, -, hbuild⟩ := exists_of_bind hbuild
  obtain ⟨budget, hbudget, hbuild⟩ := exists_of_bind hbuild
  cases hbuild
  have hdouble : Yields spendField.decoder fun d => d.isFinite = true := yields_double
  have hnullable : Yields budgetField.decoder fun budget? => ∀ budget ∈ budget?, budget.Sound :=
    yields_nullable Budget.yields
  exact ⟨hdouble.withDefault rfl hspend, hnullable.withDefault_none hbudget⟩

/-- What is written for a customer. -/
def slots (customer : Customer) : List Slot :=
  [⟨idField, .text, customer.id⟩,
    ⟨aliasField, .ofOption .text, customer.aliasName⟩,
    ⟨spendField, .double, customer.spend⟩,
    ⟨blockedField, .bool, customer.blocked⟩,
    ⟨allowedRegionField, .ofOption .text, customer.allowedRegion⟩,
    ⟨defaultModelField, .ofOption .text, customer.defaultModel⟩,
    ⟨budgetIdField, .ofOption .text, customer.budgetId⟩,
    ⟨budgetField, .ofOption Budget.encode, customer.budget⟩]

theorem survives {customer : Customer} (h : customer.Sound) :
    Survives decoder encode customer := by
  have hapart : FieldCheck.Apart fields := by decide
  refine survives_record hapart customer.slots (.refl _) ?_ ?_ ?_ _
  · rfl
  · exact ⟨survives_text _,
      survives_nullable refusesNull_text fun s _ => survives_text s,
      survives_double h.spend,
      survives_boolean _,
      survives_nullable refusesNull_text fun s _ => survives_text s,
      survives_nullable refusesNull_text fun s _ => survives_text s,
      survives_nullable refusesNull_text fun s _ => survives_text s,
      survives_nullable (refusesNull_record _ _ _) fun budget hbudget =>
        Budget.survives (h.budget budget hbudget)⟩
  · rintro found ⟨hid, halias, hspend, hblocked, hregion, hmodel, hbudgetId, hbudget⟩ - -
    rw [build, required_of_found hid, withDefault_of_found halias, withDefault_of_found hspend,
      withDefault_of_found hblocked, withDefault_of_found hregion, withDefault_of_found hmodel,
      withDefault_of_found hbudgetId, withDefault_of_found hbudget]
    rfl

end Customer

end BillingConsole
