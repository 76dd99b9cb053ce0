import BillingConsole.Proofs.Wire.Account
import BillingConsole.Proofs.Wire.Customer
import BillingConsole.Proofs.Wire.Spend

/-!
# What the gateway and the console exchange comes back

Whatever a text is read as can be written and read again without a loss: texts with any characters,
a missing budget and one without ceilings, the order of the models in a record, integers up to the
ends of their range and the role of a user.  Of the doubles in it, it is assumed that the decimals
printed for them read back.

## What is here

* `exchanged_survivesWire` — **every type that is exchanged comes back.**
* `exchanged_survivesWire_customer` — a customer with a budget that sets nothing.
-/

set_option autoImplicit false

namespace BillingConsole

open Json

/-- **Every type that is exchanged comes back** from the text that is written for a value that was
read, if the decimals of its doubles read back. -/
theorem exchanged_survivesWire :
    SurvivesWire Customer.decoder Customer.encode ∧
      SurvivesWire Customer.listDecoder Customer.encodeList ∧
      SurvivesWire SpendReport.decoder SpendReport.encode ∧
      SurvivesWire SpendRecord.decoder SpendRecord.encode ∧
      SurvivesWire SpendDetail.decoder SpendDetail.encode ∧
      SurvivesWire SpendQuery.decoder SpendQuery.encode ∧
      SurvivesWire User.decoder User.encode ∧
      SurvivesWire SignInAnswer.decoder SignInAnswer.encode := by
  have hlist : SurvivesWire Customer.listDecoder Customer.encodeList := by
    refine .of_yields (yields_list Customer.yields) fun hsound => ?_
    exact survives_list fun customer hcustomer => Customer.survives (hsound customer hcustomer)
  have hquery : SurvivesWire SpendQuery.decoder SpendQuery.encode := by
    have hall : Yields SpendQuery.decoder fun _ => True := fun _ _ _ => trivial
    exact .of_yields hall fun _ => SpendQuery.survives _
  exact ⟨.of_yields Customer.yields Customer.survives, hlist,
    .of_yields SpendReport.yields SpendReport.survives,
    .of_yields SpendRecord.yields SpendRecord.survives,
    .of_yields SpendDetail.yields SpendDetail.survives, hquery,
    .of_yields User.yields User.survives,
    .of_yields SignInAnswer.yields SignInAnswer.survives⟩

/-- A customer who spent one eighth and whose budget sets nothing. -/
def eighthCustomer : Customer :=
  ⟨"ré\n", none, .finite false 4503599627370496 (-55) (by decide), false, none, none, none,
    some ⟨none, none, none, none, none⟩⟩

/-- A text it is read from. -/
def eighthText : String :=
  "\x7b\"user_id\":\"r\\u00e9\\n\",\"spend\":0.125,\"budget\":\x7b\x7d\x7d"

/-- The customer comes back, with its empty budget. -/
theorem exchanged_survivesWire_customer :
    decode Customer.decoder eighthText = .ok eighthCustomer ∧
      eighthCustomer.encode.ReadsBack ∧
      decode Customer.decoder eighthCustomer.encode.toText = .ok eighthCustomer := by
  have hread : decode Customer.decoder eighthText = .ok eighthCustomer := by decide +kernel
  have hreads : eighthCustomer.encode.ReadsBack := by
    intro d hd text htext
    have hspend : d = eighthCustomer.spend := List.mem_singleton.1 hd
    have hnumeral : eighthCustomer.spend.numeral? = some "0.125".toList := by decide +kernel
    rw [hspend, hnumeral] at htext
    cases htext
    rw [hspend]
    decide +kernel
  exact ⟨hread, hreads, exchanged_survivesWire.1 eighthText eighthCustomer hread hreads⟩

end BillingConsole
