import BillingConsole.Gateway.Request
import Mathlib.Data.List.Basic

/-!
# Requests for billing data

Which requests go to the addresses of billing, and what they carry.

## What is here

* `IsBillingPath` — the addresses: the list of customers, the report, the spending of a customer.
* `Call.billingToken?` — the access token a call for billing data carries.
* `Call.headers_of_billingToken?` — such a call carries its token as bearer.
* `Call.asksForBilling_iff` — the calls for billing data are those that go to an address of billing.
-/

set_option autoImplicit false

namespace BillingConsole

/-- Where billing data are. -/
def IsBillingPath (path : String) : Prop :=
  path = "/customer/list" ∨ path = "/customer/spend" ∨
    (∃ query, path = "/customer/spend?" ++ query) ∨ ∃ id, path = "/customer/" ++ id ++ "/spend"

/-- Every address of billing begins in the same way. -/
theorem IsBillingPath.isPrefix {path : String} (h : IsBillingPath path) :
    "/customer/".toList <+: path.toList := by
  rcases h with rfl | rfl | ⟨query, rfl⟩ | ⟨id, rfl⟩
  · decide
  · decide
  · have hspend : "/customer/".toList <+: "/customer/spend?".toList := by decide
    rw [String.toList_append]
    exact hspend.trans (List.prefix_append _ _)
  · rw [String.toList_append, String.toList_append, List.append_assoc]
    exact List.prefix_append _ _

theorem ofList_toList_append (first : String) (rest : List Char) :
    String.ofList (first.toList ++ rest) = first ++ String.ofList rest := by
  rw [String.ofList_append, String.ofList_toList]

theorem ofList_append_toList (first : List Char) (last : String) :
    String.ofList (first ++ last.toList) = String.ofList first ++ last := by
  rw [String.ofList_append, String.ofList_toList]

theorem isBillingPath_spendReportPath (query : SpendQuery) :
    IsBillingPath (spendReportPath query) := by
  rw [spendReportPath.eq_def]
  split
  · exact .inr (.inl rfl)
  · have hpath : "/customer/spend?".toList = spendPath.toList ++ ['?'] := by decide
    refine .inr (.inr (.inl ⟨String.ofList (encodeForm query.formFields), ?_⟩))
    rw [← ofList_toList_append, hpath, List.append_assoc, List.singleton_append]

theorem isBillingPath_customerSpendPath (id : String) : IsBillingPath (customerSpendPath id) := by
  have hpath := ofList_append_toList ("/customer/".toList ++ encodeSegment id.toList) "/spend"
  exact .inr (.inr (.inr ⟨_, hpath.trans (congrArg (· ++ "/spend") (ofList_toList_append _ _))⟩))

namespace Call

/-- The access token of a call for billing data. -/
def billingToken? : Call → Option String
  | customers token | report token _ | detail token _ => some token
  | currentUser _ | signIn _ | refresh _ | signOut _ => none

/-- Where a call goes. -/
def path : Call → String
  | customers _ => customerListPath
  | report _ query => spendReportPath query
  | detail _ id => customerSpendPath id
  | currentUser _ => "/auth/me"
  | signIn _ => "/auth/login"
  | refresh _ => "/auth/refresh"
  | signOut _ => "/auth/logout"

theorem url_request (call : Call) (base : String) :
    (call.request base).url = base ++ call.path := by
  cases call <;> rfl

/-- A call for billing data carries its token. -/
theorem headers_of_billingToken? {call : Call} {token : String}
    (h : call.billingToken? = some token) (base : String) :
    (call.request base).headers = [("Authorization", bearer token)] := by
  cases call with
  | customers | report | detail => cases h; rfl
  | currentUser | signIn | refresh | signOut => cases h

/-- A call for billing data goes to an address of billing. -/
theorem isBillingPath_of_billingToken? {call : Call} {token : String}
    (h : call.billingToken? = some token) : IsBillingPath call.path := by
  cases call with
  | customers => exact .inl rfl
  | report token query => exact isBillingPath_spendReportPath query
  | detail token id => exact isBillingPath_customerSpendPath id
  | currentUser | signIn | refresh | signOut => cases h

/-- A call goes to an address of billing. -/
def AsksForBilling (call : Call) : Prop :=
  ∃ base path, IsBillingPath path ∧ (call.request base).url = base ++ path

/-- What goes to an address of billing is a call for billing data, and the other way round. -/
theorem asksForBilling_iff {call : Call} :
    call.AsksForBilling ↔ ∃ token, call.billingToken? = some token := by
  constructor
  · rintro ⟨base, path, hpath, hurl⟩
    rw [url_request] at hurl
    obtain rfl := String.append_right_inj _ |>.1 hurl
    have hprefix := hpath.isPrefix
    cases call with
    | customers token | report token | detail token => exact ⟨token, rfl⟩
    | currentUser | signIn | refresh | signOut =>
      rw [Call.path] at hprefix
      exact absurd hprefix (by decide)
  · rintro ⟨token, h⟩
    exact ⟨"", call.path, isBillingPath_of_billingToken? h, call.url_request ""⟩

end Call

end BillingConsole
