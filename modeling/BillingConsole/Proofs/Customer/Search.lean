import BillingConsole.Customer
import BillingConsole.Proofs.Text.Lowercase

/-!
# Searching the customers

## What is here

* `Customer.names`, `Customer.isFoundBy_iff`, `searchCustomers_eq_filter` — what a customer is
  searched by, and the search as a filter.
* `FindsCopied`, `findsCopied_iff` — **a search text finds every row it is copied from exactly if it
  has no open sigma**; `not_findsCopied_sigma` — a row that is not found.
* `Customer.Shows`, `search_ascii` — **what a search finds where everything is ASCII.**
-/

set_option autoImplicit false

namespace BillingConsole

namespace Customer

/-- The texts that a customer is searched by: the id, and the alias if there is one. -/
def names (customer : Customer) : List (List Char) :=
  customer.id.toList :: customer.aliasName.toList.map String.toList

theorem isFoundBy_iff {needle : List Char} {customer : Customer} :
    customer.isFoundBy needle = true ↔ ∃ name ∈ customer.names, needle <:+: lowercase name := by
  rw [isFoundBy, Bool.or_eq_true, occursIn_iff, names]
  cases customer.aliasName with
  | none => simp
  | some name => simp [occursIn_iff]

end Customer

/-- The empty text occurs everywhere, so it need not be told apart. -/
theorem searchCustomers_eq_filter (search : String) (customers : List Customer) :
    searchCustomers search customers =
      customers.filter (·.isFoundBy (lowercase search.toList)) := by
  rw [searchCustomers]
  split
  · next hempty =>
    have hall : ∀ customer ∈ customers,
        customer.isFoundBy (lowercase search.toList) = true := fun customer _ => by
      rw [String.isEmpty_iff.1 hempty]
      exact Customer.isFoundBy_iff.2 ⟨_, List.mem_cons_self, List.nil_infix⟩
    exact (List.filter_eq_self.2 hall).symm
  · rfl

theorem mem_searchCustomers_iff {search : String} {customers : List Customer}
    {customer : Customer} : customer ∈ searchCustomers search customers ↔
      customer ∈ customers ∧
        ∃ name ∈ customer.names, lowercase search.toList <:+: lowercase name := by
  rw [searchCustomers_eq_filter, List.mem_filter, Customer.isFoundBy_iff]

/-! ## Text that is copied from a row -/

/-- A search text stands, letter for letter, in the id or the alias. -/
def Customer.Contains (customer : Customer) (search : String) : Prop :=
  ∃ name ∈ customer.names, search.toList <:+: name

/-- A search text finds every row that it is copied from. -/
def FindsCopied (search : String) : Prop :=
  ∀ customers : List Customer, ∀ customer ∈ customers, customer.Contains search →
    customer ∈ searchCustomers search customers

/-- A customer with an id and nothing else. -/
def Customer.withId (id : String) : Customer :=
  ⟨id, none, .zero false, false, none, none, none, none⟩

theorem Customer.names_withId (id : String) : (Customer.withId id).names = [id.toList] := rfl

/-- **Which rows copied text finds.**  A search text finds a row that contains it in a place where
its sigmas agree; and it finds every row that contains it exactly if it has no open sigma. -/
theorem findsCopied_iff (search : String) :
    (∀ customers : List Customer, ∀ customer ∈ customers, ∀ u v,
        u ++ search.toList ++ v ∈ customer.names → SigmasAgree u search.toList v →
          customer ∈ searchCustomers search customers) ∧
      (FindsCopied search ↔ ¬HasOpenSigma search.toList) := by
  have hplace : ∀ customers : List Customer, ∀ customer ∈ customers, ∀ u v,
      u ++ search.toList ++ v ∈ customer.names → SigmasAgree u search.toList v →
        customer ∈ searchCustomers search customers := by
    intro customers customer hmem u v hname agree
    exact mem_searchCustomers_iff.2 ⟨hmem, _, hname, lowercase_infix agree⟩
  refine ⟨hplace, fun finds hopen => ?_, fun closed customers customer hmem contains => ?_⟩
  · obtain ⟨u, v, hmissing⟩ := exists_not_infix_of_open hopen
    have hnames : (Customer.withId (String.ofList (u ++ search.toList ++ v))).names =
        [u ++ search.toList ++ v] := by
      rw [Customer.names_withId, String.toList_ofList]
    have hfound := finds [_] _ List.mem_cons_self ⟨_, hnames ▸ List.mem_cons_self, u, v, rfl⟩
    obtain ⟨-, name, hname, hpart⟩ := mem_searchCustomers_iff.1 hfound
    rw [hnames, List.mem_singleton] at hname
    exact hmissing (hname ▸ hpart)
  · obtain ⟨_, hname, u, v, rfl⟩ := contains
    exact hplace customers customer hmem u v hname (sigmasAgree_of_closed closed u v)

/-- The end of a word is found where the word ends too, but it would not be found in a longer
word. -/
theorem findsCopied_iff_word :
    (SigmasAgree "Ο".toList "ΔΟΣ".toList " 1".toList ∧ HasOpenSigma "ΔΟΣ".toList) ∧
      Customer.withId "ΟΔΟΣ 1" ∈ searchCustomers "ΔΟΣ" [.withId "ΟΔΟΣ 1"] ∧ ¬FindsCopied "ΔΟΣ" := by
  have agree : SigmasAgree "Ο".toList "ΔΟΣ".toList " 1".toList := by
    intro a b hsplit
    change ['Δ', 'Ο', 'Σ'] = a ++ 'Σ' :: b at hsplit
    rcases a with _ | ⟨first, _ | ⟨second, _ | ⟨third, a⟩⟩⟩ <;> simp at hsplit
    obtain ⟨rfl, rfl, rfl⟩ := hsplit
    decide +kernel
  have hopen : HasOpenSigma "ΔΟΣ".toList :=
    ⟨"ΔΟ".toList, [], rfl, .inr ⟨by decide +kernel, rfl⟩⟩
  obtain ⟨hplace, hiff⟩ := findsCopied_iff "ΔΟΣ"
  exact ⟨⟨agree, hopen⟩,
    hplace _ _ List.mem_cons_self "Ο".toList " 1".toList List.mem_cons_self agree,
    fun finds => hiff.1 finds hopen⟩

/-- In a row with a word that ends in a sigma, the sigma by itself is not found. -/
theorem not_findsCopied_sigma : ¬∀ search : String, FindsCopied search := by
  intro finds
  have hfound := finds "Σ" [.withId "ΟΔΟΣ"] (.withId "ΟΔΟΣ") List.mem_cons_self
    ⟨"ΟΔΟΣ".toList, List.mem_cons_self, "ΟΔΟ".toList, [], rfl⟩
  have hnone : searchCustomers "Σ" [.withId "ΟΔΟΣ"] = [] := by decide +kernel
  rw [hnone] at hfound
  cases hfound

/-! ## ASCII -/

/-- Two texts are equal but for the case of letters of ASCII. -/
def EqualButCase (s t : List Char) : Prop := s.map Char.toLower = t.map Char.toLower

instance (s t : List Char) : Decidable (EqualButCase s t) :=
  inferInstanceAs (Decidable (s.map Char.toLower = t.map Char.toLower))

/-- At a place of a text a search text stands, but for case. -/
def StandsAt (search text : List Char) (place : Nat) : Prop :=
  EqualButCase ((text.drop place).take search.length) search

instance (search text : List Char) (place : Nat) : Decidable (StandsAt search text place) :=
  inferInstanceAs (Decidable (EqualButCase _ _))

/-- A search text stands somewhere in the id or the alias, but for case. -/
def Customer.Shows (customer : Customer) (search : String) : Prop :=
  ∃ name ∈ customer.names, ∃ place ≤ name.length, StandsAt search.toList name place

instance (customer : Customer) (search : String) : Decidable (customer.Shows search) :=
  inferInstanceAs (Decidable (∃ name ∈ customer.names, ∃ place ≤ name.length, _))

/-- A text stands inside another, letter for letter, exactly if it stands at some place of it. -/
theorem map_infix_map_iff {α β : Type} (f : α → β) (s t : List α) :
    s.map f <:+: t.map f ↔ ∃ place ≤ t.length, ((t.drop place).take s.length).map f = s.map f := by
  constructor
  · rintro ⟨u, v, h⟩
    have hlength := congrArg List.length h
    refine ⟨u.length, ?_, ?_⟩
    · simp only [List.length_append, List.length_map] at hlength
      omega
    · rw [List.map_take, List.map_drop, ← h, List.append_assoc, List.drop_left,
        ← List.length_map f, List.take_left]
  · rintro ⟨place, -, h⟩
    have hstart : (t.drop place).take s.length <+: t.drop place := List.take_prefix _ _
    rw [← h]
    exact (hstart.isInfix.trans (t.drop_suffix place).isInfix).map f

/-- Lower case does not lead out of ASCII, nor into it. -/
theorem toNat_toLower_lt_iff (c : Char) : c.toLower.toNat < 0x80 ↔ c.toNat < 0x80 := by
  by_cases hcapital : c.val ≥ 'A'.val ∧ c.val ≤ 'Z'.val
  · have hge : 65 ≤ c.toNat := hcapital.1
    have hle : c.toNat ≤ 90 := hcapital.2
    have hlower : c.toLower.val = c.val + ('a'.val - 'A'.val) :=
      congrArg Char.val (dif_pos hcapital)
    have hsmall : (c.val + ('a'.val - 'A'.val)).toNat = (c.toNat + 32) % 2 ^ 32 :=
      UInt32.toNat_add _ _
    exact iff_of_true (by rw [Char.toNat, hlower, hsmall]; omega) (by omega)
  · have hsame : c.toLower = c := dif_neg hcapital
    rw [hsame]

theorem IsAscii.of_equalButCase {s t : List Char} (h : IsAscii s) (same : EqualButCase t s) :
    IsAscii t := by
  intro c hc
  have hmem : c.toLower ∈ s.map Char.toLower := same ▸ List.mem_map_of_mem hc
  obtain ⟨d, hd, heq⟩ := List.mem_map.1 hmem
  rw [← toNat_toLower_lt_iff, ← heq, toNat_toLower_lt_iff]
  exact h d hd

theorem IsAscii.append {s t : List Char} (hs : IsAscii s) (ht : IsAscii t) : IsAscii (s ++ t) :=
  List.forall_mem_append.2 ⟨hs, ht⟩

/-- Everything that a customer is searched by is ASCII. -/
def Customer.NamedInAscii (customer : Customer) : Prop :=
  ∀ name ∈ customer.names, IsAscii name

instance (customer : Customer) : Decidable customer.NamedInAscii :=
  inferInstanceAs (Decidable (∀ name ∈ customer.names, IsAscii name))

theorem Customer.isFoundBy_iff_shows {customer : Customer} {search : String}
    (hcustomer : customer.NamedInAscii) (hsearch : IsAscii search.toList) :
    customer.isFoundBy (lowercase search.toList) = true ↔ customer.Shows search := by
  rw [isFoundBy_iff, lowercase_of_isAscii hsearch]
  refine exists_congr fun name => and_congr_right fun hname => ?_
  rw [lowercase_of_isAscii (hcustomer name hname), map_infix_map_iff]
  rfl

/-- What is found by a longer text is found by a part of it. -/
theorem Customer.isFoundBy_of_infix {customer : Customer} {part whole : List Char}
    (h : part <:+: whole) (found : customer.isFoundBy whole = true) :
    customer.isFoundBy part = true := by
  obtain ⟨name, hname, hpart⟩ := isFoundBy_iff.1 found
  exact isFoundBy_iff.2 ⟨name, hname, h.trans hpart⟩

/-- **What a search finds where everything is ASCII**: in their order, exactly the customers that
show the search text but for case.  So the case of the search text does not matter, searching what
was found changes nothing, and a longer search text finds no other customers. -/
theorem search_ascii {search : String} {customers : List Customer}
    (hsearch : IsAscii search.toList) (hcustomers : ∀ customer ∈ customers, customer.NamedInAscii) :
    searchCustomers search customers = customers.filter (fun customer => customer.Shows search) ∧
      (∀ other : String, EqualButCase other.toList search.toList →
        searchCustomers other customers = searchCustomers search customers) ∧
      searchCustomers search (searchCustomers search customers) =
        searchCustomers search customers ∧
      ∀ front back : String, IsAscii front.toList → IsAscii back.toList →
        (searchCustomers (front ++ search ++ back) customers).Sublist
          (searchCustomers search customers) := by
  simp only [searchCustomers_eq_filter]
  refine ⟨?_, fun other same => ?_, ?_, fun front back hfront hback => ?_⟩
  · refine List.filter_congr fun customer hmem => ?_
    rw [Bool.eq_iff_iff, decide_eq_true_iff]
    exact Customer.isFoundBy_iff_shows (hcustomers customer hmem) hsearch
  · rw [lowercase_of_isAscii hsearch, lowercase_of_isAscii (hsearch.of_equalButCase same), same]
  · rw [List.filter_filter]
    simp only [Bool.and_self]
  · refine List.monotone_filter_right customers fun customer found => ?_
    refine Customer.isFoundBy_of_infix ?_ found
    rw [String.toList_append, String.toList_append,
      lowercase_of_isAscii ((hfront.append hsearch).append hback), lowercase_of_isAscii hsearch,
      List.map_append, List.map_append]
    exact ⟨_, _, rfl⟩

/-- Customers of which two show a text, one in the id and one in the alias. -/
def annAndOthers : List Customer :=
  [.withId "team-ANNEX", .withId "u2", { Customer.withId "u1" with aliasName := some "Ann Lee" }]

theorem search_ascii_ann :
    (IsAscii "aNN".toList ∧ ∀ customer ∈ annAndOthers, customer.NamedInAscii) ∧
      (searchCustomers "aNN" annAndOthers).map Customer.id = ["team-ANNEX", "u1"] ∧
      (searchCustomers "aNN " annAndOthers).Sublist (searchCustomers "aNN" annAndOthers) := by
  have hsearch : IsAscii "aNN".toList := by decide
  have hcustomers : ∀ customer ∈ annAndOthers, customer.NamedInAscii := by decide
  obtain ⟨hfound, -, -, hlonger⟩ := search_ascii hsearch hcustomers
  refine ⟨⟨hsearch, hcustomers⟩, ?_, hlonger "" " " (by decide) (by decide)⟩
  rw [hfound]
  decide

end BillingConsole
