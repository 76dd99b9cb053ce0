import BillingConsole.Load.Outcome
import BillingConsole.Ticket
import Mathlib.Data.List.Basic

/-!
# What is seen of loads

The customers and the spend report are loaded by the same rules: a load takes a ticket, and its
answer counts only while no later ticket has been taken.  This file follows such loads from
outside, by the tickets that were handed out and the answers that came, so that what a list or a
panel holds can be compared with what happened to it.

## What is here

* `LoadEvent`, `LoadHistory` — what was seen, the latest first.
* `LoadHistory.issued`, `LoadHistory.answered`, `LoadHistory.latest?` — the tickets handed out, the
  tickets answered, and the latest load with what it asked for.
* `LoadHistory.takenOver` — the loads whose answer was good and came while theirs was the latest
  ticket; `LoadHistory.appliedCount` counts the answers that were reported as applied.
* `LoadHistory.Agrees` — the invariant: a counter, a loading flag and a count of loads agree with
  what was seen.  `Agrees.began`, `Agrees.stale`, `Agrees.failed` and `Agrees.applied` say that
  every step keeps it.
-/

set_option autoImplicit false

namespace BillingConsole

/-- What is seen of loads. -/
inductive LoadEvent (Asked Value : Type) where
  /-- A ticket was handed out for what was asked. -/
  | began (ticket : Nat) (asked : Asked)
  /-- The answer to a ticket came, and this is what became of it. -/
  | ended (ticket : Nat) (result : Except ApiError Value) (outcome : LoadOutcome)

/-- What was seen of loads, the latest first. -/
abbrev LoadHistory (Asked Value : Type) := List (LoadEvent Asked Value)

/-- A load that was taken over: its ticket, what it asked for and what it received. -/
structure TakenLoad (Asked Value : Type) where
  ticket : Nat
  asked : Asked
  value : Value

namespace LoadHistory

variable {Asked Value : Type}

/-! ## Reading a history -/

/-- The tickets that were handed out, the latest first. -/
def issued : LoadHistory Asked Value → List Nat
  | [] => []
  | .began ticket _ :: earlier => ticket :: issued earlier
  | .ended .. :: earlier => issued earlier

/-- The tickets that were answered, the latest answer first. -/
def answered : LoadHistory Asked Value → List Nat
  | [] => []
  | .began .. :: earlier => answered earlier
  | .ended ticket _ _ :: earlier => ticket :: answered earlier

/-- The latest ticket, and what its load asked for. -/
def latest? : LoadHistory Asked Value → Option (Nat × Asked)
  | [] => none
  | .began ticket asked :: _ => some (ticket, asked)
  | .ended .. :: earlier => latest? earlier

/-- What an answer brings: a good answer to the latest ticket is taken over, and no other is. -/
def taken? (earlier : LoadHistory Asked Value) (ticket : Nat) :
    Except ApiError Value → Option (TakenLoad Asked Value)
  | .error _ => none
  | .ok value => earlier.latest?.bind fun latest =>
      if ticket = latest.1 then some ⟨ticket, latest.2, value⟩ else none

/-- The loads that were taken over, the latest first. -/
def takenOver : LoadHistory Asked Value → List (TakenLoad Asked Value)
  | [] => []
  | .began .. :: earlier => takenOver earlier
  | .ended ticket result _ :: earlier => (taken? earlier ticket result).toList ++ takenOver earlier

/-- How many answers were reported as applied. -/
def appliedCount : LoadHistory Asked Value → Nat
  | [] => 0
  | .ended _ _ .applied :: earlier => appliedCount earlier + 1
  | .began .. :: earlier | .ended _ _ (.failed _) :: earlier | .ended _ _ .stale :: earlier =>
    appliedCount earlier

theorem latest?_map_fst (history : LoadHistory Asked Value) :
    history.latest?.map Prod.fst = history.issued.head? := by
  induction history with
  | nil => rfl
  | cons event earlier ih =>
    cases event with
    | began => rfl
    | ended => rw [latest?, issued, ih]

theorem began_mem_of_latest? {history : LoadHistory Asked Value} {ticket : Nat} {asked : Asked}
    (h : history.latest? = some (ticket, asked)) : LoadEvent.began ticket asked ∈ history := by
  induction history with
  | nil => cases h
  | cons event earlier ih =>
    cases event with
    | began =>
      rw [latest?, Option.some_inj, Prod.mk.injEq] at h
      rw [h.1, h.2]
      exact List.mem_cons_self
    | ended => exact List.mem_cons_of_mem _ (ih h)

theorem eq_some_of_taken? {earlier : LoadHistory Asked Value} {ticket : Nat}
    {result : Except ApiError Value} {taken : TakenLoad Asked Value}
    (h : earlier.taken? ticket result = some taken) :
    result = .ok taken.value ∧ ticket = taken.ticket ∧
      earlier.latest? = some (taken.ticket, taken.asked) := by
  cases result with
  | error => cases h
  | ok value =>
    obtain ⟨⟨latest, asked⟩, hlatest, hsome⟩ := Option.bind_eq_some_iff.1 h
    obtain ⟨rfl, hsome⟩ := Option.ite_none_right_eq_some.1 hsome
    cases hsome
    exact ⟨rfl, rfl, hlatest⟩

/-- Whatever was taken over had been asked for under its ticket. -/
theorem began_mem_of_takenOver {history : LoadHistory Asked Value} {taken : TakenLoad Asked Value}
    (h : taken ∈ history.takenOver) : LoadEvent.began taken.ticket taken.asked ∈ history := by
  induction history with
  | nil => cases h
  | cons event earlier ih =>
    cases event with
    | began => exact List.mem_cons_of_mem _ (ih h)
    | ended ticket result outcome =>
      rw [takenOver, List.mem_append, Option.mem_toList] at h
      refine List.mem_cons_of_mem _ ?_
      rcases h with h | h
      · exact began_mem_of_latest? (eq_some_of_taken? h).2.2
      · exact ih h

/-! ## A state that agrees with a history -/

/-- A counter of tickets, a loading flag and a count of loads that agree with what was seen. -/
structure Agrees (history : LoadHistory Asked Value) (tickets : Tickets) (loading : Bool)
    (generation : Nat) : Prop where
  /-- The tickets are numbered from one, in the order they were handed out. -/
  issued_eq : history.issued = (List.range' 1 tickets.latest).reverse
  /-- Only tickets that were handed out have been answered. -/
  answered_subset : history.answered ⊆ history.issued
  /-- Something is loading while the latest ticket waits for its answer. -/
  loading_iff : loading = true ↔
    ∃ ticket, history.issued.head? = some ticket ∧ ticket ∉ history.answered
  /-- The count is that of the loads taken over. -/
  generation_eq : generation = history.takenOver.length
  /-- An answer is reported as applied when it is taken over. -/
  appliedCount_eq : history.appliedCount = history.takenOver.length

namespace Agrees

variable {history : LoadHistory Asked Value} {tickets : Tickets} {loading : Bool}
  {generation ticket : Nat}

theorem nil : Agrees ([] : LoadHistory Asked Value) {} false 0 :=
  ⟨rfl, List.Subset.refl _, by simp [issued], rfl, rfl⟩

theorem mem_issued_iff (h : Agrees history tickets loading generation) :
    ticket ∈ history.issued ↔ 1 ≤ ticket ∧ ticket ≤ tickets.latest := by
  rw [h.issued_eq, List.mem_reverse, List.mem_range'_1]
  omega

theorem length_issued (h : Agrees history tickets loading generation) :
    history.issued.length = tickets.latest := by
  rw [h.issued_eq, List.length_reverse, List.length_range']

/-- The ticket that counts is the one handed out last. -/
theorem isLatest_iff (h : Agrees history tickets loading generation)
    (hticket : ticket ∈ history.issued) :
    tickets.isLatest ticket = true ↔ history.issued.head? = some ticket := by
  have hpos : tickets.latest ≠ 0 := by have := h.mem_issued_iff.1 hticket; omega
  rw [h.issued_eq, List.head?_reverse, List.getLast?_range', if_neg hpos, Tickets.isLatest,
    beq_iff_eq, Option.some_inj]
  omega

theorem latest?_eq (h : Agrees history tickets loading generation)
    (hticket : ticket ∈ history.issued) (hlatest : tickets.isLatest ticket = true) :
    ∃ asked, history.latest? = some (ticket, asked) := by
  have hfst := (latest?_map_fst history).trans ((h.isLatest_iff hticket).1 hlatest)
  obtain ⟨⟨_, asked⟩, hsome, rfl⟩ := Option.map_eq_some_iff.1 hfst
  exact ⟨asked, hsome⟩

/-! ### What each step brings -/

/-- The answer to a superseded ticket is not taken over. -/
theorem taken?_stale (h : Agrees history tickets loading generation)
    (hticket : ticket ∈ history.issued) (hlatest : tickets.isLatest ticket = false)
    (result : Except ApiError Value) : history.taken? ticket result = none := by
  cases hbrings : history.taken? ticket result with
  | none => rfl
  | some taken =>
    obtain ⟨-, heq, hsome⟩ := eq_some_of_taken? hbrings
    have hhead := (latest?_map_fst history).symm.trans (congrArg (Option.map Prod.fst) hsome)
    rw [Option.map_some, ← heq, ← h.isLatest_iff hticket, hlatest] at hhead
    cases hhead

/-- A good answer to the latest ticket is taken over. -/
theorem taken?_applied (h : Agrees history tickets loading generation)
    (hticket : ticket ∈ history.issued) (hlatest : tickets.isLatest ticket = true)
    (value : Value) : ∃ asked, history.taken? ticket (.ok value) = some ⟨ticket, asked, value⟩ := by
  obtain ⟨asked, hsome⟩ := h.latest?_eq hticket hlatest
  exact ⟨asked, by rw [taken?, hsome, Option.bind_some, if_pos rfl]⟩

/-! ### Every step keeps the agreement -/

theorem began (h : Agrees history tickets loading generation) (asked : Asked) :
    Agrees (.began tickets.issue.1 asked :: history) tickets.issue.2 true generation where
  issued_eq := by
    rw [issued, h.issued_eq, Tickets.issue, List.range'_1_concat, List.reverse_append,
      Nat.add_comm 1]
    rfl
  answered_subset := List.Subset.trans h.answered_subset (List.subset_cons_self _ _)
  loading_iff := by
    refine ⟨fun _ => ⟨tickets.latest + 1, rfl, fun hmem => ?_⟩, fun _ => rfl⟩
    -- a ticket that was answered was handed out before, and this one was not
    have := h.mem_issued_iff.1 (h.answered_subset hmem)
    omega
  generation_eq := h.generation_eq
  appliedCount_eq := h.appliedCount_eq

theorem stale (h : Agrees history tickets loading generation) (hticket : ticket ∈ history.issued)
    (hlatest : tickets.isLatest ticket = false) (result : Except ApiError Value) :
    Agrees (.ended ticket result .stale :: history) tickets loading generation where
  issued_eq := h.issued_eq
  answered_subset := List.cons_subset.2 ⟨hticket, h.answered_subset⟩
  loading_iff := by
    -- the latest ticket is another one, so whether it was answered stays as it was
    have hother : history.issued.head? ≠ some ticket := by
      rw [ne_eq, ← h.isLatest_iff hticket, hlatest]
      exact Bool.false_ne_true
    rw [h.loading_iff, issued, answered]
    refine exists_congr fun latest => and_congr_right fun hhead => ?_
    have hne : latest ≠ ticket := fun heq => hother (heq ▸ hhead)
    rw [List.mem_cons, or_iff_right hne]
  generation_eq := by
    rw [takenOver, h.taken?_stale hticket hlatest, Option.toList_none, List.nil_append]
    exact h.generation_eq
  appliedCount_eq := by
    rw [takenOver, h.taken?_stale hticket hlatest, Option.toList_none, List.nil_append]
    exact h.appliedCount_eq

/-- Once the latest ticket is answered nothing is loading. -/
theorem not_loading (h : Agrees history tickets loading generation)
    (hticket : ticket ∈ history.issued) (hlatest : tickets.isLatest ticket = true) :
    false = true ↔ ∃ latest, history.issued.head? = some latest ∧
      latest ∉ ticket :: history.answered := by
  refine ⟨fun hfalse => absurd hfalse Bool.false_ne_true, ?_⟩
  rintro ⟨latest, hhead, hmem⟩
  rw [(h.isLatest_iff hticket).1 hlatest, Option.some_inj] at hhead
  exact absurd (hhead ▸ List.mem_cons_self) hmem

theorem failed (h : Agrees history tickets loading generation) (hticket : ticket ∈ history.issued)
    (hlatest : tickets.isLatest ticket = true) (error : ApiError) :
    Agrees (.ended ticket (.error error) (.failed error) :: history) tickets false generation where
  issued_eq := h.issued_eq
  answered_subset := List.cons_subset.2 ⟨hticket, h.answered_subset⟩
  loading_iff := h.not_loading hticket hlatest
  generation_eq := h.generation_eq
  appliedCount_eq := h.appliedCount_eq

theorem applied (h : Agrees history tickets loading generation) (hticket : ticket ∈ history.issued)
    (hlatest : tickets.isLatest ticket = true) (value : Value) :
    Agrees (.ended ticket (.ok value) .applied :: history) tickets false (generation + 1) where
  issued_eq := h.issued_eq
  answered_subset := List.cons_subset.2 ⟨hticket, h.answered_subset⟩
  loading_iff := h.not_loading hticket hlatest
  generation_eq := by
    obtain ⟨asked, hbrings⟩ := h.taken?_applied hticket hlatest value
    rw [takenOver, hbrings, Option.toList_some, List.singleton_append, List.length_cons,
      h.generation_eq]
  appliedCount_eq := by
    obtain ⟨asked, hbrings⟩ := h.taken?_applied hticket hlatest value
    rw [takenOver, hbrings, Option.toList_some, List.singleton_append, List.length_cons,
      appliedCount, h.appliedCount_eq]

end Agrees

end LoadHistory

end BillingConsole
