/-!
# Tickets for requests that overtake each other

Every load takes a ticket when its request is sent.  Its answer counts only while no later ticket
has been issued, so the latest request wins whatever the order of the answers.

## What is here

* `Tickets` — the counter; `Tickets.issue` and `Tickets.isLatest`.
-/

set_option autoImplicit false

namespace BillingConsole

/-- The tickets issued so far; they are numbered from one. -/
structure Tickets where
  /-- A number without bound in place of one of 64 bits: this is the counter of a program that
  issues fewer than `2 ^ 64` tickets. -/
  latest : Nat := 0
deriving DecidableEq, Inhabited

namespace Tickets

/-- The next ticket, and the counter that knows of it. -/
def issue (tickets : Tickets) : Nat × Tickets :=
  (tickets.latest + 1, ⟨tickets.latest + 1⟩)

/-- Whether no later ticket than this one has been issued. -/
def isLatest (tickets : Tickets) (ticket : Nat) : Bool := ticket == tickets.latest

theorem isLatest_issue (tickets : Tickets) (ticket : Nat) :
    tickets.issue.2.isLatest ticket = true ↔ ticket = tickets.issue.1 := by
  simp [issue, isLatest]

end Tickets

end BillingConsole
