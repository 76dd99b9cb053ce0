import BillingConsole.Screen.Billing

/-!
# What an answer does on the billing page

## What is here

* `BillingPage.eq_log_of_mem_receive` — an answer is taken over or dropped, and logged; nothing else
  is done for it.
-/

set_option autoImplicit false

namespace BillingConsole

theorem CustomerList.eq_log_of_mem_receive {list : CustomerList} {ticket : Nat} {reply : Reply}
    {time : String} {effect : Effect} (h : effect ∈ (list.receive ticket reply time).2) :
    ∃ entry, effect = .log entry := by
  rw [receive] at h
  cases hfinish : list.finishLoad ticket reply.customers time with
  | mk outcome next =>
    rw [hfinish] at h
    cases outcome <;> exact ⟨_, List.mem_singleton.1 h⟩

theorem SpendScreen.eq_log_of_mem_receive {screen : SpendScreen} {ticket : Nat} {reply : Reply}
    {effect : Effect} (h : effect ∈ (screen.receive ticket reply).2) :
    ∃ entry, effect = .log entry := by
  rw [receive] at h
  cases hfinish : screen.panel.finishLoad ticket reply.report with
  | mk outcome next =>
    rw [hfinish] at h
    cases outcome <;> exact ⟨_, List.mem_singleton.1 h⟩

theorem DetailDialog.eq_log_of_mem_receive {dialog : DetailDialog} {ticket : Nat} {id : String}
    {reply : Reply} {effect : Effect} (h : effect ∈ (dialog.receive ticket id reply).2) :
    ∃ entry, effect = .log entry := by
  rw [receive] at h
  split at h
  · cases hreply : reply.detail with
    | ok detail => rw [hreply] at h; cases h
    | error error => rw [hreply] at h; exact ⟨_, List.mem_singleton.1 h⟩
  · cases h

/-- Nothing is done for an answer but to log what became of it. -/
theorem BillingPage.eq_log_of_mem_receive {page : BillingPage} {clock : Clock} {purpose : Purpose}
    {reply : Reply} {effect : Effect} (h : effect ∈ (page.receive clock purpose reply).2) :
    ∃ entry, effect = .log entry := by
  cases purpose with
  | customers => exact CustomerList.eq_log_of_mem_receive h
  | report => exact SpendScreen.eq_log_of_mem_receive h
  | detail => exact DetailDialog.eq_log_of_mem_receive h
  | restore | signIn | signOut => cases h

end BillingConsole
