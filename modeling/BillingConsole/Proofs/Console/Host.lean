import BillingConsole.Console.Host
import Mathlib.Data.List.Basic

/-!
# What doing things leaves behind

Requests are only ever added behind those that were sent before, and an answer only marks the
request it answers.

## What is here

* `Host.sent_performAll`, `Host.halted_performAll` — what becomes of the requests, and when the
  console stops.
* `Effect.KeepsTokens`, `Host.browser_performAll` — only token effects change the browser.
* `Host.Waits` — a request waits for its answer; `Host.take_eq_waiting_iff` says which request an
  answer is for.
* `Host.Extended`, `Host.Grown` — the requests of a later moment, without and with answers between;
  `Host.extended_performAll` and `Host.grown_take` say that everything that is done leads to one.
-/

set_option autoImplicit false

namespace BillingConsole

/-! ## Effects -/

/-- The request that is sent, where one is. -/
def Effect.sent? : Effect → Option Sent
  | .send call purpose => some ⟨call, purpose, false⟩
  | .log _ | .saveToken .. | .clearTokens | .saveFile _ | .halt => none

/-- The stored tokens are left alone. -/
def Effect.KeepsTokens : Effect → Prop
  | .saveToken .. | .clearTokens => False
  | .send .. | .log _ | .saveFile _ | .halt => True

namespace Host

theorem performAll_cons (host : Host) (effect : Effect) (effects : List Effect) :
    host.performAll (effect :: effects) = (host.perform effect).performAll effects := rfl

theorem sent_perform (host : Host) (effect : Effect) :
    (host.perform effect).sent = host.sent ++ effect.sent?.toList := by
  cases effect with
  | send => rfl
  | log | saveToken | clearTokens | saveFile | halt => exact (List.append_nil _).symm

/-- New requests stand behind the others. -/
theorem sent_performAll (host : Host) (effects : List Effect) :
    (host.performAll effects).sent = host.sent ++ effects.filterMap Effect.sent? := by
  induction effects generalizing host with
  | nil => exact (List.append_nil _).symm
  | cons effect effects ih =>
    rw [performAll_cons, ih, sent_perform, List.append_assoc]
    cases effect <;> rfl

/-- The console stops only where it is told to. -/
theorem halted_performAll (host : Host) {effects : List Effect} (h : .halt ∉ effects) :
    (host.performAll effects).halted = host.halted := by
  induction effects generalizing host with
  | nil => rfl
  | cons effect effects ih =>
    rw [performAll_cons, ih _ (List.not_mem_of_not_mem_cons h)]
    cases effect with
    | halt => exact absurd List.mem_cons_self h
    | send | log | saveToken | clearTokens | saveFile => rfl

theorem browser_performAll (host : Host) {effects : List Effect}
    (h : ∀ effect ∈ effects, effect.KeepsTokens) :
    (host.performAll effects).browser = host.browser := by
  induction effects generalizing host with
  | nil => rfl
  | cons effect effects ih =>
    rw [performAll_cons, ih _ fun other hother => h other (List.mem_cons_of_mem _ hother)]
    cases effect with
    | saveToken | clearTokens => exact (h _ List.mem_cons_self).elim
    | send | log | saveFile | halt => rfl

/-! ## Answers -/

/-- An answer is for a request that was sent and still waits. -/
theorem take_eq_waiting_iff {host next : Host} {place : Nat} {purpose : Purpose} :
    host.take place = .waiting purpose next ↔
      ∃ sent, host.sent[place]? = some sent ∧ sent.answered = false ∧ purpose = sent.purpose ∧
        next = { host with sent := host.sent.set place { sent with answered := true } } := by
  rw [take]
  cases hplace : host.sent[place]? with
  | none => exact ⟨fun h => (nomatch h), fun ⟨_, h, _⟩ => (nomatch h)⟩
  | some sent =>
    cases hanswered : sent.answered with
    | true =>
      refine ⟨fun h => ?_, fun ⟨_, hsent, hfalse, _⟩ => ?_⟩
      · dsimp only at h
        rw [if_pos hanswered] at h
        cases h
      · cases hsent
        rw [hanswered] at hfalse
        cases hfalse
    | false =>
      dsimp only
      rw [if_neg (Bool.not_eq_true _ ▸ hanswered)]
      constructor
      · rintro h
        cases h
        exact ⟨sent, rfl, hanswered, rfl, rfl⟩
      · rintro ⟨_, hsent, -, rfl, rfl⟩
        cases hsent
        rfl

/-! ## Requests that wait -/

/-- The request in a place waits for its answer. -/
def Waits (host : Host) (place : Nat) (purpose : Purpose) : Prop :=
  ∃ call, host.sent[place]? = some ⟨call, purpose, false⟩

theorem take_of_waits {host : Host} {place : Nat} {purpose : Purpose}
    (h : host.Waits place purpose) : ∃ next, host.take place = .waiting purpose next := by
  obtain ⟨call, hsent⟩ := h
  exact ⟨_, take_eq_waiting_iff.2 ⟨_, hsent, rfl, rfl, rfl⟩⟩

theorem waits_of_take {host next : Host} {place : Nat} {purpose : Purpose}
    (h : host.take place = .waiting purpose next) : host.Waits place purpose := by
  obtain ⟨⟨call, _, _⟩, hplace, rfl, rfl, -⟩ := take_eq_waiting_iff.1 h
  exact ⟨call, hplace⟩

/-- Nothing but the requests changes with an answer. -/
theorem take_eq {host next : Host} {place : Nat} {purpose : Purpose}
    (h : host.take place = .waiting purpose next) : next = { host with sent := next.sent } := by
  obtain ⟨_, -, -, -, rfl⟩ := take_eq_waiting_iff.1 h
  rfl

/-- What another request waits for is left alone. -/
theorem Waits.take {host next : Host} {place other : Nat} {purpose waited : Purpose}
    (waits : host.Waits other waited) (h : host.take place = .waiting purpose next)
    (hne : place ≠ other) : next.Waits other waited := by
  obtain ⟨call, hsent⟩ := waits
  obtain ⟨_, -, -, -, rfl⟩ := take_eq_waiting_iff.1 h
  refine ⟨call, ?_⟩
  rw [List.getElem?_set_ne hne]
  exact hsent

theorem Waits.lt_length {host : Host} {place : Nat} {purpose : Purpose}
    (waits : host.Waits place purpose) : place < host.sent.length := by
  obtain ⟨_, hsent⟩ := waits
  exact (List.getElem?_eq_some_iff.1 hsent).1

/-- Two requests in one place wait for the same. -/
theorem Waits.purpose_eq {host : Host} {place : Nat} {purpose other : Purpose}
    (waits : host.Waits place purpose) (waits' : host.Waits place other) : purpose = other := by
  obtain ⟨call, hsent⟩ := waits
  obtain ⟨call', hsent'⟩ := waits'
  rw [hsent, Option.some_inj] at hsent'
  cases hsent'
  rfl

theorem waits_send (host : Host) (call : Call) (purpose : Purpose) :
    (host.performAll [.send call purpose]).Waits host.sent.length purpose :=
  ⟨call, List.getElem?_concat_length⟩

/-! ## Later moments -/

/-- Requests were only added behind the others. -/
def Extended (earlier later : Host) : Prop := ∃ more, later.sent = earlier.sent ++ more

theorem Extended.refl (host : Host) : Extended host host := ⟨[], (List.append_nil _).symm⟩

theorem Extended.trans {first second third : Host} (h : Extended first second)
    (h' : Extended second third) : Extended first third := by
  obtain ⟨more, hsecond⟩ := h
  obtain ⟨further, hthird⟩ := h'
  exact ⟨more ++ further, by rw [hthird, hsecond, List.append_assoc]⟩

theorem extended_performAll (host : Host) (effects : List Effect) :
    Extended host (host.performAll effects) := ⟨_, sent_performAll host effects⟩

theorem Extended.getElem? {earlier later : Host} (h : Extended earlier later) {place : Nat}
    {sent : Sent} (hsent : earlier.sent[place]? = some sent) :
    later.sent[place]? = some sent := by
  obtain ⟨more, hlater⟩ := h
  rw [hlater, List.getElem?_append_left (List.getElem?_eq_some_iff.1 hsent).1]
  exact hsent

/-- A request that waits goes on waiting. -/
theorem Extended.waits {earlier later : Host} (h : Extended earlier later) {place : Nat}
    {purpose : Purpose} (waits : earlier.Waits place purpose) : later.Waits place purpose := by
  obtain ⟨call, hsent⟩ := waits
  exact ⟨call, h.getElem? hsent⟩

/-- The requests of an earlier moment are still in their places, and what was answered stays so. -/
def Grown (earlier later : Host) : Prop :=
  ∀ (place : Nat) (sent : Sent), earlier.sent[place]? = some sent →
    ∃ answered, later.sent[place]? = some { sent with answered } ∧
      (sent.answered = true → answered = true)

theorem Grown.refl (host : Host) : Grown host host := fun _ sent h => ⟨sent.answered, h, id⟩

theorem Grown.trans {first second third : Host} (h : Grown first second) (h' : Grown second third) :
    Grown first third := by
  intro place sent hsent
  obtain ⟨answered, hsecond, hkept⟩ := h place sent hsent
  obtain ⟨answered', hthird, hkept'⟩ := h' place _ hsecond
  exact ⟨answered', hthird, hkept' ∘ hkept⟩

theorem Extended.grown {earlier later : Host} (h : Extended earlier later) : Grown earlier later :=
  fun _ sent hsent => ⟨sent.answered, h.getElem? hsent, id⟩

/-- An answer marks its request. -/
theorem grown_take {host next : Host} {place : Nat} {purpose : Purpose}
    (h : host.take place = .waiting purpose next) : Grown host next := by
  obtain ⟨sent, hplace, -, -, rfl⟩ := take_eq_waiting_iff.1 h
  intro other old hold
  by_cases heq : place = other
  · subst heq
    rw [hplace, Option.some_inj] at hold
    subst hold
    refine ⟨true, ?_, fun _ => rfl⟩
    exact List.getElem?_set_self (List.getElem?_eq_some_iff.1 hplace).1
  · refine ⟨old.answered, ?_, id⟩
    rw [List.getElem?_set_ne heq]
    exact hold

/-- A request that waits has waited since it was sent. -/
theorem Grown.waits {earlier later : Host} (h : Grown earlier later) {place : Nat}
    {purpose : Purpose} (hplace : place < earlier.sent.length) (waits : later.Waits place purpose) :
    earlier.Waits place purpose := by
  obtain ⟨call, hlater⟩ := waits
  obtain ⟨answered, hsent, hkept⟩ := h place _ (List.getElem?_eq_getElem hplace)
  rw [hlater, Option.some_inj, Sent.mk.injEq] at hsent
  obtain ⟨hcall, hpurpose, rfl⟩ := hsent
  have hwaits : earlier.sent[place].answered = false :=
    Bool.eq_false_iff.2 fun h => (nomatch hkept h)
  refine ⟨call, ?_⟩
  rw [List.getElem?_eq_getElem hplace, hcall, hpurpose, ← hwaits]

end Host

end BillingConsole
