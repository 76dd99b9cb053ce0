import BillingConsole.Proofs.Console.Turn
import Mathlib.Data.List.Nodup
import Mathlib.Data.Set.Basic

/-!
# Runs on record

Who is signed in and what is shown comes from answers of the gateway.  This file keeps a run
together with its answers, in the order in which they came: what is said of an answer on record is
said of this very run, and not of another one that leads to the same console.

## What is here

* `Answer` — a request that was answered, and what came back.
* `Console.RecordedStep`, `Console.Recorded` — a step with the answer it brings, and a run with all
  of its answers.
* `Console.sharedReaches_iff`, `Console.freelyReaches_iff` — every run has its record.
* `Console.Recorded.sent_of_mem` — an answer on record is to the request in its place.
* `Console.Recorded.nodup_places` — **a request is answered once.**
-/

set_option autoImplicit false

namespace BillingConsole

/-- A request that was answered, and what came back. -/
structure Answer where
  /-- How many requests were sent before it. -/
  place : Nat
  call : Call
  reply : Reply
deriving DecidableEq

namespace Console

/-- What may happen to a console that has not stopped, with the answer that it brings if a request
waits for one.  The browser may change at any moment, and so may the session, to one of those that
may come from outside. -/
inductive RecordedStep (outside : Set Session) (console : Console) : Option Answer → Console → Prop
  | used (live : console.host.halted = false) (action : Action) :
      RecordedStep outside console none (console.use action).2
  | answered (live : console.host.halted = false) (place : Nat) {call : Call} {purpose : Purpose}
      (waits : console.host.sent[place]? = some ⟨call, purpose, false⟩) (reply : Reply) :
      RecordedStep outside console (some ⟨place, call, reply⟩) (console.answer place reply).2
  | browserChanged (live : console.host.halted = false) (browser : Browser) :
      RecordedStep outside console none (stage.setBrowser console browser)
  | sessionChanged (live : console.host.halted = false) {session : Session}
      (allowed : session ∈ outside) : RecordedStep outside console none (console.setSession session)

/-- A run from the opening of the console, with its answers in the order in which they came. -/
inductive Recorded (outside : Set Session) (browser : Browser) : List Answer → Console → Prop
  | opened : Recorded outside browser [] (start browser)
  | tail {answers : List Answer} {answer? : Option Answer} {console next : Console}
      (run : Recorded outside browser answers console)
      (step : RecordedStep outside console answer? next) :
      Recorded outside browser (answers ++ answer?.toList) next

variable {outside : Set Session} {browser : Browser} {answers : List Answer}
  {answer? : Option Answer} {console next : Console}

/-! ## Every run has its record -/

theorem RecordedStep.freeStep (step : RecordedStep outside console answer? next) :
    FreeStep console next := by
  cases step with
  | used live action => exact .step (.step (.used live action))
  | answered live place _ reply => exact .step (.step (.answered live place reply))
  | browserChanged live browser => exact .step (.browserChanged live browser)
  | sessionChanged live => exact .sessionChanged live _

theorem Recorded.freelyReaches (run : Recorded outside browser answers console) :
    FreelyReaches (start browser) console := by
  induction run with
  | opened => exact .refl
  | tail _ step ih => exact ih.tail step.freeStep

theorem RecordedStep.sharedStep (step : RecordedStep ∅ console answer? next) :
    SharedStep console next := by
  cases step with
  | used live action => exact .step (.used live action)
  | answered live place _ reply => exact .step (.answered live place reply)
  | browserChanged live browser => exact .browserChanged live browser
  | sessionChanged _ allowed => cases allowed

/-- An answer that no request waits for changes nothing, and is not put on record. -/
theorem Recorded.exists_of_sharedStep (run : Recorded outside browser answers console)
    (step : SharedStep console next) : ∃ later, Recorded outside browser later next := by
  cases step with
  | step step =>
    cases step with
    | used live action => exact ⟨_, run.tail (.used live action)⟩
    | answered live place reply =>
      rcases answer_cases console place reply with ⟨heq, -⟩ | ⟨purpose, host, htake, -⟩
      · exact ⟨answers, heq.symm ▸ run⟩
      · obtain ⟨call, waits⟩ := Host.waits_of_take htake
        exact ⟨_, run.tail (.answered live place waits reply)⟩
    | ticked live clock => exact ⟨_, run.tail (.browserChanged live _)⟩
  | browserChanged live browser => exact ⟨_, run.tail (.browserChanged live browser)⟩

/-- The runs in a shared browser are those on record in which no session comes from outside. -/
theorem sharedReaches_iff :
    SharedReaches (start browser) console ↔ ∃ answers, Recorded ∅ browser answers console := by
  constructor
  · intro reaches
    induction reaches with
    | refl => exact ⟨[], .opened⟩
    | tail _ step ih =>
      obtain ⟨answers, run⟩ := ih
      exact run.exists_of_sharedStep step
  · rintro ⟨answers, run⟩
    induction run with
    | opened => exact .refl
    | tail _ step ih => exact ih.tail step.sharedStep

/-- The runs with any change of the session are those on record in which every session may come from
outside. -/
theorem freelyReaches_iff : FreelyReaches (start browser) console ↔
    ∃ answers, Recorded Set.univ browser answers console := by
  refine ⟨fun reaches => ?_, fun ⟨_, run⟩ => run.freelyReaches⟩
  induction reaches with
  | refl => exact ⟨[], .opened⟩
  | tail _ step ih =>
    obtain ⟨answers, run⟩ := ih
    cases step with
    | step step => exact run.exists_of_sharedStep step
    | sessionChanged live session => exact ⟨_, run.tail (.sessionChanged live trivial)⟩

/-! ## Answers and their requests -/

/-- The request that an answer is put on record for has waited, and waits no more. -/
theorem RecordedStep.sent_eq {answer : Answer}
    (step : RecordedStep outside console (some answer) next) :
    ∃ purpose, console.host.sent[answer.place]? = some ⟨answer.call, purpose, false⟩ ∧
      next.host.sent[answer.place]? = some ⟨answer.call, purpose, true⟩ := by
  cases step with
  | @answered _ place call purpose waits reply =>
    refine ⟨purpose, waits, ?_⟩
    obtain ⟨host, htake, heq⟩ := answer_of_waits ⟨call, waits⟩ reply
    obtain ⟨sent, hsent, -, -, rfl⟩ := Host.take_eq_waiting_iff.1 htake
    cases waits.symm.trans hsent
    rw [heq]
    refine (extended_receive _ purpose reply).getElem? ?_
    exact List.getElem?_set_self (List.getElem?_eq_some_iff.1 waits).1

/-- **An answer on record is to the request in its place**, which has been answered. -/
theorem Recorded.sent_of_mem (run : Recorded outside browser answers console) {answer : Answer}
    (given : answer ∈ answers) :
    ∃ purpose, console.host.sent[answer.place]? = some ⟨answer.call, purpose, true⟩ := by
  induction run with
  | opened => cases given
  | tail _ step ih =>
    rcases List.mem_append.1 given with earlier | now
    · obtain ⟨purpose, hsent⟩ := ih earlier
      obtain ⟨answered, hlater, hkept⟩ := grown_of_freeStep step.freeStep _ _ hsent
      exact ⟨purpose, hkept rfl ▸ hlater⟩
    · rw [Option.mem_toList] at now
      cases now
      obtain ⟨purpose, -, hsent⟩ := step.sent_eq
      exact ⟨purpose, hsent⟩

/-- A request with an answer on record does not wait. -/
theorem Recorded.not_waits (run : Recorded outside browser answers console) {answer : Answer}
    (given : answer ∈ answers) (purpose : Purpose) :
    ¬console.host.Waits answer.place purpose := by
  rintro ⟨call, waits⟩
  obtain ⟨_, hsent⟩ := run.sent_of_mem given
  cases waits.symm.trans hsent

/-- **A request is answered once**: the answers on record are to requests in different places. -/
theorem Recorded.nodup_places (run : Recorded outside browser answers console) :
    (answers.map Answer.place).Nodup := by
  induction run with
  | opened => exact List.nodup_nil
  | @tail _ answer? _ _ run step ih =>
    cases answer? with
    | none =>
      rw [Option.toList_none, List.append_nil]
      exact ih
    | some answer =>
      obtain ⟨purpose, waits, -⟩ := step.sent_eq
      rw [Option.toList_some, List.map_append, List.map_singleton, ← List.concat_eq_append,
        List.nodup_concat]
      -- the request of the new answer has waited until now, and those on record have not
      refine ⟨fun hmem => ?_, ih⟩
      obtain ⟨earlier, given, hplace⟩ := List.mem_map.1 hmem
      exact run.not_waits given purpose ⟨answer.call, hplace ▸ waits⟩

end Console

end BillingConsole
