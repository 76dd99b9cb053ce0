import BillingConsole.View.Action
import BillingConsole.Widget.Pager

/-!
# Where the buttons of the pager lead

A button of the pager is enabled only if there is a page on its side, so the page it goes to is
computed without a wrap, at either end of the numbers a page may have.

## What is here

* `View.exists_control_of_use` — an event comes from an enabled control.
* `Pager.use_cases` — what each control of the pager is used for.
* `Pager.Leads` — the pages its buttons lead to, as exact numbers; `Pager.leads_of_use` says that
  **no other page is gone to**.
* `Pager.use_last`, `Pager.use_previous` — two of the buttons, where they can be used.
-/

set_option autoImplicit false

namespace BillingConsole

/-- An event comes from a control that is enabled. -/
theorem View.exists_control_of_use {Event : Type} {view : View Event} {action : Action}
    {result : ActionResult} {event : Event} (h : view.use action = (result, some event)) :
    result = .done ∧
      ∃ control ∈ view.controls, control.answer? action = some (true, some event) := by
  rw [use] at h
  split at h
  · next event? hget =>
    cases h
    obtain ⟨control, hcontrol, hanswer⟩ := List.mem_filterMap.1 (List.mem_of_getElem? hget)
    exact ⟨rfl, control, hcontrol, hanswer⟩
  · cases h
  · cases h

/-- A control that can be clicked is enabled when it answers, and stands for its event. -/
theorem Control.answer?_clickable {Event : Type} {key : List Char} {enabled : Bool}
    {event : Option Event} {action : Action} {answer : Bool × Option Event}
    (h : (Control.clickable key enabled event).answer? action = some answer) :
    answer = (enabled, event) := by
  cases action with
  | click name place =>
    rw [answer?] at h
    exact (Option.some_inj.1 (Option.ite_none_right_eq_some.1 h).2).symm
  | type | choose | submit => cases h

/-- A choice stands for what is chosen. -/
theorem Control.answer?_choice {Event : Type} {onChange : String → Event} {action : Action}
    {answer : Bool × Option Event}
    (h : (Control.choice onChange).answer? action = some answer) :
    ∃ text, answer = (true, some (onChange text)) := by
  cases action with
  | choose place text =>
    cases h
    exact ⟨text, rfl⟩
  | click | type | submit => cases h

namespace Pager

variable {pager : Pager} {action : Action} {result : ActionResult}

/-- What each control of the pager is used for: the choice of the page size, the two buttons that go
back and the two that go forth. -/
theorem use_cases {event : PagerEvent} (h : pager.view.use action = (result, some event)) :
    result = .done ∧
      ((∃ text, event = .chooseSize text) ∨
        (pager.enabled = true ∧ 1 < pager.page ∧
          (event = .goTo 1 ∨ event = .goTo (pager.page - 1))) ∨
        (pager.enabled = true ∧ pager.page < pager.pages ∧
          (event = .goTo (pager.page + 1) ∨ event = .goTo pager.pages))) := by
  obtain ⟨hdone, control, hcontrol, hanswer⟩ := View.exists_control_of_use h
  refine ⟨hdone, ?_⟩
  have pressed {key : List Char} {side : Bool} {page : UInt32}
      (h : (Control.clickable key (pager.enabled && side)
        (some (.goTo page))).answer? action = some (true, some event)) :
      pager.enabled = true ∧ side = true ∧ event = .goTo page := by
    obtain ⟨henabled, hevent⟩ := Prod.mk.inj (Control.answer?_clickable h)
    obtain ⟨henabled, hside⟩ := Bool.and_eq_true_iff.1 henabled.symm
    exact ⟨henabled, hside, Option.some_inj.1 hevent⟩
  rcases hcontrol with _ | ⟨_, _ | ⟨_, _ | ⟨_, _ | ⟨_, _ | ⟨_, ⟨⟩⟩⟩⟩⟩⟩
  · obtain ⟨henabled, hside, hevent⟩ := pressed hanswer
    exact .inr (.inl ⟨henabled, of_decide_eq_true hside, .inl hevent⟩)
  · obtain ⟨henabled, hside, hevent⟩ := pressed hanswer
    exact .inr (.inl ⟨henabled, of_decide_eq_true hside, .inr hevent⟩)
  · obtain ⟨henabled, hside, hevent⟩ := pressed hanswer
    exact .inr (.inr ⟨henabled, of_decide_eq_true hside, .inl hevent⟩)
  · obtain ⟨henabled, hside, hevent⟩ := pressed hanswer
    exact .inr (.inr ⟨henabled, of_decide_eq_true hside, .inr hevent⟩)
  · obtain ⟨text, heq⟩ := Control.answer?_choice hanswer
    cases heq
    exact .inl ⟨text, rfl⟩

/-- The pages the buttons lead to, as exact numbers: the first page or the one before, where there
is one before, and the one after or the last page, where there is one after. -/
def Leads (pager : Pager) (page : Nat) : Prop :=
  (1 < pager.page.toNat ∧ (page = 1 ∨ page + 1 = pager.page.toNat)) ∨
    (pager.page.toNat < pager.pages.toNat ∧
      (page = pager.page.toNat + 1 ∨ page = pager.pages.toNat))

/-- **No other page is gone to**, and none is computed with a wrap. -/
theorem leads_of_use {page : UInt32} (h : pager.view.use action = (result, some (.goTo page))) :
    pager.Leads page.toNat := by
  rcases (use_cases h).2 with ⟨_, hevent⟩ | ⟨-, hpage, hevent⟩ | ⟨-, hpage, hevent⟩
  · cases hevent
  · have hlt : 1 < pager.page.toNat := UInt32.lt_iff_toNat_lt.1 hpage
    refine .inl ⟨hlt, ?_⟩
    rcases hevent with hevent | hevent
    · cases hevent
      exact .inl rfl
    · cases hevent
      rw [UInt32.toNat_sub_of_le _ _ (UInt32.le_of_lt hpage)]
      exact .inr (Nat.sub_add_cancel (Nat.le_of_lt hlt))
  · have hlt : pager.page.toNat < pager.pages.toNat := UInt32.lt_iff_toNat_lt.1 hpage
    refine .inr ⟨hlt, ?_⟩
    rcases hevent with hevent | hevent
    · cases hevent
      have hbound := pager.pages.toNat_lt
      rw [UInt32.toNat_add, Nat.mod_eq_of_lt (by change pager.page.toNat + 1 < _; omega)]
      exact .inl rfl
    · cases hevent
      exact .inr rfl

/-- The button to the last page can be used where there is a page after. -/
theorem use_last (henabled : pager.enabled = true) (h : pager.page < pager.pages) :
    pager.view.use (.click "Last page" 0) = (.done, some (.goTo pager.pages)) := by
  have hfound : pager.view.controls.filterMap (Control.answer? (.click "Last page" 0)) =
      [(pager.enabled && hasNext pager.page pager.pages, some (.goTo pager.pages))] := rfl
  rw [View.use, hfound, henabled, hasNext, decide_eq_true h]
  rfl

/-- The button to the page before can be used where there is one. -/
theorem use_previous (henabled : pager.enabled = true) (h : 1 < pager.page) :
    pager.view.use (.click "Previous page" 0) = (.done, some (.goTo (pager.page - 1))) := by
  have hfound : pager.view.controls.filterMap (Control.answer? (.click "Previous page" 0)) =
      [(pager.enabled && hasPrevious pager.page, some (.goTo (pager.page - 1)))] := rfl
  rw [View.use, hfound, henabled, hasPrevious, decide_eq_true h]
  rfl

end Pager

end BillingConsole
