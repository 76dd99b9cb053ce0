import BillingConsole.Proofs.Console.Page
import BillingConsole.Proofs.Screen.Detail

/-!
# The dialog shows the customer it is open for

Requests for several customers may be on their way at once, and their answers may come while the
dialog is closed, or open for someone else, or after the session has changed.

## What is here

* `Host.LatestDetail` — the latest request for the spending of a single customer.
* `Console.Waited` — whether it waits, or what the answer on record tells.
* `Console.DialogFits` — the invariant, and `Console.DialogFits.step`, that every step keeps it.
* `Console.dialog_current` — **an open dialog shows what became of the latest request, for the
  customer in its title.**
-/

set_option autoImplicit false

namespace BillingConsole

/-! ## Requests and their answers -/

/-- The request in a place asks for the spending of a single customer, and no later one does so. -/
structure Host.LatestDetail (host : Host) (place : Nat) (token id : String) : Prop where
  asked : ∃ purpose, host.asked[place]? = some (.detail token id, purpose)
  latest : ∀ later call purpose, place < later → host.asked[later]? = some (call, purpose) →
    call.isDetail = false

theorem Host.asked_of_waits {host : Host} {place : Nat} {purpose : Purpose}
    (waits : host.Waits place purpose) : ∃ call, host.asked[place]? = some (call, purpose) := by
  obtain ⟨call, hsent⟩ := waits
  exact ⟨call, Host.asked_of_sent hsent⟩

namespace Console

/-- What there is to show of the request in a place: that it waits, or what its answer among the
answers of the run tells. -/
inductive Waited (answers : List Answer) (console : Console) (place : Nat) (purpose : Purpose) :
    DetailContent → Prop
  | waits (waits : console.host.Waits place purpose) : Waited answers console place purpose .waiting
  | answered {answer : Answer} {content : DetailContent} (given : answer ∈ answers)
      (place_eq : answer.place = place) (tells : answer.reply.Tells content) :
      Waited answers console place purpose content

/-- Where the request still waits, that is what there is to show. -/
theorem Waited.eq_waiting {outside : Set Session} {browser : Browser} {answers : List Answer}
    {console : Console} {place : Nat} {purpose waited : Purpose} {content : DetailContent}
    (h : Waited answers console place purpose content)
    (run : Recorded outside browser answers console) (waits : console.host.Waits place waited) :
    content = .waiting := by
  cases h with
  | waits => rfl
  | answered given place_eq => exact absurd (place_eq ▸ waits) (run.not_waits given waited)

/-! ## The dialog and its requests -/

/-- The dialog of a page shows what became of the request in a place. -/
structure DialogShows (answers : List Answer) (console : Console) (page : BillingPage) (place : Nat)
    (token id : String) (content : DetailContent) : Prop where
  dialog_eq : page.spend.dialog = .showing id page.spend.dialog.tickets content
  asked : console.host.asked[place]? =
    some (.detail token id, .detail page.id page.spend.dialog.tickets.latest id)
  latest : ∀ later call purpose, place < later →
    console.host.asked[later]? = some (call, purpose) → call.isDetail = false
  /-- Only that request has the ticket whose answer will be taken over. -/
  only : ∀ other call waited,
    console.host.asked[other]? =
      some (call, .detail page.id page.spend.dialog.tickets.latest waited) → other = place
  waited : Waited answers console place (.detail page.id page.spend.dialog.tickets.latest id)
    content

/-- The dialog of a page fits what was asked for. -/
structure DialogFits (answers : List Answer) (console : Console) (page : BillingPage) : Prop where
  /-- It has handed out every ticket under which something was asked for on its behalf. -/
  issued : ∀ call ticket id, (call, Purpose.detail page.id ticket id) ∈ console.host.asked →
    ticket ≤ page.spend.dialog.tickets.latest
  shows : page.spend.dialog.isOpen = true →
    ∃ place token id content, DialogShows answers console page place token id content

section

variable {outside : Set Session} {browser : Browser} {answers further : List Answer}
  {answer : Answer} {answer? : Option Answer} {console next : Console} {page after : BillingPage}
  {effects : List Effect}

theorem noDetail_of_asksAboutSession (asks : AsksAboutSession effects) : NoDetail effects := by
  intro call purpose hmem
  cases asks call purpose hmem <;> exact ⟨rfl, rfl⟩

/-- A dialog that stays as it is, or is closed, goes on fitting what was asked for. -/
theorem DialogFits.rests (fits : DialogFits answers console page) (grows : answers ⊆ further)
    (id_eq : after.id = page.id)
    (tickets_eq : after.spend.dialog.tickets = page.spend.dialog.tickets)
    (kept : after.spend.dialog.isOpen = true → after.spend.dialog = page.spend.dialog)
    (silent : NoDetail effects)
    (asked_eq : next.host.asked = console.host.asked ++ Host.asks effects)
    (waits : ∀ place id,
      console.host.Waits place (.detail page.id page.spend.dialog.tickets.latest id) →
        next.host.Waits place (.detail page.id page.spend.dialog.tickets.latest id)) :
    DialogFits further next after := by
  have hnew {place : Nat} {call : Call} {purpose : Purpose}
      (hle : console.host.asked.length ≤ place)
      (hasked : next.host.asked[place]? = some (call, purpose)) :
      call.isDetail = false ∧ purpose.isDetail = false := by
    rw [asked_eq, List.getElem?_append_right hle] at hasked
    exact silent call purpose (Host.mem_asks.1 (List.mem_of_getElem? hasked))
  have hold {place : Nat} (hlt : place < console.host.asked.length) :
      next.host.asked[place]? = console.host.asked[place]? := by
    rw [asked_eq, List.getElem?_append_left hlt]
  refine ⟨fun call ticket id hmem => ?_, fun hopen => ?_⟩
  · rw [tickets_eq]
    rw [asked_eq, List.mem_append, id_eq] at hmem
    rcases hmem with hmem | hmem
    · exact fits.issued call ticket id hmem
    · exact absurd (silent _ _ (Host.mem_asks.1 hmem)).2 (by simp [Purpose.isDetail])
  · have hdialog := kept hopen
    obtain ⟨place, token, id, content, shows⟩ := fits.shows (hdialog ▸ hopen)
    have hlt : place < console.host.asked.length := (List.getElem?_eq_some_iff.1 shows.asked).1
    refine ⟨place, token, id, content, ?_, ?_, fun later call purpose hlater hasked => ?_,
      fun other call waited hasked => ?_, ?_⟩
    · rw [hdialog]
      exact shows.dialog_eq
    · rw [hold hlt, hdialog, id_eq]
      exact shows.asked
    · by_cases hplace : later < console.host.asked.length
      · exact shows.latest later call purpose hlater (hold hplace ▸ hasked)
      · exact (hnew (Nat.le_of_not_lt hplace) hasked).1
    · rw [hdialog, id_eq] at hasked
      by_cases hplace : other < console.host.asked.length
      · exact shows.only other call waited (hold hplace ▸ hasked)
      · exact absurd (hnew (Nat.le_of_not_lt hplace) hasked).2 (by simp [Purpose.isDetail])
    · rw [hdialog, id_eq]
      cases shows.waited with
      | waits waiting => exact .waits (waits place id waiting)
      | answered given place_eq tells => exact .answered (grows given) place_eq tells

/-- A dialog that asks for a customer waits for the answer, and its request is the latest. -/
theorem DialogFits.asks (fits : DialogFits answers console page) (id_eq : after.id = page.id)
    {token id : String} {others : List Effect} (silent : NoDetail others)
    (next_eq : after.spend.dialog =
      .showing id page.spend.dialog.tickets.issue.2 .waiting)
    (goesOn : Host.GoesOn after.id console.host next.host (others ++
      [.send (.detail token id) (.detail page.id page.spend.dialog.tickets.issue.1 id)])) :
    DialogFits further next after := by
  have hlatest : after.spend.dialog.tickets.latest = page.spend.dialog.tickets.latest + 1 := by
    rw [next_eq]
    rfl
  have hasked : next.host.asked = (console.host.asked ++ Host.asks others) ++
      [(.detail token id, .detail page.id (page.spend.dialog.tickets.latest + 1) id)] := by
    rw [goesOn.asked_eq, Host.asks_append, ← List.append_assoc]
    rfl
  -- nothing was asked for under the new ticket before
  have hunused {call : Call} {ticket : Nat} {waited : String}
      (hmem : (call, Purpose.detail page.id ticket waited) ∈
        console.host.asked ++ Host.asks others) : ticket ≤ page.spend.dialog.tickets.latest := by
    rcases List.mem_append.1 hmem with hmem | hmem
    · exact fits.issued call ticket waited hmem
    · exact absurd (silent _ _ (Host.mem_asks.1 hmem)).2 (by simp [Purpose.isDetail])
  refine ⟨fun call ticket waited hmem => ?_, fun _ => ?_⟩
  · rw [hlatest]
    rw [hasked, id_eq] at hmem
    rcases List.mem_append.1 hmem with hmem | hmem
    · exact Nat.le_succ_of_le (hunused hmem)
    · cases List.mem_singleton.1 hmem
      exact le_rfl
  · have hplace : next.host.asked[(console.host.asked ++ Host.asks others).length]? =
        some (.detail token id, .detail page.id (page.spend.dialog.tickets.latest + 1) id) := by
      rw [hasked]
      exact List.getElem?_concat_length
    refine ⟨(console.host.asked ++ Host.asks others).length, token, id, .waiting, ?_, ?_,
      fun later call purpose hlater hcall => ?_, fun other call waited hother => ?_, .waits ?_⟩
    · rw [next_eq]
      rfl
    · rw [hlatest, id_eq]
      exact hplace
    · have hlt := (List.getElem?_eq_some_iff.1 hcall).1
      rw [hasked, List.length_append, List.length_singleton] at hlt
      omega
    · rw [hlatest, id_eq] at hother
      by_contra hne
      have hlt := (List.getElem?_eq_some_iff.1 hother).1
      rw [hasked, List.length_append, List.length_singleton] at hlt
      rw [hasked, List.getElem?_append_left (by omega)] at hother
      exact absurd (hunused (List.mem_of_getElem? hother)) (by omega)
    · rw [hlatest, id_eq]
      refine goesOn.fresh _ _ _ (congrArg some id_eq.symm) ?_ hplace
      rw [List.length_append]
      exact Nat.le_add_right _ _

/-- Whatever becomes of a dialog on its page, it goes on fitting what was asked for. -/
theorem DialogFits.turn (fits : DialogFits answers console page) (grows : answers ⊆ further)
    (id_eq : after.id = page.id)
    (turn : DialogTurn page.id page.spend.dialog after.spend.dialog effects)
    (goesOn : Host.GoesOn after.id console.host next.host effects) :
    DialogFits further next after := by
  cases turn with
  | rests tickets_eq kept silent =>
    refine fits.rests grows id_eq tickets_eq kept silent goesOn.asked_eq fun place id waits => ?_
    exact goesOn.waits place _ (congrArg some id_eq.symm) waits
  | asks silent next_eq effects_eq => exact fits.asks id_eq silent next_eq (effects_eq ▸ goesOn)

/-- A page that has just been opened has a closed dialog and a number of its own. -/
theorem dialogFits_open (holds : console.TicketsHold) {session : Session} {clock : Clock}
    {opened : BillingPage × List Effect}
    (opens : BillingPage.open? console.opened session clock = some opened)
    (silent : NoDetail effects)
    (goesOn : Host.GoesOn opened.1.id console.host next.host (effects ++ opened.2)) :
    DialogFits further next opened.1 := by
  obtain ⟨hclosed, hsilent⟩ := BillingPage.dialog_open opens
  obtain ⟨page, hid, asks⟩ := BillingPage.asks_open opens
  refine ⟨fun call ticket id hmem => ?_, fun hopen => ?_⟩
  · rw [goesOn.asked_eq, List.mem_append] at hmem
    rcases hmem with hmem | hmem
    · have hlt := (holds.tracks call _ hmem).page_lt opened.1.id rfl
      rw [asks.later.id_eq, hid] at hlt
      exact absurd hlt (Nat.lt_irrefl _)
    · have hdetail := ((silent.append hsilent) _ _ (Host.mem_asks.1 hmem)).2
      exact absurd hdetail (by simp [Purpose.isDetail])
  · rw [hclosed] at hopen
    cases hopen

/-- An open dialog that waits shows the answer to its request. -/
theorem DialogShows.answered {token customer : String}
    (shows : DialogShows answers console page answer.place token customer .waiting)
    (asked_eq : next.host.asked = console.host.asked) (id : String) (clock : Clock) :
    DialogShows (answers ++ [answer]) next
      (page.receive clock (.detail page.id page.spend.dialog.tickets.latest id) answer.reply).1
      answer.place token customer (.ofReply answer.reply) := by
  have hdialog :
      (page.spend.dialog.receive page.spend.dialog.tickets.latest id answer.reply).1 =
        .showing customer page.spend.dialog.tickets (.ofReply answer.reply) :=
    calc (page.spend.dialog.receive page.spend.dialog.tickets.latest id answer.reply).1
        = ((DetailDialog.showing customer page.spend.dialog.tickets .waiting).receive
            page.spend.dialog.tickets.latest id answer.reply).1 :=
          congrArg (fun dialog =>
            (dialog.receive page.spend.dialog.tickets.latest id answer.reply).1) shows.dialog_eq
      _ = .showing customer page.spend.dialog.tickets (.ofReply answer.reply) :=
          DetailDialog.receive_showing customer page.spend.dialog.tickets id answer.reply
  have hafter : (page.receive clock (.detail page.id page.spend.dialog.tickets.latest id)
      answer.reply).1.spend.dialog.tickets = page.spend.dialog.tickets :=
    (page.spend.dialog.receive_keeps _ id answer.reply).2
  refine ⟨?_, ?_, fun later call purpose => ?_, fun other call waited => ?_, ?_⟩
  · rw [hafter]
    exact hdialog
  · rw [asked_eq, hafter]
    exact shows.asked
  · rw [asked_eq]
    exact shows.latest later call purpose
  · rw [asked_eq, hafter]
    exact shows.only other call waited
  · exact .answered (List.mem_append_right _ List.mem_cons_self) rfl answer.reply.tells_ofReply

/-- The answer that an open dialog waits for is shown from then on; any other leaves it alone. -/
theorem DialogFits.received (fits : DialogFits answers console page)
    (run : Recorded outside browser answers console) {host : Host} {purpose : Purpose}
    {clock : Clock} (hpage : purpose.page? = some page.id)
    (takes : console.host.take answer.place = .waiting purpose host)
    (goesOn : Host.GoesOn page.id host next.host []) :
    DialogFits (answers ++ [answer]) next (page.receive clock purpose answer.reply).1 := by
  have grows : answers ⊆ answers ++ [answer] := List.subset_append_left _ _
  have hasked : next.host.asked = console.host.asked := by
    rw [goesOn.asked_eq, Host.asked_take takes]
    exact List.append_nil _
  have hnothing : next.host.asked = console.host.asked ++ Host.asks [] :=
    hasked.trans (List.append_nil _).symm
  have waiting := Host.waits_of_take takes
  -- an answer for something else leaves the request alone that the dialog waits for
  have hother {ticket : Nat} (hne : ∀ id, purpose ≠ .detail page.id ticket id) (other : Nat)
      (id : String) (waits : console.host.Waits other (.detail page.id ticket id)) :
      next.host.Waits other (.detail page.id ticket id) := by
    refine goesOn.waits other _ rfl (waits.take takes ?_)
    rintro rfl
    exact hne id (waiting.purpose_eq waits)
  cases purpose with
  | customers | report =>
    exact fits.rests grows rfl rfl (fun _ => rfl) noDetail_nil hnothing
      (hother fun id hid => nomatch hid)
  | detail number ticket id =>
    obtain rfl : number = page.id := Option.some.inj hpage
    by_cases hlatest : ticket = page.spend.dialog.tickets.latest
    · obtain ⟨hopen_eq, htickets⟩ := page.spend.dialog.receive_keeps ticket id answer.reply
      refine ⟨fun call other waited hmem => ?_, fun hopen => ?_⟩
      · rw [hasked] at hmem
        exact Nat.le_trans (fits.issued call other waited hmem)
          (Nat.le_of_eq (congrArg Tickets.latest htickets).symm)
      · obtain ⟨shown, token, customer, content, shows⟩ := fits.shows (hopen_eq ▸ hopen)
        subst hlatest
        obtain ⟨call, hcall⟩ := Host.asked_of_waits waiting
        obtain rfl := shows.only answer.place call id hcall
        obtain rfl := shows.waited.eq_waiting run waiting
        exact ⟨answer.place, token, customer, .ofReply answer.reply,
          shows.answered hasked id clock⟩
    · have hkept := DetailDialog.receive_of_ne hlatest id answer.reply
      refine fits.rests grows rfl (congrArg DetailDialog.tickets hkept) (fun _ => hkept)
        noDetail_nil hnothing (hother fun waited hid => ?_)
      cases hid
      exact hlatest rfl
  | restore | signIn | signOut => cases hpage

/-- Every step keeps it. -/
theorem DialogFits.step (fits : ∀ page, console.screen = .billing page →
      DialogFits answers console page)
    (run : Recorded outside browser answers console)
    (step : RecordedStep outside console answer? next) (shown : next.screen = .billing after) :
    DialogFits (answers ++ answer?.toList) next after := by
  have grows : answers ⊆ answers ++ answer?.toList := List.subset_append_left _ _
  have admin {page : BillingPage} (hpage : console.screen = .billing page) :
      console.session.adminToken ≠ none := by
    cases screenFits_of_reaches run.freelyReaches with
    | billing _ _ opened => exact opened
    | denied other | signIn _ other | stopped other => cases hpage.symm.trans other
  cases pageMove_of_step step shown with
  | stayed hpage asks goesOn =>
    exact (fits after hpage).turn grows rfl
      (.refl after.id _ (noDetail_of_asksAboutSession asks)) goesOn
  | @used page hpage browser event after_eq goesOn =>
    subst after_eq
    exact (fits page hpage).turn grows (page.asks_update browser console.session event).later.id_eq
      (page.dialogTurn_update browser (admin hpage) event) goesOn
  | @changed _ page effects hpage asks admin after_eq goesOn =>
    subst after_eq
    have turn := page.dialogTurn_sessionChanged console.session admin fun hopen => by
      obtain ⟨place, token, id, content, shows⟩ := (fits page hpage).shows hopen
      exact ⟨id, content, shows.dialog_eq⟩
    exact (fits page hpage).turn grows
      (page.asks_sessionChanged console.session next.session).later.id_eq
      (turn.after (noDetail_of_asksAboutSession asks)) goesOn
  | opened asks opens after_eq goesOn =>
    subst after_eq
    exact dialogFits_open (ticketsHold_of_reaches run.freelyReaches) opens
      (noDetail_of_asksAboutSession asks) goesOn
  | @received page host answer purpose clock hpage hid takes after_eq goesOn =>
    subst after_eq
    have hsame : (page.receive clock purpose answer.reply).1.id = page.id :=
      (page.later_receive clock purpose answer.reply).id_eq
    exact (fits page hpage).received run hid takes (hsame ▸ goesOn)

theorem dialogFits_of_run (run : Recorded outside browser answers console)
    (shown : console.screen = .billing page) : DialogFits answers console page := by
  induction run generalizing page with
  | opened => cases shown
  | tail run step ih => exact DialogFits.step (fun _ => ih) run step shown

/-- **An open dialog never shows another customer's data.**  Whichever customers it was opened for,
however often it was closed and the session changed, and in whatever order the requests were
answered: the dialog is titled with the customer that the latest request for a single customer asks
for, and shows one thing, the line that it is loading as long as that request waits, and then the
error or the spending that the answer to that request tells. -/
theorem dialog_current (run : Recorded Set.univ browser answers console)
    (shown : console.screen = .billing page) (isOpen : page.spend.dialog.isOpen = true) :
    ∃ place token id purpose content, console.host.LatestDetail place token id ∧
      Waited answers console place purpose content ∧
      ∀ {Event : Type} (close : Event), page.spend.dialog.view close =
        [.block [
          .element "h2" [] [.text ("Customer spend: " ++ id)],
          .block [content.view],
          .block [.plainButton close [.text "Close"]]]] := by
  obtain ⟨place, token, id, content, shows⟩ := (dialogFits_of_run run shown).shows isOpen
  refine ⟨place, token, id, _, content, ⟨⟨_, shows.asked⟩, shows.latest⟩, shows.waited, ?_⟩
  intro Event close
  rw [shows.dialog_eq]
  exact DetailDialog.view_showing id _ content close

/-- The dialog is opened for one customer and then for another, and the answer for the first comes
last. -/
theorem dialog_current_overtaken : ∃ (browser : Browser) (answers : List Answer)
    (console : Console) (page : BillingPage), Recorded Set.univ browser answers console ∧
      console.screen = .billing page ∧ page.spend.dialog.isOpen = true ∧
      answers.map (fun answer => (answer.place, answer.call)) =
        [(1, .report "key" (SpendQuery.mk (some "2024-02-14") (some "2024-03-15") (some 1)
          (some 50))), (3, .detail "key" "b"), (2, .detail "key" "a")] ∧
      page.spend.dialog.detail.map (·.aliasName) = some (some "Bee") ∧
      ∃ place token id purpose content, console.host.LatestDetail place token id ∧
        Waited answers console place purpose content ∧
        ∀ {Event : Type} (close : Event), page.spend.dialog.view close =
          [.block [
            .element "h2" [] [.text ("Customer spend: " ++ id)],
            .block [content.view],
            .block [.plainButton close [.text "Close"]]]] := by
  have opens : Recorded Set.univ ⟨true, true, true, .working, some "https://gw.test", [], none,
      ⟨1710496800, 0⟩⟩ [] (start _) := .opened
  have admin := opens.tail (.sessionChanged (by decide +kernel)
    (Set.mem_univ ⟨some "key", some ⟨"1", "ann", none, none, .proxyAdmin⟩⟩))
  have loaded := admin.tail (.answered (by decide +kernel) 1
    (show _ = some (Sent.mk (.report "key" (SpendQuery.mk (some "2024-02-14") (some "2024-03-15")
      (some 1) (some 50))) (.report 1 1) false) by decide +kernel)
    (.answered 200
      "\x7b\"spend_report\":[\x7b\"user_id\":\"a\"\x7d,\x7b\"user_id\":\"b\"\x7d]\x7d"))
  have report := loaded.tail (.used (by decide +kernel) (.click "Spend Report" 0))
  have first := report.tail (.used (by decide +kernel) (.click "a" 0))
  have second := first.tail (.used (by decide +kernel) (.click "b" 0))
  have answered := second.tail (.answered (by decide +kernel) 3
    (show _ = some (Sent.mk (.detail "key" "b") (.detail 1 2 "b") false) by decide +kernel)
    (.answered 200 "\x7b\"end_user_id\":\"b\",\"alias\":\"Bee\"\x7d"))
  have late := answered.tail (.answered (by decide +kernel) 2
    (show _ = some (Sent.mk (.detail "key" "a") (.detail 1 1 "a") false) by decide +kernel)
    (.answered 200 "\x7b\"end_user_id\":\"a\",\"alias\":\"Ay\"\x7d"))
  obtain ⟨answers, console, run, hanswers, hpage⟩ : ∃ answers console,
      Recorded Set.univ _ answers console ∧
      answers.map (fun answer => (answer.place, answer.call)) =
        [(1, .report "key" (SpendQuery.mk (some "2024-02-14") (some "2024-03-15") (some 1)
          (some 50))), (3, .detail "key" "b"), (2, .detail "key" "a")] ∧
      console.page?.any (fun page => decide (page.spend.dialog.isOpen = true ∧
        page.spend.dialog.detail.map (·.aliasName) = some (some "Bee"))) = true :=
    ⟨_, _, late, rfl, by decide +kernel⟩
  obtain ⟨page, hshown, hdecide⟩ := (Option.any_eq_true _ _).1 hpage
  obtain ⟨hopen, halias⟩ := of_decide_eq_true hdecide
  exact ⟨_, answers, console, page, run, screen_of_page? hshown, hopen, hanswers, halias,
    dialog_current run (screen_of_page? hshown) hopen⟩

end

end Console

end BillingConsole
