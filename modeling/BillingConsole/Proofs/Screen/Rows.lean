import BillingConsole.Proofs.Screen.Requests
import Mathlib.Data.List.Nodup

/-!
# Rows that are kept are up to date

A row is made once for its key and kept as long as the key stays, so what it shows is as old as the
row.  That goes well because the key holds the number of the load: a load that is taken over changes
every key, and under one load an id belongs to one item.

## What is here

* `rowsOf` — the rows made anew for the data of a load, `map_item_rowsOf` and `map_key_rowsOf` what
  they hold.
* `RowsFit`, `RowsFit.keep` — rows that belong to the data of a load, and that they stay so through
  searches, failures and further loads.
* `BillingPage.RowsHold` — this holds of both tables of a page.
* `BillingPage.rowsHold_open`, `rowsHold_update`, `rowsHold_receive`, `rowsHold_sessionChanged` —
  and whatever happens to a page keeps it.
-/

set_option autoImplicit false

namespace BillingConsole

/-! ## Rows and their data -/

section Rows

variable {α : Type} (id : α → String)

/-- The rows made anew for the data of a load. -/
def rowsOf (generation : Nat) (data : List α) : List (KeyedRow α) :=
  data.map fun item => ⟨(generation, id item), item⟩

/-- Rows that belong to the data of a load, of which some are shown. -/
structure RowsFit (generation : Nat) (data shown : List α) (rows : List (KeyedRow α)) : Prop where
  /-- Every row was made from the data, under the number of their load. -/
  made : ∀ row ∈ rows, ∃ item ∈ data, row = ⟨(generation, id item), item⟩
  /-- If the ids tell the data apart, the rows are those that would be made anew. -/
  fresh : (data.map id).Nodup → rows = rowsOf id generation shown

variable {id} {generation : Nat} {data shown : List α} {rows : List (KeyedRow α)}

theorem map_item_rowsOf (data : List α) : (rowsOf id generation data).map (·.item) = data := by
  rw [rowsOf, List.map_map]
  exact List.map_id data

theorem map_key_rowsOf (data : List α) :
    (rowsOf id generation data).map (·.key) = data.map fun item => (generation, id item) := by
  rw [rowsOf, List.map_map]
  rfl

/-- Rows that were made anew belong to their data. -/
theorem RowsFit.anew (hshown : shown ⊆ data) :
    RowsFit id generation data shown (rowsOf id generation shown) := by
  refine ⟨fun row hrow => ?_, fun _ => rfl⟩
  obtain ⟨item, hitem, rfl⟩ := List.mem_map.1 hrow
  exact ⟨item, hshown hitem, rfl⟩

/-- A row that is kept for an item was made from an item with the same id. -/
theorem RowsFit.exists_kept (fit : RowsFit id generation data shown rows) {item : α}
    (hitem : item ∈ data) : ∃ kept ∈ data, id kept = id item ∧
      (rows.find? fun row => row.key == (generation, id item)).getD ⟨(generation, id item), item⟩ =
        ⟨(generation, id kept), kept⟩ := by
  cases hfind : rows.find? fun row => row.key == (generation, id item) with
  | none => exact ⟨item, hitem, rfl, rfl⟩
  | some row =>
    obtain ⟨kept, hkept, rfl⟩ := fit.made row (List.mem_of_find?_eq_some hfind)
    have hkey := List.find?_some hfind
    rw [beq_iff_eq, Prod.mk.injEq] at hkey
    exact ⟨kept, hkept, hkey.2, rfl⟩

/-- Under the same load the rows go on belonging to its data, whatever is shown of them. -/
theorem RowsFit.same (fit : RowsFit id generation data shown rows) {next : List α}
    (hnext : next ⊆ data) :
    RowsFit id generation data next (keepRows rows (rowsOf id generation next)) := by
  have hkeep : keepRows rows (rowsOf id generation next) = next.map fun item =>
      (rows.find? fun row => row.key == (generation, id item)).getD
        ⟨(generation, id item), item⟩ := List.map_map
  rw [hkeep]
  refine ⟨fun row hrow => ?_, fun hnodup => ?_⟩
  · obtain ⟨item, hitem, rfl⟩ := List.mem_map.1 hrow
    obtain ⟨kept, hkept, -, heq⟩ := fit.exists_kept (hnext hitem)
    exact ⟨kept, hkept, heq⟩
  · refine List.map_congr_left fun item hitem => ?_
    obtain ⟨kept, hkept, hid, heq⟩ := fit.exists_kept (hnext hitem)
    obtain rfl := List.inj_on_of_nodup_map hnodup hkept (hnext hitem) hid
    exact heq

/-- Under the number of another load no row is kept. -/
theorem RowsFit.keepRows_of_ne (fit : RowsFit id generation data shown rows) {number : Nat}
    (hne : number ≠ generation) (next : List α) :
    keepRows rows (rowsOf id number next) = rowsOf id number next := by
  have hkeep (row : KeyedRow α) (hrow : row ∈ rowsOf id number next) :
      (rows.find? fun kept => kept.key == row.key).getD row = row := by
    obtain ⟨item, -, rfl⟩ := List.mem_map.1 hrow
    have hnone : rows.find? (fun kept => kept.key == (number, id item)) = none := by
      refine List.find?_eq_none.2 fun kept hkept hkey => ?_
      obtain ⟨other, -, rfl⟩ := fit.made kept hkept
      rw [beq_iff_eq, Prod.mk.injEq] at hkey
      exact hne hkey.1.symm
    rw [hnone]
    rfl
  calc keepRows rows (rowsOf id number next)
      = (rowsOf id number next).map fun row => row := List.map_congr_left hkeep
    _ = rowsOf id number next := List.map_id' _

/-- **Rows that are kept stay up to date**: after a change they belong to the data there are then,
if these are the same as before or have the number of another load. -/
theorem RowsFit.keep (fit : RowsFit id generation data shown rows) {number : Nat}
    {now next : List α} (h : number = generation ∧ now = data ∨ number ≠ generation)
    (hnext : next ⊆ now) :
    RowsFit id number now next (keepRows rows (rowsOf id number next)) := by
  rcases h with ⟨rfl, rfl⟩ | hne
  · exact fit.same hnext
  · rw [fit.keepRows_of_ne hne]
    exact .anew hnext

end Rows

/-! ## The table of customers -/

theorem CustomerTable.shown_subset (table : CustomerTable) (customers : List Customer) :
    table.shown customers ⊆ customers := by
  rw [shown, searchCustomers]
  split
  · exact List.Subset.refl customers
  · exact List.filter_subset_self customers

/-- The rows of the table belong to the customers. -/
def CustomerTable.RowsHold (table : CustomerTable) (list : CustomerList) : Prop :=
  RowsFit (·.id) list.generation list.customers (table.shown list.customers) table.rows

/-- A list that went on has the same customers under the same number, or another number. -/
def CustomerList.KeepsOrRenews (list next : CustomerList) : Prop :=
  next.generation = list.generation ∧ next.customers = list.customers ∨
    next.generation ≠ list.generation

theorem CustomerList.keepsOrRenews_load (list : CustomerList) (session : Session) (page : Nat) :
    list.KeepsOrRenews (list.load session page).1 := by
  rcases list.load_cases session page with ⟨-, heq⟩ | ⟨token, -, heq⟩
  · rw [heq]
    exact .inl ⟨rfl, rfl⟩
  · rw [heq]
    exact .inl ⟨rfl, rfl⟩

theorem CustomerList.keepsOrRenews_receive (list : CustomerList) (ticket : Nat) (reply : Reply)
    (time : String) : list.KeepsOrRenews (list.receive ticket reply time).1 := by
  rw [receive]
  cases hfinish : list.finishLoad ticket reply.customers time with
  | mk outcome next =>
    rcases finishLoad_cases hfinish with ⟨-, -, rfl⟩ | ⟨-, error, -, -, rfl⟩ |
      ⟨-, customers, -, -, rfl⟩
    · exact .inl ⟨rfl, rfl⟩
    · exact .inl ⟨rfl, rfl⟩
    · exact .inr (Nat.succ_ne_self _)

/-- Once the rows are settled they belong to the customers again. -/
theorem CustomerTable.RowsHold.settle {table next : CustomerTable} {list now : CustomerList}
    (holds : table.RowsHold list) (hrows : next.rows = table.rows) (h : list.KeepsOrRenews now) :
    (next.settle now.customers now.generation).RowsHold now := by
  have hkept := RowsFit.keep holds h (next.shown_subset now.customers)
  rw [← hrows] at hkept
  exact hkept

/-! ## The report -/

/-- The rows of the report belong to its records. -/
def SpendScreen.RowsHold (screen : SpendScreen) : Prop :=
  RowsFit (·.customerId) screen.panel.generation screen.panel.report.records
    screen.panel.report.records screen.rows

/-- A report that went on has the same records under the same number, or another number. -/
def SpendPanel.KeepsOrRenews (panel next : SpendPanel) : Prop :=
  next.generation = panel.generation ∧ next.report.records = panel.report.records ∨
    next.generation ≠ panel.generation

namespace SpendScreen.RowsHold

theorem ofPanel (panel : SpendPanel) : (SpendScreen.ofPanel panel).RowsHold :=
  RowsFit.anew (List.Subset.refl _)

variable {screen : SpendScreen}

theorem put (holds : screen.RowsHold) {panel : SpendPanel} (h : screen.panel.KeepsOrRenews panel) :
    (screen.put panel).RowsHold :=
  RowsFit.keep holds h (List.Subset.refl _)

theorem load (holds : screen.RowsHold) (token? : Option String) (page : Nat) :
    (screen.load token? page).1.RowsHold := by
  rcases screen.load_cases token? page with ⟨-, heq⟩ | ⟨token, -, heq⟩
  · rw [heq]
    exact holds.put (.inl ⟨rfl, rfl⟩)
  · rw [heq]
    exact holds.put (.inl ⟨rfl, rfl⟩)

theorem receive (holds : screen.RowsHold) (ticket : Nat) (reply : Reply) :
    (screen.receive ticket reply).1.RowsHold := by
  rw [SpendScreen.receive]
  cases hfinish : screen.panel.finishLoad ticket reply.report with
  | mk outcome next =>
    rcases SpendPanel.finishLoad_cases hfinish with ⟨-, -, rfl⟩ | ⟨-, error, -, -, rfl⟩ |
      ⟨-, report, -, -, rfl⟩
    · exact holds.put (.inl ⟨rfl, rfl⟩)
    · exact holds.put (.inl ⟨rfl, rfl⟩)
    · exact holds.put (.inr (Nat.succ_ne_self _))

theorem update (holds : screen.RowsHold) (browser : Browser) (token? : Option String) (page : Nat)
    (event : SpendEvent) : (screen.update browser token? page event).1.RowsHold := by
  have hkeeps (panel : SpendPanel) (hgeneration : panel.generation = screen.panel.generation)
      (hreport : panel.report = screen.panel.report) : (screen.put panel).RowsHold :=
    holds.put (.inl ⟨hgeneration, congrArg _ hreport⟩)
  cases event with
  | dates event =>
    rw [SpendScreen.update]
    cases event.answer (screen.panel.first, screen.panel.last) browser.clock with
    | range range => exact hkeeps (screen.panel.setRange range.1 range.2) rfl rfl
    | nothing | outOfCalendar => exact holds
  | applyFilter => exact (hkeeps screen.panel.applyFilter rfl rfl).load token? page
  | exportReport | openDetail | closeDetail => exact holds
  | toggle id => exact hkeeps (screen.panel.toggle id) rfl rfl
  | pager event =>
    rw [SpendScreen.update.eq_def]
    dsimp only
    cases event.ask? with
    | none => cases event <;> exact holds
    | some ask =>
      cases ask with
      | page n => exact (hkeeps (screen.panel.setPage n) rfl rfl).load token? page
      | size n => exact (hkeeps (screen.panel.setPageSize n) rfl rfl).load token? page

end SpendScreen.RowsHold

/-! ## The page -/

namespace BillingPage

/-- The rows of both tables belong to what was loaded. -/
structure RowsHold (page : BillingPage) : Prop where
  table : page.table.RowsHold page.list
  report : page.spend.RowsHold

theorem RowsHold.loadList {page : BillingPage} (holds : page.RowsHold) (session : Session) :
    (page.loadList session).1.RowsHold :=
  ⟨holds.table.settle rfl (page.list.keepsOrRenews_load session page.id), holds.report⟩

theorem RowsHold.loadReport {page : BillingPage} (holds : page.RowsHold) (session : Session) :
    (page.loadReport session).1.RowsHold :=
  ⟨holds.table, holds.report.load session.adminToken page.id⟩

theorem RowsHold.loadDetail {page : BillingPage} (holds : page.RowsHold) (session : Session) :
    (page.loadDetail session).1.RowsHold :=
  ⟨holds.table, holds.report⟩

/-- A page opens with no rows, and none are there yet. -/
theorem rowsHold_open {id : Nat} {session : Session} {clock : Clock}
    {opened : BillingPage × List Effect} (h : open? id session clock = some opened) :
    opened.1.RowsHold := by
  obtain ⟨panel, -, rfl⟩ := Option.map_eq_some_iff.1 h
  have hempty : RowsHold ⟨id, .customers, .empty, .empty, .ofPanel panel⟩ :=
    ⟨RowsFit.anew (List.Subset.refl []), .ofPanel panel⟩
  exact (hempty.loadList session).loadReport session

theorem rowsHold_update {page : BillingPage} (holds : page.RowsHold) (browser : Browser)
    (session : Session) (event : BillingEvent) :
    (page.update browser session event).1.RowsHold := by
  cases event with
  | showTab => exact ⟨holds.table, holds.report⟩
  | refresh => exact holds.loadList session
  | table event =>
    have hrows :
        (page.table.update browser page.list.customers event).1.rows = page.table.rows := by
      cases event <;> rfl
    exact ⟨holds.table.settle hrows (.inl ⟨rfl, rfl⟩), holds.report⟩
  | spend event => exact ⟨holds.table, holds.report.update browser session.adminToken page.id event⟩

theorem rowsHold_receive {page : BillingPage} (holds : page.RowsHold) (clock : Clock)
    (purpose : Purpose) (reply : Reply) : (page.receive clock purpose reply).1.RowsHold := by
  cases purpose with
  | customers _ ticket =>
    exact ⟨holds.table.settle rfl (page.list.keepsOrRenews_receive ticket reply clock.label),
      holds.report⟩
  | report _ ticket => exact ⟨holds.table, holds.report.receive ticket reply⟩
  | detail => exact ⟨holds.table, holds.report⟩
  | restore | signIn | signOut => exact holds

theorem rowsHold_sessionChanged {page : BillingPage} (holds : page.RowsHold) (old new : Session) :
    (page.sessionChanged old new).1.RowsHold := by
  have hlisted : (if (old.token, old.role) = (new.token, new.role) then (page, [])
      else page.loadList new).1.RowsHold := by
    split
    · exact holds
    · exact holds.loadList new
  rw [sessionChanged]
  split
  · exact hlisted
  · exact (hlisted.loadReport new).loadDetail new

end BillingPage

end BillingConsole
