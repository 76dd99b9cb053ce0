import BillingConsole.Proofs.Console.Page
import BillingConsole.Proofs.Screen.Rows

/-!
# The tables show the current data

Both tables keep a row as long as its key stays, through searches, failed loads and reloads that
change what is known under an id.  What is on screen is still what was loaded last.

## What is here

* `BillingPage.remade` — a page with all its rows made anew.
* `BillingPage.Current` — a page that looks as if they were.
* `Console.rows_current` — **the tables always show the current data.**
-/

set_option autoImplicit false

namespace BillingConsole

namespace BillingPage

/-- The page with all rows of both tables made anew. -/
def remade (page : BillingPage) : BillingPage :=
  { page with
    table := { page.table with
      rows := page.table.freshRows page.list.customers page.list.generation }
    spend := { page.spend with rows := SpendScreen.freshRows page.spend.panel } }

/-- An operation on a page keeps what is true of the rows. -/
theorem kept_rowsHold : Kept RowsHold where
  opened := rowsHold_open
  used := rowsHold_update
  received := rowsHold_receive
  changed := rowsHold_sessionChanged

/-- Where the ids of what was taken over last are distinct, the rows are those that would be made
anew, and so the page looks as if they were. -/
structure Current (page : BillingPage) : Prop where
  customers : (page.list.customers.map (·.id)).Nodup →
    page.table.rows = page.table.freshRows page.list.customers page.list.generation
  /-- The rows of the customers hold those that the search finds, in their order, each under the
  number of the load and its own id. -/
  found : (page.list.customers.map (·.id)).Nodup →
    page.table.rows.map (·.item) = searchCustomers page.table.search page.list.customers ∧
      page.table.rows.map (·.key) =
        (searchCustomers page.table.search page.list.customers).map fun customer =>
          (page.list.generation, customer.id)
  records : (page.spend.panel.report.records.map (·.customerId)).Nodup →
    page.spend.rows = SpendScreen.freshRows page.spend.panel
  /-- The rows of the report hold its records in the same way. -/
  reported : (page.spend.panel.report.records.map (·.customerId)).Nodup →
    page.spend.rows.map (·.item) = page.spend.panel.report.records ∧
      page.spend.rows.map (·.key) = page.spend.panel.report.records.map fun record =>
        (page.spend.panel.generation, record.customerId)
  view_eq : (page.list.customers.map (·.id)).Nodup →
    (page.spend.panel.report.records.map (·.customerId)).Nodup → page.view = page.remade.view

theorem RowsHold.current {page : BillingPage} (holds : page.RowsHold) : page.Current := by
  have htable (distinct : (page.list.customers.map (·.id)).Nodup) :
      page.table.rows = page.table.freshRows page.list.customers page.list.generation :=
    holds.table.fresh distinct
  have hreport (distinct : (page.spend.panel.report.records.map (·.customerId)).Nodup) :
      page.spend.rows = SpendScreen.freshRows page.spend.panel :=
    holds.report.fresh distinct
  refine ⟨htable, fun distinct => ?_, hreport, fun distinct => ?_, fun hcustomers hrecords => ?_⟩
  · rw [htable distinct]
    exact ⟨map_item_rowsOf _, map_key_rowsOf _⟩
  · rw [hreport distinct]
    exact ⟨map_item_rowsOf _, map_key_rowsOf _⟩
  · rw [remade, ← htable hcustomers, ← hreport hrecords]

end BillingPage

namespace Console

/-- **The tables always show the current data.**  However often the customers and the report were
loaded, in whatever order the answers came, and whatever was searched for in between: if the ids of
the customers that were taken over last are distinct, the rows of their table are those that would
be made anew for the customers that the search finds, in the same order; and likewise the rows of
the report are those of its records. -/
theorem rows_current {browser : Browser} {console : Console}
    (reaches : FreelyReaches (start browser) console) {page : BillingPage}
    (shown : console.screen = .billing page) : page.Current :=
  (of_reaches BillingPage.kept_rowsHold reaches shown).current

/-- The customers are searched while they are loaded again, and the answer gives another alias to
one of them; so does a second answer for the report. -/
theorem rows_current_reloaded : ∃ (browser : Browser) (console : Console) (page : BillingPage),
    FreelyReaches (start browser) console ∧ console.screen = .billing page ∧ page.Current ∧
      page.list.generation = 2 ∧ page.table.search = "b" ∧
      page.list.customers.map (·.id) = ["b", "c"] ∧
      page.table.rows.map (fun row => (row.key, row.item.aliasName)) = [((2, "b"), some "new")] ∧
      page.table.rows = page.table.freshRows page.list.customers page.list.generation ∧
      page.spend.rows.map (fun row => (row.key, row.item.aliasName)) =
        [((2, "b"), some "other"), ((2, "a"), none)] ∧
      page.spend.rows.map (·.item) = page.spend.panel.report.records := by
  have opens : (start ⟨true, true, true, .working, some "https://gw.test", [], none,
      ⟨1710496800, 0⟩⟩).host.halted = false := rfl
  have admin := Relation.ReflTransGen.single
    (FreeStep.sessionChanged opens ⟨some "key", some ⟨"1", "ann", none, none, .proxyAdmin⟩⟩)
  have loaded := admin.tail (.step (.step (.answered (by decide +kernel) 0 (.answered 200
    "[\x7b\"user_id\":\"a\"\x7d,\x7b\"user_id\":\"b\",\"alias\":\"old\"\x7d]"))))
  have reported := loaded.tail (.step (.step (.answered (by decide +kernel) 1 (.answered 200
    "\x7b\"spend_report\":[\x7b\"user_id\":\"b\",\"alias\":\"one\"\x7d]\x7d"))))
  have reloading := reported.tail (.step (.step (.used (by decide +kernel) (.click "Refresh" 0))))
  have searched := reloading.tail (.step (.step (.used (by decide +kernel) (.type 0 "b"))))
  have reloaded := searched.tail (.step (.step (.answered (by decide +kernel) 2 (.answered 200
    "[\x7b\"user_id\":\"b\",\"alias\":\"new\"\x7d,\x7b\"user_id\":\"c\"\x7d]"))))
  have report := reloaded.tail (.step (.step (.used (by decide +kernel) (.click "Spend Report" 0))))
  have applied := report.tail (.step (.step (.used (by decide +kernel) (.click "Apply Filter" 0))))
  have again := applied.tail (.step (.step (.answered (by decide +kernel) 3 (.answered 200
    ("\x7b\"spend_report\":[\x7b\"user_id\":\"b\",\"alias\":\"other\"\x7d," ++
      "\x7b\"user_id\":\"a\"\x7d]\x7d")))))
  obtain ⟨console, run, hpage⟩ : ∃ console, FreelyReaches (start _) console ∧
      console.page?.any (fun page => decide (page.list.generation = 2 ∧ page.table.search = "b" ∧
        page.list.customers.map (·.id) = ["b", "c"] ∧
        page.table.rows.map (fun row => (row.key, row.item.aliasName)) =
          [((2, "b"), some "new")] ∧
        page.spend.rows.map (fun row => (row.key, row.item.aliasName)) =
          [((2, "b"), some "other"), ((2, "a"), none)] ∧
        page.spend.panel.report.records.map (·.customerId) = ["b", "a"])) = true :=
    ⟨_, again, by decide +kernel⟩
  obtain ⟨page, hshown, hdecide⟩ := (Option.any_eq_true _ _).1 hpage
  obtain ⟨hgeneration, hsearch, hids, hrows, hreport, hrecords⟩ := of_decide_eq_true hdecide
  have current := rows_current run (screen_of_page? hshown)
  refine ⟨_, console, page, run, screen_of_page? hshown, current, hgeneration, hsearch, hids, hrows,
    current.customers ?_, hreport, (current.reported ?_).1⟩
  · rw [hids]
    decide
  · rw [hrecords]
    decide

end Console

end BillingConsole
