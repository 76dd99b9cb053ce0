import BillingConsole.Browser.Tokens

/-!
# Tokens in a browser that stores items

## What is here

* `Browser.StoresItems` — items can be stored.
* `Browser.lookup_saveToken` — a token that was saved is found again.
* `Browser.clearTokens_of_storesItems`, `Browser.token?_of_storesItems` — what is left without the
  tokens, and what a token is read from.
-/

set_option autoImplicit false

namespace BillingConsole.Browser

/-- Items can be stored, and not only read. -/
def StoresItems (browser : Browser) : Prop :=
  browser.hasWindow = true ∧ browser.storage = .working

theorem hasStorage_of_storesItems {browser : Browser} (h : browser.StoresItems) :
    browser.hasStorage = true := by
  rw [hasStorage, h.1, h.2]
  rfl

theorem saveToken_of_storesItems {browser : Browser} (h : browser.StoresItems)
    (name value : String) :
    browser.saveToken name value =
      ({ browser with items := setEntry name value browser.items }, []) := by
  have hwritable : ¬ browser.storage = .readOnly := by
    rw [h.2]
    decide
  rw [saveToken, store?, if_neg (not_not_intro (hasStorage_of_storesItems h)), if_neg hwritable]

/-- A token that was saved is found again. -/
theorem lookup_saveToken {browser : Browser} (h : browser.StoresItems) (name value : String) :
    (browser.saveToken name value).1.items.lookup name = some value := by
  rw [saveToken_of_storesItems h, lookup_setEntry, if_pos rfl]

/-- Without the tokens the other items are left. -/
theorem clearTokens_of_storesItems {browser : Browser} (h : browser.StoresItems) :
    browser.clearTokens = { browser with
      items := removeEntry refreshTokenItem (removeEntry accessTokenItem browser.items) } := by
  have hstorage := hasStorage_of_storesItems h
  have hkept : { browser with items := removeEntry accessTokenItem browser.items }.hasStorage =
      true := hstorage
  rw [clearTokens, forget, forget, if_pos hstorage, if_pos hkept]

/-- A token is read from the items. -/
theorem token?_of_storesItems {browser : Browser} (h : browser.StoresItems) (name : String) :
    browser.token? name = (browser.items.lookup name).filter fun value => !value.isEmpty := by
  rw [token?, stored?, if_pos (hasStorage_of_storesItems h)]

end BillingConsole.Browser
