import BillingConsole.Browser.Basic

/-!
# Tokens kept between visits

The access token and the refresh token of a session are stored in the browser.  An empty item counts
as none.

## What is here

* `Browser.accessToken?`, `Browser.refreshToken?` — the stored tokens.
* `Browser.saveToken` — stores one, with a warning where the browser refuses.
* `Browser.clearTokens` — removes both.
-/

set_option autoImplicit false

namespace BillingConsole.Browser

/-- The name of the stored access token. -/
def accessTokenItem : String := "auth_access_token"

/-- The name of the stored refresh token. -/
def refreshTokenItem : String := "auth_refresh_token"

/-- A stored item that is not empty. -/
def token? (browser : Browser) (name : String) : Option String :=
  (browser.stored? name).filter fun value => !value.isEmpty

/-- The stored access token. -/
def accessToken? (browser : Browser) : Option String := browser.token? accessTokenItem

/-- The stored refresh token. -/
def refreshToken? (browser : Browser) : Option String := browser.token? refreshTokenItem

/-- Stores a token.  Where the browser refuses, a warning is logged and nothing changes. -/
def saveToken (browser : Browser) (name value : String) : Browser × List LogEntry :=
  match browser.store? name value with
  | some saved => (saved, [])
  | none => (browser, [⟨.warn, "Could not persist '" ++ name ++ "' to localStorage"⟩])

/-- Removes both tokens. -/
def clearTokens (browser : Browser) : Browser :=
  (browser.forget accessTokenItem).forget refreshTokenItem

end BillingConsole.Browser
