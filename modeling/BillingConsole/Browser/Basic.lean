import BillingConsole.Calendar.Clock
import BillingConsole.Entries

/-!
# The browser

What the console needs of the browser it runs in.  Any part may be missing, storage may be closed or
read only, and one call on the document may be refused.

## What is here

* `Browser` — the parts, the stored items and the clock.
* `Browser.stored?`, `Browser.store?`, `Browser.forget` — reading, writing and removing an item.
* `LogEntry` — a line of the log.
-/

set_option autoImplicit false

namespace BillingConsole

/-- How far the storage of the browser can be used. -/
inductive StorageAccess where
  | working
  | missing
  | denied
  | readOnly
deriving DecidableEq

/-- A call on the document that saving a file needs. -/
inductive DocumentCall where
  | makeBlob
  | makeUrl
  | makeElement
  | castElement
  | setStyle
  | append
  | click
  | remove
  | revokeUrl
deriving DecidableEq

/-- The browser the console runs in. -/
structure Browser where
  hasWindow : Bool := true
  hasDocument : Bool := true
  hasBody : Bool := true
  storage : StorageAccess := .working
  /-- Where the console was loaded from, if the browser tells. -/
  origin : Option String
  items : List (String × String) := []
  /-- The call on the document that is refused. -/
  refused : Option DocumentCall := none
  clock : Clock
deriving DecidableEq

namespace Browser

/-- Whether stored items can be read and removed. -/
def hasStorage (browser : Browser) : Bool :=
  browser.hasWindow && (browser.storage == .working || browser.storage == .readOnly)

/-- The stored item with a name. -/
def stored? (browser : Browser) (name : String) : Option String :=
  if browser.hasStorage then browser.items.lookup name else none

/-- Stores an item.  Without storage nothing happens; storage that only can be read refuses. -/
def store? (browser : Browser) (name value : String) : Option Browser :=
  if ¬ browser.hasStorage then some browser
  else if browser.storage = .readOnly then none
  else some { browser with items := setEntry name value browser.items }

/-- Removes a stored item. -/
def forget (browser : Browser) (name : String) : Browser :=
  if browser.hasStorage then { browser with items := removeEntry name browser.items } else browser

end Browser

/-! ## The log -/

/-- How important a line of the log is. -/
inductive LogLevel where
  | debug
  | info
  | warn
  | error
deriving DecidableEq

/-- The word for a level. -/
def LogLevel.label : LogLevel → String
  | debug => "DEBUG"
  | info => "INFO"
  | warn => "WARN"
  | error => "ERROR"

/-- A line of the log. -/
structure LogEntry where
  level : LogLevel
  text : String
deriving DecidableEq

end BillingConsole
