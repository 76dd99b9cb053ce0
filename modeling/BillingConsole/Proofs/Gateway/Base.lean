import BillingConsole.Browser.Base
import BillingConsole.Proofs.Text.Ends

/-!
# The base of addresses

White space around a base is taken off first, and slashes at its end second.  So a base is
normalized at once, unless there is white space before those slashes: it is at the end when they are
gone, and is taken off only if the base is normalized again.

## What is here

* `IsNormal`, `normalizeBase_eq_self_iff` — a base that any path can be appended to; these are the
  texts with nothing left to normalize.
* `HasLooseSlashes`, `isNormal_normalizeBase_iff` — the texts of which one pass leaves something.
* `Browser.TakesBase`, `Browser.exists_gatewayBase` — the text that a browser takes the base from.
* `isNormal_normalizeBase` — **which bases are normal**; `not_isNormal_looseSlash` — not all are.
-/

set_option autoImplicit false

namespace BillingConsole

variable {base text : List Char}

/-! ## Normal bases -/

/-- A base to which any path that starts with a slash can be appended. -/
structure IsNormal (base : List Char) : Prop where
  /-- It starts with no white space. -/
  start : ∀ c ∈ base.head?, isBlank c = false
  /-- It ends in no white space. -/
  stop : ∀ c ∈ base.getLast?, isBlank c = false
  /-- It ends in no slash. -/
  noSlash : ∀ c ∈ base.getLast?, c ≠ '/'

/-- What is left of a text starts with no white space. -/
theorem head?_normalizeBase (text : List Char) :
    ∀ c ∈ (normalizeBase text).head?, isBlank c = false := fun c hc =>
  head?_trim text c (mem_head?_of_isPrefix (isPrefix_dropEndWhile _ _) c hc)

/-- What is left of a text ends in no slash. -/
theorem getLast?_normalizeBase (text : List Char) :
    ∀ c ∈ (normalizeBase text).getLast?, c ≠ '/' := by
  intro c hc
  simpa using getLast?_dropEndWhile (· == '/') (trim text) c hc

/-- **Nothing is left to normalize exactly of normal bases.** -/
theorem normalizeBase_eq_self_iff : normalizeBase base = base ↔ IsNormal base := by
  constructor
  · intro h
    have hstart := head?_normalizeBase base
    rw [h] at hstart
    have hslash := getLast?_normalizeBase base
    rw [h] at hslash
    refine ⟨hstart, dropEndWhile_eq_self_iff.1 ?_, hslash⟩
    -- the base is a part of itself without white space at its end, so there is none
    have hpart : normalizeBase base <+: trim base := isPrefix_dropEndWhile _ _
    rw [h, trim, trimStart_eq hstart] at hpart
    exact (isPrefix_dropEndWhile isBlank base).eq_of_length_le hpart.length_le
  · intro h
    rw [normalizeBase, trim, trimStart_eq h.start, trimEnd, dropEndWhile_eq_self_iff.2 h.stop]
    exact dropEndWhile_eq_self_iff.2 fun c hc => by simpa using h.noSlash c hc

/-! ## What one pass leaves -/

/-- Without the white space around it, the text ends in slashes with white space before them. -/
def HasLooseSlashes (text : List Char) : Prop :=
  ∃ front blank slashes, trim text = front ++ blank :: '/' :: slashes ∧ isBlank blank = true ∧
    ∀ c ∈ slashes, c = '/'

/-- The white space before the slashes is left at the end. -/
theorem getLast?_of_hasLooseSlashes (h : HasLooseSlashes text) :
    ∃ blank ∈ (normalizeBase text).getLast?, isBlank blank = true := by
  obtain ⟨front, blank, slashes, htrim, hblank, hslashes⟩ := h
  have hne : (blank == '/') = false := by
    rw [beq_eq_false_iff_ne]
    rintro rfl
    exact absurd hblank (by decide)
  have hrun : ∀ c ∈ '/' :: slashes, (c == '/') = true := by simpa using hslashes
  refine ⟨blank, ?_, hblank⟩
  rw [normalizeBase, htrim, List.append_cons, dropEndWhile_append hrun (by simpa using hne),
    Option.mem_def, List.getLast?_concat]

/-- White space that is left at the end was before slashes. -/
theorem hasLooseSlashes_of_getLast? {c : Char} (hc : c ∈ (normalizeBase text).getLast?)
    (hblank : isBlank c = true) : HasLooseSlashes text := by
  obtain ⟨front, hfront⟩ := List.getLast?_eq_some_iff.1 hc
  obtain ⟨run, htrim, hrun⟩ := exists_dropped (· == '/') (trim text)
  rw [← normalizeBase, hfront] at htrim
  cases run with
  | nil =>
    have hstop := getLast?_trim text c (by simp [htrim])
    exact absurd (hblank.symm.trans hstop) (by decide)
  | cons slash slashes =>
    obtain rfl : slash = '/' := by simpa using hrun slash List.mem_cons_self
    refine ⟨front, c, slashes, by simpa using htrim, hblank, fun d hd => ?_⟩
    simpa using hrun d (List.mem_cons_of_mem _ hd)

/-- One pass is enough exactly where no white space is before slashes. -/
theorem isNormal_normalizeBase_iff (text : List Char) :
    IsNormal (normalizeBase text) ↔ ¬HasLooseSlashes text := by
  constructor
  · intro h hloose
    obtain ⟨blank, hlast, hblank⟩ := getLast?_of_hasLooseSlashes hloose
    exact absurd (hblank.symm.trans (h.stop blank hlast)) (by decide)
  · intro h
    refine ⟨head?_normalizeBase text, fun c hc => ?_, getLast?_normalizeBase text⟩
    by_contra hblank
    exact h (hasLooseSlashes_of_getLast? hc (by simpa using hblank))

/-! ## The base a browser knows -/

namespace Browser

/-- The text that a browser takes the base from. -/
inductive TakesBase (browser : Browser) : String → Prop where
  /-- Without a window there is none. -/
  | nowhere (hwindow : browser.hasWindow = false) : TakesBase browser ""
  /-- It is the stored text, if anything is left of that. -/
  | stored {text : String} (hwindow : browser.hasWindow = true)
      (hstored : browser.stored? baseItem = some text) (hleft : normalizeBase text.toList ≠ []) :
      TakesBase browser text
  /-- Otherwise it is where the console was loaded from. -/
  | origin (hwindow : browser.hasWindow = true)
      (hstored : ∀ text, browser.stored? baseItem = some text → normalizeBase text.toList = []) :
      TakesBase browser (browser.origin.getD "")

/-- The base is what is left of the text it is taken from. -/
theorem exists_gatewayBase (browser : Browser) :
    ∃ text, browser.TakesBase text ∧ browser.gatewayBase.toList = normalizeBase text.toList := by
  unfold gatewayBase
  split
  · next hwindow =>
    split
    · next c rest hsome =>
      obtain ⟨text, hstored, hbase⟩ := Option.map_eq_some_iff.1 hsome
      refine ⟨text, .stored hwindow hstored (by simp [hbase]), ?_⟩
      rw [hbase, String.toList_ofList]
    · next hother =>
      refine ⟨_, .origin hwindow fun text hstored => ?_, String.toList_ofList⟩
      cases hbase : normalizeBase text.toList with
      | nil => rfl
      | cons c rest =>
        exact absurd (Option.map_eq_some_iff.2 ⟨text, hstored, hbase⟩) (hother c rest)
  · next hwindow => exact ⟨"", .nowhere (by simpa using hwindow), by decide⟩

end Browser

/-! ## Which bases are normal -/

/-- **Which bases are normal.**  What is left of a text starts with no white space and ends in no
slash.  It ends in no white space, and nothing is left to normalize, exactly unless the text has
white space before the slashes at its end.  The same holds for the base of a browser and the text
that it takes the base from. -/
theorem isNormal_normalizeBase (text : List Char) (browser : Browser) :
    ((∀ c ∈ (normalizeBase text).head?, isBlank c = false) ∧
      (∀ c ∈ (normalizeBase text).getLast?, c ≠ '/') ∧
      (IsNormal (normalizeBase text) ↔ ¬HasLooseSlashes text) ∧
      (normalizeBase (normalizeBase text) = normalizeBase text ↔ ¬HasLooseSlashes text)) ∧
    ∃ taken, browser.TakesBase taken ∧ browser.gatewayBase.toList = normalizeBase taken.toList ∧
      (IsNormal browser.gatewayBase.toList ↔ ¬HasLooseSlashes taken.toList) := by
  refine ⟨⟨head?_normalizeBase text, getLast?_normalizeBase text,
    isNormal_normalizeBase_iff text, ?_⟩, ?_⟩
  · rw [normalizeBase_eq_self_iff, isNormal_normalizeBase_iff]
  · obtain ⟨taken, htakes, hbase⟩ := browser.exists_gatewayBase
    exact ⟨taken, htakes, hbase, by rw [hbase, isNormal_normalizeBase_iff]⟩

/-- An address with white space around it and slashes at its end. -/
def surroundedBase : List Char := "\t https://gw.test// ".toList

/-- A browser in which an address with slashes at its end is stored. -/
def slashBrowser : Browser where
  origin := none
  items := [(Browser.baseItem, "https://gw.test//")]
  clock := ⟨0, 0⟩

theorem isNormal_normalizeBase_surrounded :
    ('h' ∈ (normalizeBase surroundedBase).head? ∧ isBlank 'h' = false) ∧
      ('t' ∈ (normalizeBase surroundedBase).getLast? ∧ 't' ≠ '/') ∧
      (¬HasLooseSlashes surroundedBase ∧ IsNormal (normalizeBase surroundedBase)) ∧
      ∃ taken, slashBrowser.TakesBase taken ∧ ¬HasLooseSlashes taken.toList := by
  obtain ⟨⟨hstart, hslash, hnormal, hagain⟩, taken, htakes, -, hbase⟩ :=
    isNormal_normalizeBase surroundedBase slashBrowser
  have hloose : ¬HasLooseSlashes surroundedBase := hagain.1 (by decide)
  have hfirst : 'h' ∈ (normalizeBase surroundedBase).head? := by decide
  have hlast : 't' ∈ (normalizeBase surroundedBase).getLast? := by decide
  have htaken := hbase.1 (normalizeBase_eq_self_iff.1 (by decide))
  exact ⟨⟨hfirst, hstart _ hfirst⟩, ⟨hlast, hslash _ hlast⟩, ⟨hloose, hnormal.2 hloose⟩,
    taken, htakes, htaken⟩

/-- White space before a slash is left at the end of a base, and goes only the next time. -/
theorem not_isNormal_looseSlash :
    ¬IsNormal (normalizeBase "https://gw.test /".toList) ∧
      normalizeBase (normalizeBase "https://gw.test /".toList) ≠
        normalizeBase "https://gw.test /".toList := by
  have hagain : normalizeBase (normalizeBase "https://gw.test /".toList) ≠
      normalizeBase "https://gw.test /".toList := by decide
  exact ⟨mt normalizeBase_eq_self_iff.2 hagain, hagain⟩

end BillingConsole
