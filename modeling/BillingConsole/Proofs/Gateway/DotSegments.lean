import BillingConsole.Proofs.Gateway.Billing
import BillingConsole.Proofs.Gateway.Segment
import BillingConsole.Proofs.Text.Ends

/-!
# Dot segments

Before a browser sends a request it takes the dot segments out of the path: a segment that is one
dot is left out, and two dots take back the segment before.  A dot stands for itself in a path, so an
id that is a dot or two is such a segment.

## What is here

* `removeDots`, `withoutDotSegments` — a path is read segment by segment and written without its dot
  segments.
* `removeDots_segment` — how one segment is read; `removeDots_pathOf` — a path without dot segments
  stays as it is.
* `withoutDotSegments_customerSpendPath` — **where the request for the spending of a customer
  goes**; `not_withoutDotSegments_twoDots` — not always where it was sent.
-/

set_option autoImplicit false

namespace BillingConsole

/-! ## Taking dot segments out -/

/-- The start of a path up to its next slash. -/
def firstSegment (path : List Char) : List Char := path.takeWhile (· != '/')

/-- The rest of a path from its next slash on. -/
def afterSegment (path : List Char) : List Char := path.dropWhile (· != '/')

/-- What is left to read of a path after a dot segment.  A path that ends in one keeps the slash
before it. -/
def keepSlash (rest : List Char) : List Char := if rest = [] then ['/'] else rest

/-- A path without its last segment and the slash before it. -/
def dropSegment (path : List Char) : List Char := (dropEndWhile (· != '/') path).dropLast

theorem firstSegment_append_afterSegment (path : List Char) :
    firstSegment path ++ afterSegment path = path := List.takeWhile_append_dropWhile

theorem length_afterSegment_le (path : List Char) : (afterSegment path).length ≤ path.length :=
  List.length_dropWhile_le _ _

theorem length_afterSegment_lt {path : List Char} (h : firstSegment path ≠ []) :
    (afterSegment path).length < path.length := by
  have hlength := congrArg List.length (firstSegment_append_afterSegment path)
  have hpos := List.length_pos_iff.2 h
  rw [List.length_append] at hlength
  omega

/-- The slash that is kept is not longer than the segment before it. -/
theorem length_keepSlash_le {path : List Char} (h : firstSegment path ≠ []) :
    (keepSlash (afterSegment path)).length ≤ path.length := by
  have hlt := length_afterSegment_lt h
  rw [keepSlash]
  split
  · exact Nat.one_le_of_lt hlt
  · exact hlt.le

theorem firstSegment_ne_nil {c : Char} (h : c ≠ '/') (path : List Char) :
    firstSegment (c :: path) ≠ [] := by
  simp [firstSegment, h]

/-- A path is read segment by segment, each with the slash before it, and written again.  A segment
that is one dot is not written, and two dots take back the segment that was written last.  Where
there is no slash before a dot segment, it is passed over with the slash behind it. -/
def removeDots (written : List Char) : List Char → List Char
  | [] => written
  | c :: path =>
    if c = '/' then
      if firstSegment path = ['.'] then
        removeDots written (keepSlash (afterSegment path))
      else if firstSegment path = ['.', '.'] then
        removeDots (dropSegment written) (keepSlash (afterSegment path))
      else
        removeDots (written ++ '/' :: firstSegment path) (afterSegment path)
    else
      if firstSegment (c :: path) = ['.'] ∨ firstSegment (c :: path) = ['.', '.'] then
        removeDots written ((afterSegment (c :: path)).drop 1)
      else
        removeDots (written ++ firstSegment (c :: path)) (afterSegment (c :: path))
termination_by path => path.length
decreasing_by
  · next hone => exact Nat.lt_succ_of_le (length_keepSlash_le (by simp [hone]))
  · next htwo => exact Nat.lt_succ_of_le (length_keepSlash_le (by simp [htwo]))
  · exact Nat.lt_succ_of_le (length_afterSegment_le path)
  · next hslash _ =>
    have hlt := length_afterSegment_lt (firstSegment_ne_nil hslash path)
    rw [List.length_drop]
    omega
  · next hslash _ => exact length_afterSegment_lt (firstSegment_ne_nil hslash path)

/-- The path that a browser asks for. -/
def withoutDotSegments (path : String) : String := String.ofList (removeDots [] path.toList)

/-! ## Paths of segments -/

theorem all_ne_slash {segment : List Char} (h : '/' ∉ segment) :
    ∀ c ∈ segment, (c != '/') = true := by
  intro c hc
  have hne : c ≠ '/' := fun heq => h (heq ▸ hc)
  simpa using hne

/-- The segment of a path is followed by its end or by a slash. -/
theorem firstSegment_append {segment rest : List Char} (hsegment : '/' ∉ segment)
    (hrest : ∀ c ∈ rest.head?, c = '/') : firstSegment (segment ++ rest) = segment :=
  takeWhile_append_of_stop (all_ne_slash hsegment) fun c hc => by simpa using hrest c hc

theorem afterSegment_append {segment rest : List Char} (hsegment : '/' ∉ segment)
    (hrest : ∀ c ∈ rest.head?, c = '/') : afterSegment (segment ++ rest) = rest := by
  have hboth := firstSegment_append_afterSegment (segment ++ rest)
  rw [firstSegment_append hsegment hrest] at hboth
  exact List.append_cancel_left hboth

theorem head?_pathOf {segments : List (List Char)} : ∀ c ∈ (pathOf segments).head?, c = '/' := by
  cases segments <;> simp

/-- How one segment of a path is read. -/
theorem removeDots_segment (written : List Char) {segment : List Char}
    {segments : List (List Char)} (hsegment : '/' ∉ segment) :
    removeDots written (pathOf (segment :: segments)) =
      if segment = ['.'] then removeDots written (keepSlash (pathOf segments))
      else if segment = ['.', '.'] then
        removeDots (dropSegment written) (keepSlash (pathOf segments))
      else removeDots (written ++ pathOf [segment]) (pathOf segments) := by
  rw [pathOf_cons, removeDots, if_pos rfl, firstSegment_append hsegment head?_pathOf,
    afterSegment_append hsegment head?_pathOf, pathOf_cons, pathOf_nil, List.append_nil]

/-- A segment that is kept: it is neither a dot nor two, and has no slash inside. -/
structure IsKept (segment : List Char) : Prop where
  slash : '/' ∉ segment
  one : segment ≠ ['.']
  two : segment ≠ ['.', '.']

theorem removeDots_kept (written : List Char) {segment : List Char} (h : IsKept segment)
    (segments : List (List Char)) :
    removeDots written (pathOf (segment :: segments)) =
      removeDots (written ++ pathOf [segment]) (pathOf segments) := by
  rw [removeDots_segment written h.slash, if_neg h.one, if_neg h.two]

/-- **A path without dot segments stays as it is.** -/
theorem removeDots_pathOf (written : List Char) {segments : List (List Char)}
    (h : ∀ segment ∈ segments, IsKept segment) :
    removeDots written (pathOf segments) = written ++ pathOf segments := by
  induction segments generalizing written with
  | nil => rw [pathOf_nil, removeDots, List.append_nil]
  | cons segment segments ih =>
    have hrest := ih (written ++ pathOf [segment]) fun other hother =>
      h other (List.mem_cons_of_mem _ hother)
    rw [removeDots_kept written (h segment List.mem_cons_self), hrest]
    simp

/-! ## Dot segments on the way -/

theorem keepSlash_pathOf (segment : List Char) (segments : List (List Char)) :
    keepSlash (pathOf (segment :: segments)) = pathOf (segment :: segments) := if_neg (by simp)

/-- One dot is left out. -/
theorem removeDots_oneDot (written next : List Char) (segments : List (List Char)) :
    removeDots written (pathOf (['.'] :: next :: segments)) =
      removeDots written (pathOf (next :: segments)) := by
  rw [removeDots_segment written (by decide), if_pos rfl, keepSlash_pathOf]

theorem dropSegment_append (written : List Char) {segment : List Char} (h : '/' ∉ segment) :
    dropSegment (written ++ pathOf [segment]) = written := by
  have hpath : written ++ pathOf [segment] = written ++ ['/'] ++ segment := by simp
  rw [dropSegment, hpath, dropEndWhile_append (all_ne_slash h) (by simp),
    List.dropLast_concat]

/-- Two dots take back the segment before them. -/
theorem removeDots_twoDots (written next : List Char) {last : List Char} (h : '/' ∉ last)
    (segments : List (List Char)) :
    removeDots (written ++ pathOf [last]) (pathOf (['.', '.'] :: next :: segments)) =
      removeDots written (pathOf (next :: segments)) := by
  rw [removeDots_segment _ (by decide), if_neg (by decide), if_pos rfl, keepSlash_pathOf,
    dropSegment_append written h]

example : withoutDotSegments "/a/b/c/./../../g" = "/a/g" := by cbv

/-- A path that does not begin with a slash. -/
example : withoutDotSegments "mid/content=5/../6" = "mid/6" := by cbv

/-! ## Where a request for a customer goes -/

theorem isKept_customer : IsKept "customer".toList := ⟨by decide, by decide, by decide⟩

theorem isKept_spend : IsKept "spend".toList := ⟨by decide, by decide, by decide⟩

/-- Only a dot and two dots are written as dot segments. -/
theorem isKept_encodeSegment {id : String} (hone : id ≠ ".") (htwo : id ≠ "..") :
    IsKept (encodeSegment id.toList) where
  slash := (isSegmentText_encodeSegment _).not_mem.1
  one h := hone (String.toList_inj.1 (encodeSegment_injective h))
  two h := htwo (String.toList_inj.1 (encodeSegment_injective h))

/-- The first segment is kept, whatever the id. -/
theorem withoutDotSegments_customer (id : String) :
    withoutDotSegments (customerSpendPath id) = String.ofList
      (removeDots ([] ++ pathOf ["customer".toList])
        (pathOf [encodeSegment id.toList, "spend".toList])) := by
  rw [withoutDotSegments, toList_customerSpendPath, customerSegments,
    removeDots_kept [] isKept_customer]

/-- The last segment is kept. -/
theorem removeDots_spend (written : List Char) :
    removeDots written (pathOf ["spend".toList]) = written ++ pathOf ["spend".toList] :=
  removeDots_pathOf written (by simpa using isKept_spend)

/-- One dot leads to the report of all customers. -/
theorem withoutDotSegments_oneDot : withoutDotSegments (customerSpendPath ".") = spendPath := by
  have hsegment : encodeSegment ".".toList = ['.'] := by decide
  rw [withoutDotSegments_customer, hsegment, removeDots_oneDot, removeDots_spend]
  rfl

/-- Two dots lead out of the customers. -/
theorem withoutDotSegments_twoDots : withoutDotSegments (customerSpendPath "..") = "/spend" := by
  have hsegment : encodeSegment "..".toList = ['.', '.'] := by decide
  rw [withoutDotSegments_customer, hsegment, removeDots_twoDots [] _ isKept_customer.slash,
    removeDots_spend]
  rfl

/-- Any other id stays where it was put. -/
theorem withoutDotSegments_eq_self {id : String} (hone : id ≠ ".") (htwo : id ≠ "..") :
    withoutDotSegments (customerSpendPath id) = customerSpendPath id := by
  have hkept : ∀ segment ∈ customerSegments id, IsKept segment := by
    simpa [customerSegments] using
      And.intro isKept_customer (And.intro (isKept_encodeSegment hone htwo) isKept_spend)
  rw [withoutDotSegments, toList_customerSpendPath, removeDots_pathOf [] hkept, List.nil_append,
    ← toList_customerSpendPath, String.ofList_toList]

/-- The path of a customer is one below the customers, and not that of the report. -/
theorem below_customerSpendPath (id : String) :
    "/customer/".toList <+: (customerSpendPath id).toList ∧ customerSpendPath id ≠ spendPath := by
  constructor
  · exact (isBillingPath_customerSpendPath id).isPrefix
  · intro h
    have hparts := splitOn_customerSpendPath id
    have hreport : spendPath.toList.splitOn '/' = [[], "customer".toList, "spend".toList] := by
      decide
    rw [h, hreport, customerSegments] at hparts
    simp at hparts

/-- **Where the request for the spending of a customer goes.**  For every id but a dot and two dots
it goes to the path it was sent to, which is one below the customers and not that of the report.  An
id that is a dot leads to the report of all customers, and two dots lead out of the customers. -/
theorem withoutDotSegments_customerSpendPath (id : String) :
    if id = "." then withoutDotSegments (customerSpendPath id) = "/customer/spend"
    else if id = ".." then withoutDotSegments (customerSpendPath id) = "/spend"
    else withoutDotSegments (customerSpendPath id) = customerSpendPath id ∧
      "/customer/".toList <+: (customerSpendPath id).toList ∧
      customerSpendPath id ≠ "/customer/spend" := by
  split
  · next h => rw [h, withoutDotSegments_oneDot, spendPath]
  · next hone =>
    split
    · next h => rw [h, withoutDotSegments_twoDots]
    · next htwo => exact ⟨withoutDotSegments_eq_self hone htwo, below_customerSpendPath id⟩

/-- Not every request goes to the path it was sent to. -/
theorem not_withoutDotSegments_twoDots :
    withoutDotSegments (customerSpendPath "..") ≠ customerSpendPath ".." := by
  rw [withoutDotSegments_twoDots]
  decide

end BillingConsole
