import BillingConsole.Gateway.Address
import BillingConsole.Proofs.Text.Percent

/-!
# Ids in one segment of a path

The id of a customer may be any text.  Escaped it is one segment of the path under which the
spending of the customer is asked for: no character of an id separates segments or ends the path, and
the id is read back from its segment.

## What is here

* `IsSegmentText` — letters, digits, four other characters and escapes;
  `isSegmentText_encodeSegment` — what is written is of this kind.
* `decode_encodeSegment`, `encodeSegment_injective` — the text is read back from its segment.
* `pathOf`, `splitOn_pathOf` — segments joined to a path, and found in it.
* `splitOn_customerSpendPath` — the parts of the path of a customer.
* `customerSpendPath_oneSegment` — **an id stays in its segment.**
-/

set_option autoImplicit false

namespace BillingConsole

open Json (hexValue?)

/-! ## Segments -/

/-- A text of letters, digits, hyphens, dots, underscores and tildes, and of percent signs with two
hexadecimal digits behind them. -/
inductive IsSegmentText : List Char → Prop where
  | nil : IsSegmentText []
  | plain {c : Char} {rest : List Char} (hc : c.isAlphanum = true ∨ c ∈ ['-', '.', '_', '~'])
      (hrest : IsSegmentText rest) : IsSegmentText (c :: rest)
  | escape {high low : Char} {rest : List Char} (hhigh : (hexValue? high).isSome = true)
      (hlow : (hexValue? low).isSome = true) (hrest : IsSegmentText rest) :
      IsSegmentText ('%' :: high :: low :: rest)

theorem isUnreserved_iff {c : Char} :
    isUnreserved c = true ↔ c.isAlphanum = true ∨ c ∈ ['-', '.', '_', '~'] := by
  simp [isUnreserved, or_assoc]

namespace IsSegmentText

theorem append {text rest : List Char} (h : IsSegmentText text) (hrest : IsSegmentText rest) :
    IsSegmentText (text ++ rest) := by
  induction h with
  | nil => exact hrest
  | plain hc _ ih => exact .plain hc ih
  | escape hhigh hlow _ ih => exact .escape hhigh hlow ih

/-- The escapes of bytes are a segment. -/
theorem escapes (bytes : List UInt8) : IsSegmentText (bytes.flatMap percentEscape) := by
  induction bytes with
  | nil => exact .nil
  | cons byte bytes ih =>
    have hlt : byte.toNat < 256 := byte.toNat_lt
    refine .escape ?_ ?_ ih
    · rw [hexValue?_capitalHexDigit (by omega), Option.isSome_some]
    · rw [hexValue?_capitalHexDigit (by omega), Option.isSome_some]

/-- Only the characters of escapes and those that stand for themselves are in a segment. -/
theorem of_mem {text : List Char} (h : IsSegmentText text) {c : Char} (hc : c ∈ text) :
    isUnreserved c = true ∨ c = '%' ∨ (hexValue? c).isSome = true := by
  induction h with
  | nil => simp at hc
  | plain hplain _ ih =>
    rcases List.mem_cons.1 hc with rfl | hc
    · exact .inl (isUnreserved_iff.2 hplain)
    · exact ih hc
  | escape hhigh hlow _ ih =>
    rcases List.mem_cons.1 hc with rfl | hc
    · exact .inr (.inl rfl)
    rcases List.mem_cons.1 hc with rfl | hc
    · exact .inr (.inr hhigh)
    rcases List.mem_cons.1 hc with rfl | hc
    · exact .inr (.inr hlow)
    · exact ih hc

/-- Nothing in a segment separates it from the next one, or from a query or fragment. -/
theorem not_mem {text : List Char} (h : IsSegmentText text) :
    '/' ∉ text ∧ '?' ∉ text ∧ '#' ∉ text := by
  refine ⟨fun hc => ?_, fun hc => ?_, fun hc => ?_⟩
  all_goals
    have hof := h.of_mem hc
    revert hof
    decide

end IsSegmentText

/-! ## Texts as segments -/

/-- What is written for a text is a segment. -/
theorem isSegmentText_encodeSegment (text : List Char) : IsSegmentText (encodeSegment text) := by
  induction text with
  | nil => exact .nil
  | cons c text ih =>
    have hcons : encodeSegment (c :: text) =
        (if isUnreserved c then [c] else (String.utf8EncodeChar c).flatMap percentEscape) ++
          encodeSegment text := rfl
    rw [hcons]
    refine IsSegmentText.append ?_ ih
    split
    · next hc => exact .plain (isUnreserved_iff.1 hc) .nil
    · exact .escapes _

/-- A text is read back from its segment. -/
theorem decode_encodeSegment (text : List Char) :
    percentDecode? (encodeSegment text) = some (String.ofList text) :=
  percentDecode?_percentEncode (by decide) text

theorem encodeSegment_injective : Function.Injective encodeSegment := by
  intro text other h
  have hread := decode_encodeSegment text
  rw [h, decode_encodeSegment other, Option.some_inj, String.ofList_inj] at hread
  exact hread.symm

/-! ## Paths -/

/-- The path with these segments: a slash comes before each. -/
def pathOf (segments : List (List Char)) : List Char :=
  segments.flatMap fun segment => '/' :: segment

@[simp] theorem pathOf_nil : pathOf [] = [] := rfl

@[simp] theorem pathOf_cons (segment : List Char) (segments : List (List Char)) :
    pathOf (segment :: segments) = '/' :: (segment ++ pathOf segments) := rfl

theorem append_pathOf (first : List Char) (segments : List (List Char)) :
    first ++ pathOf segments = ['/'].intercalate (first :: segments) := by
  induction segments generalizing first with
  | nil => simp
  | cons segment segments ih =>
    rw [pathOf_cons, ih, List.intercalate_cons_cons, List.append_assoc, List.singleton_append]

/-- A path is split into its segments, with nothing before the first slash. -/
theorem splitOn_pathOf {segments : List (List Char)} (h : ∀ segment ∈ segments, '/' ∉ segment) :
    (pathOf segments).splitOn '/' = [] :: segments := by
  rw [← List.nil_append (pathOf segments), append_pathOf]
  exact List.splitOn_intercalate '/' (by simpa using h) (by simp)

/-- The segments of the path under which the spending of a customer is asked for. -/
def customerSegments (id : String) : List (List Char) :=
  ["customer".toList, encodeSegment id.toList, "spend".toList]

theorem toList_customerSpendPath (id : String) :
    (customerSpendPath id).toList = pathOf (customerSegments id) := by
  have hstart : "/customer/".toList = '/' :: ("customer".toList ++ ['/']) := by decide
  have hstop : "/spend".toList = '/' :: ("spend".toList ++ []) := by decide
  have hparts : (customerSpendPath id).toList =
      "/customer/".toList ++ encodeSegment id.toList ++ "/spend".toList := String.toList_ofList
  rw [hparts, hstart, hstop, customerSegments]
  simp only [pathOf_cons, pathOf_nil, List.cons_append, List.append_assoc, List.nil_append]

theorem not_slash_mem_customerSegments {id : String} {segment : List Char}
    (h : segment ∈ customerSegments id) : '/' ∉ segment := by
  simp only [customerSegments, List.mem_cons, List.not_mem_nil, or_false] at h
  rcases h with rfl | rfl | rfl
  · decide
  · exact (isSegmentText_encodeSegment _).not_mem.1
  · decide

/-- The path of a customer has four parts: nothing, and its three segments. -/
theorem splitOn_customerSpendPath (id : String) :
    (customerSpendPath id).toList.splitOn '/' = [] :: customerSegments id := by
  rw [toList_customerSpendPath, splitOn_pathOf fun _ => not_slash_mem_customerSegments]

theorem customerSpendPath_injective : Function.Injective customerSpendPath := by
  intro id other h
  have hparts := splitOn_customerSpendPath id
  rw [h, splitOn_customerSpendPath other] at hparts
  have hsegment : encodeSegment other.toList = encodeSegment id.toList := by
    simpa [customerSegments] using hparts
  exact (String.toList_inj.1 (encodeSegment_injective hsegment)).symm

/-- No id brings a query or a fragment into the path. -/
theorem not_mem_customerSpendPath (id : String) :
    '?' ∉ (customerSpendPath id).toList ∧ '#' ∉ (customerSpendPath id).toList := by
  have hid := (isSegmentText_encodeSegment id.toList).not_mem
  rw [toList_customerSpendPath]
  constructor
  · simp [customerSegments, hid.2.1]
  · simp [customerSegments, hid.2.2]

/-- **An id stays in its segment.**  Whatever the id, the path under which the spending of the
customer is asked for has four parts, of which the third is a segment that is read back as the id;
it has no query and no fragment, and no other id has the same path. -/
theorem customerSpendPath_oneSegment (id : String) :
    (∃ segment, (customerSpendPath id).toList.splitOn '/' =
        [[], "customer".toList, segment, "spend".toList] ∧
      IsSegmentText segment ∧ percentDecode? segment = some id) ∧
    ('?' ∉ (customerSpendPath id).toList ∧ '#' ∉ (customerSpendPath id).toList) ∧
    ∀ other, other ≠ id → customerSpendPath other ≠ customerSpendPath id := by
  refine ⟨⟨_, splitOn_customerSpendPath id, isSegmentText_encodeSegment _, ?_⟩,
    not_mem_customerSpendPath id, fun other => customerSpendPath_injective.ne⟩
  rw [decode_encodeSegment, String.ofList_toList]

/-- An id that looks like a path with a query and an escape. -/
def hostileId : String := "é/../%2F?x#y"

theorem customerSpendPath_oneSegment_hostile :
    customerSpendPath hostileId = "/customer/%C3%A9%2F..%2F%252F%3Fx%23y/spend" ∧
      ((customerSpendPath hostileId).toList.splitOn '/').length = 4 ∧
      "é//%2F?x#y" ≠ hostileId ∧
      customerSpendPath "é//%2F?x#y" ≠ customerSpendPath hostileId := by
  have hne : "é//%2F?x#y" ≠ hostileId := by decide
  obtain ⟨⟨segment, hparts, -⟩, -, hother⟩ := customerSpendPath_oneSegment hostileId
  exact ⟨by decide, by rw [hparts]; rfl, hne, hother _ hne⟩

end BillingConsole
