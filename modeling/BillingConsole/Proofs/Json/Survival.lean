import BillingConsole.Proofs.Json.Document
import BillingConsole.Proofs.Json.Double

/-!
# What is written is decoded again

Whether a value comes back from the text it was written as is decided type by type.  Texts, truth
values and integers always come back, doubles if they are finite and their decimal reads back, and
lists and tables if their values do — in a table, only if no name stands in it twice.  A decoder
never yields such a table, nor a double that is not finite.

## What is here

* `Yields` — what every decoded value has.
* `Survives` — a value comes back.
* `survives_text`, `survives_word64`, `survives_double`, `survives_nullable`, `survives_list`,
  `survives_mapping` — which values of each type do.
* `yields_nullable`, `yields_list`, `yields_mapping` — what is decoded.
* `SurvivesWire.of_yields` — **what a decoder yields comes back from the text it is written as**, if
  what its values have is enough for that.
-/

set_option autoImplicit false

namespace BillingConsole.Json

variable {α β : Type}

/-- Every value that is decoded has a property. -/
def Yields (decoder : Decoder α) (P : α → Prop) : Prop :=
  ∀ tree a, decoder tree = .ok a → P a

/-- A value is decoded again from what was written for it, if the decimals of its doubles read
back. -/
def Survives (decoder : Decoder α) (encode : α → Value) (a : α) : Prop :=
  (encode a).ReadsBack → decoder (encode a).tree = .ok a

/-! ## Single values -/

theorem survives_text (s : String) : Survives text .text s :=
  fun _ => text_textLiteral s

theorem survives_boolean (b : Bool) : Survives boolean .bool b :=
  fun _ => rfl

/-- An integer comes back within bounds that leave it 64 bits. -/
theorem integerWithin_integer {low high n : ℤ} (hlow : -(2 : ℤ) ^ 63 ≤ low)
    (hhigh : high < (2 : ℤ) ^ 64) (h : low ≤ n ∧ n ≤ high) (expected : String) :
    integerWithin low high expected (Value.integer n).tree = .ok n := by
  rw [Value.tree, integerWithin, numeral_integerLiteral (hlow.trans h.1) (h.2.trans_lt hhigh)]
  exact if_pos h

theorem survives_word64 (n : UInt64) : Survives word64 (fun n => .integer n.toNat) n := by
  intro _
  have hsize : ((UInt64.size : ℕ) : ℤ) = 2 ^ 64 := rfl
  have hlt := UInt64.toNat_lt_size n
  rw [word64, integerWithin_integer (by decide) (by omega) (by omega), Except.map,
    Int.toNat_natCast, UInt64.ofNat_toNat]

theorem survives_word32 (n : UInt32) : Survives word32 (fun n => .integer n.toNat) n := by
  intro _
  have hsize : ((UInt32.size : ℕ) : ℤ) = 2 ^ 32 := rfl
  have hlt := UInt32.toNat_lt_size n
  rw [word32, integerWithin_integer (by decide) (by omega) (by omega), Except.map,
    Int.toNat_natCast, UInt32.ofNat_toNat]

theorem survives_signed64 (n : Int64) : Survives signed64 (fun n => .integer n.toInt) n := by
  intro _
  have hlow : Int64.minValue.toInt = -2 ^ 63 := by decide
  have hhigh : Int64.maxValue.toInt = 2 ^ 63 - 1 := by decide
  have hle := Int64.le_toInt n
  have hlt := Int64.toInt_lt n
  rw [signed64, integerWithin_integer (by omega) (by omega) (by omega), Except.map,
    Int64.ofInt_toInt]

/-- A finite double has a decimal, and so comes back. -/
theorem survives_double {d : Binary64} (hd : d.isFinite = true) : Survives double .double d := by
  intro hreads
  obtain ⟨text, htext⟩ : ∃ text, d.numeral? = some text := by
    cases d with
    | nan => cases hd
    | infinite => cases hd
    | finite negative m e h =>
      rw [Binary64.numeral?]
      split
      · exact ⟨_, rfl⟩
      · exact ⟨_, rfl⟩
  have hdecode := hreads d List.mem_cons_self text htext
  rw [Value.tree, Value.toText, Value.write, htext, Option.getD_some]
  exact (decode_eq_ok_iff.1 hdecode).1

theorem yields_double : Yields double fun d => d.isFinite = true :=
  fun _ _ => isFinite_of_double

/-! ## Values that may be missing -/

/-- Null stands for no value. -/
def RefusesNull (decoder : Decoder α) : Prop := ∀ a, decoder .null ≠ .ok a

theorem refusesNull_text : RefusesNull text := by
  intro s h
  cases h

theorem refusesNull_double : RefusesNull double := by
  intro d h
  cases h

theorem refusesNull_signed64 : RefusesNull signed64 := by
  intro n h
  cases h

theorem refusesNull_word32 : RefusesNull word32 := by
  intro n h
  cases h

theorem refusesNull_record (name : String) (fields : List FieldCheck)
    (build : FieldValues → Except DecodeError α) : RefusesNull (record name fields build) := by
  intro a h
  cases h

theorem yields_nullable {decoder : Decoder α} {P : α → Prop} (h : Yields decoder P) :
    Yields (nullable decoder) fun a? => ∀ a ∈ a?, P a := by
  intro tree a? htree a ha
  cases ha
  cases tree with
  | null => cases htree
  | bool | number | string | array | object | broken =>
    obtain ⟨b, hb, heq⟩ := exists_of_map htree
    cases heq
    exact h _ _ hb

/-- What may be missing comes back, unless null itself stands for a value. -/
theorem survives_nullable {decoder : Decoder α} {encode : α → Value}
    (hnull : RefusesNull decoder) {a? : Option α}
    (h : ∀ a ∈ a?, Survives decoder encode a) :
    Survives (nullable decoder) (.ofOption encode) a? := by
  intro hreads
  cases a? with
  | none => rfl
  | some a =>
    have htree := h a rfl hreads
    have hmap : nullable decoder (encode a).tree = (decoder (encode a).tree).map some := by
      rw [nullable.eq_def]
      split
      · next heq =>
        rw [heq] at htree
        exact absurd htree (hnull a)
      · rfl
    rw [Value.ofOption, hmap, htree]
    rfl

/-! ## Lists -/

theorem yields_list {decoder : Decoder α} {P : α → Prop} (h : Yields decoder P) :
    Yields (list decoder) fun values => ∀ a ∈ values, P a := by
  have hitems (items : List Tree) (values : List α) (hvalues : items.mapM decoder = .ok values) :
      ∀ a ∈ values, P a := by
    induction items generalizing values with
    | nil =>
      cases hvalues
      exact List.forall_mem_nil _
    | cons item items ih =>
      rw [List.mapM_cons] at hvalues
      obtain ⟨value, hvalue, hvalues⟩ := exists_of_bind hvalues
      obtain ⟨more, hmore, heq⟩ := exists_of_bind hvalues
      cases heq
      exact List.forall_mem_cons.2 ⟨h _ _ hvalue, ih _ hmore⟩
  intro tree values htree
  cases tree with
  | array items stop =>
    obtain ⟨decoded, hdecoded, hend⟩ := exists_of_bind htree
    obtain ⟨_, -, heq⟩ := exists_of_bind hend
    cases heq
    exact hitems _ _ hdecoded
  | null | bool | number | string | object | broken => cases htree

theorem survives_list {decoder : Decoder α} {encode : α → Value} {values : List α}
    (h : ∀ a ∈ values, Survives decoder encode a) :
    Survives (list decoder) (fun values => .list (values.map encode)) values := by
  intro hreads
  have hitems : ((values.map encode).map Value.tree).mapM decoder = .ok values := by
    rw [Value.readsBack_list, List.forall_mem_map] at hreads
    induction values with
    | nil => rfl
    | cons a rest ih =>
      rw [List.forall_mem_cons] at h hreads
      rw [List.map_cons, List.map_cons, List.mapM_cons, h.1 hreads.1, ih h.2 hreads.2]
      rfl
  rw [Value.tree, Value.itemTrees_eq_map, list, hitems]
  rfl

/-! ## Tables -/

/-- No name stands in a table twice. -/
def DistinctNames (entries : List (String × α)) : Prop := (entries.map (·.1)).Nodup

theorem mem_setEntry {name : String} {value : α} {entries : List (String × α)}
    {entry : String × α} (h : entry ∈ setEntry name value entries) :
    entry = (name, value) ∨ entry ∈ entries := by
  induction entries with
  | nil => exact .inl (List.mem_singleton.1 h)
  | cons first rest ih =>
    rw [setEntry] at h
    split at h
    · rcases List.mem_cons.1 h with heq | hmem
      · exact .inl heq
      · exact .inr (List.mem_cons_of_mem _ hmem)
    · rcases List.mem_cons.1 h with heq | hmem
      · exact .inr (heq ▸ List.mem_cons_self)
      · exact (ih hmem).imp_right (List.mem_cons_of_mem _)

/-- Setting a name adds it at most once. -/
theorem DistinctNames.setEntry {entries : List (String × α)} (h : DistinctNames entries)
    (name : String) (value : α) : DistinctNames (setEntry name value entries) := by
  induction entries with
  | nil => exact List.nodup_singleton name
  | cons first rest ih =>
    obtain ⟨hfirst, hrest⟩ := List.nodup_cons.1 h
    rw [BillingConsole.setEntry]
    split
    · next heq => exact List.nodup_cons.2 ⟨heq ▸ hfirst, hrest⟩
    · next hne =>
      refine List.nodup_cons.2 ⟨fun hmem => ?_, ih hrest⟩
      obtain ⟨entry, hentry, heq⟩ := List.mem_map.1 hmem
      rcases mem_setEntry hentry with rfl | hold
      · exact hne heq.symm
      · exact hfirst (heq ▸ List.mem_map_of_mem hold)

/-- A name that is new is put last. -/
theorem setEntry_of_not_mem {name : String} {entries : List (String × α)}
    (h : name ∉ entries.map (·.1)) (value : α) :
    setEntry name value entries = entries ++ [(name, value)] := by
  induction entries with
  | nil => rfl
  | cons first rest ih =>
    rw [List.map_cons, List.mem_cons, not_or] at h
    rw [setEntry, if_neg (Ne.symm h.1), ih h.2]
    rfl

theorem yields_mapping {decoder : Decoder α} {P : α → Prop} (h : Yields decoder P) :
    Yields (mapping decoder) fun entries =>
      DistinctNames entries ∧ ∀ entry ∈ entries, P entry.2 := by
  -- each entry that is added keeps both properties
  have hcollect (members : List (StringLiteral × Tree)) (found entries : List (String × α))
      (hfound : DistinctNames found ∧ ∀ entry ∈ found, P entry.2)
      (hentries : collectEntries decoder found members = .ok entries) :
      DistinctNames entries ∧ ∀ entry ∈ entries, P entry.2 := by
    induction members generalizing found with
    | nil =>
      cases hentries
      exact hfound
    | cons member members ih =>
      rw [collectEntries] at hentries
      obtain ⟨name, -, hentries⟩ := exists_of_bind hentries
      obtain ⟨value, hvalue, hentries⟩ := exists_of_bind hentries
      refine ih _ ⟨hfound.1.setEntry name value, fun entry hentry => ?_⟩ hentries
      rcases mem_setEntry hentry with rfl | hold
      · exact h _ _ hvalue
      · exact hfound.2 entry hold
  intro tree entries htree
  cases tree with
  | object members stop =>
    obtain ⟨decoded, hdecoded, hend⟩ := exists_of_bind htree
    obtain ⟨_, -, heq⟩ := exists_of_bind hend
    cases heq
    have hnone : DistinctNames ([] : List (String × α)) := List.nodup_nil
    exact hcollect _ _ _ ⟨hnone, List.forall_mem_nil _⟩ hdecoded
  | null | bool | number | string | array | broken => cases htree

/-- A table comes back with its entries in their order. -/
theorem survives_mapping {decoder : Decoder α} {encode : α → Value} {entries : List (String × α)}
    (hnames : DistinctNames entries) (h : ∀ entry ∈ entries, Survives decoder encode entry.2) :
    Survives (mapping decoder)
      (fun entries => .record (entries.map fun entry => (entry.1, encode entry.2))) entries := by
  intro hreads
  have hcollect (found : List (String × α)) (hdistinct : DistinctNames (found ++ entries)) :
      collectEntries decoder found
        (Value.memberTrees (entries.map fun entry => (entry.1, encode entry.2))) =
      .ok (found ++ entries) := by
    rw [Value.readsBack_record, List.forall_mem_map] at hreads
    induction entries generalizing found with
    | nil => rw [List.append_nil]; rfl
    | cons entry rest ih =>
      rw [List.forall_mem_cons] at h hreads
      have hnew : entry.1 ∉ found.map (·.1) := by
        intro hmem
        rw [DistinctNames, List.map_append, List.map_cons] at hdistinct
        exact (List.nodup_append'.1 hdistinct).2.2 hmem List.mem_cons_self
      rw [List.map_cons, Value.memberTrees, collectEntries, text_textLiteral]
      have hvalue := h.1 hreads.1
      have hsplit : found ++ entry :: rest = (found ++ [(entry.1, entry.2)]) ++ rest := by
        rw [List.append_assoc]
        rfl
      rw [hsplit] at hdistinct ⊢
      simp only [hvalue, bind, Except.bind, setEntry_of_not_mem hnew]
      exact ih (List.nodup_cons.1 hnames).2 h.2 hreads.2 _ hdistinct
  show mapping decoder (.object (Value.memberTrees _) .closed) = .ok entries
  rw [mapping, hcollect [] hnames]
  rfl

/-! ## Whole texts -/

/-- What was decoded from a text is decoded again from the text that is written for it. -/
def SurvivesWire (decoder : Decoder α) (encode : α → Value) : Prop :=
  ∀ text a, decode decoder text = .ok a → (encode a).ReadsBack →
    decode decoder (encode a).toText = .ok a

/-- What a decoded value has is enough for it to come back. -/
theorem SurvivesWire.of_yields {decoder : Decoder α} {encode : α → Value} {P : α → Prop}
    (hyields : Yields decoder P) (h : ∀ {a}, P a → Survives decoder encode a) :
    SurvivesWire decoder encode := by
  intro text a htext hreads
  have hsound : P a := hyields _ _ (decode_eq_ok_iff.1 htext).1
  exact decode_toText hreads (h hsound hreads)

end BillingConsole.Json
