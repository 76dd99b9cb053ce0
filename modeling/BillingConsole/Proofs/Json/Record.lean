import BillingConsole.Proofs.Json.Survival

/-!
# Records come back

A record is written field by field and decoded by the names of its fields.  It comes back if each
value that is written comes back and no field answers to the name of a later one; fields may be
left out, as long as those that are written keep their order.

## What is here

* `Slot` — a field with the value that is written for it.
* `FieldCheck.Apart` — no field answers to the name of a later one.
* `collectMembers_slots` — every value that was written is found under its field.
* `survives_record` — **a record comes back if its fields do.**
* `Slot.ofOption`, `omissible_of_found` — a field that is left out where its value is missing.
* `exists_build_of_record`, `Yields.required`, `Yields.withDefault` — what the fields of a decoded
  record have.
-/

set_option autoImplicit false

namespace BillingConsole.Json

variable {α β : Type}

/-- A field of a record with what is written for it. -/
structure Slot where
  {α : Type}
  field : RecordField α
  encode : α → Value
  value : α

namespace Slot

/-- The member that is written. -/
def member (slot : Slot) : String × Value := (slot.field.name, slot.encode slot.value)

/-- The member as it is spelled. -/
def entry (slot : Slot) : String × Tree := (slot.field.name, (slot.encode slot.value).tree)

/-- The value is decoded again. -/
def Survives (slot : Slot) : Prop := Json.Survives slot.field.decoder slot.encode slot.value

/-- The value is decoded again from what was written. -/
def Decodes (slot : Slot) : Prop := slot.field.decoder slot.entry.2 = .ok slot.value

/-- The value is found under its field. -/
def IsFound (found : FieldValues) (slot : Slot) : Prop :=
  found.get? slot.field = .ok (some slot.value)

end Slot

/-! ## Fields by name -/

/-- No field answers to the name of a later one. -/
def FieldCheck.Apart (fields : List FieldCheck) : Prop :=
  fields.Pairwise fun field later => field.answers later.name = false

instance (fields : List FieldCheck) : Decidable (FieldCheck.Apart fields) := by
  unfold FieldCheck.Apart
  infer_instance

theorem FieldCheck.answers_self (field : FieldCheck) : field.answers field.name = true := by
  rw [answers, beq_self_eq_true, Bool.true_or]

/-- The first field that answers to the name of a field is that field. -/
theorem FieldCheck.Apart.find?_eq {fields : List FieldCheck} (apart : Apart fields)
    {field : FieldCheck} (hfield : field ∈ fields) :
    fields.find? (·.answers field.name) = some field := by
  induction fields with
  | nil => cases hfield
  | cons first rest ih =>
    obtain ⟨hfirst, hrest⟩ := List.pairwise_cons.1 apart
    rcases List.mem_cons.1 hfield with rfl | hmem
    · exact List.find?_cons_of_pos (answers_self field)
    · rw [List.find?_cons, hfirst field hmem]
      exact ih hrest hmem

/-- Fields that are apart have different names. -/
theorem FieldCheck.Apart.nodup {fields : List FieldCheck} (apart : Apart fields) :
    (fields.map (·.name)).Nodup := by
  refine List.pairwise_map.2 (List.Pairwise.imp (fun {field later} hfalse heq => ?_) apart)
  rw [← heq, answers_self] at hfalse
  cases hfalse

/-! ## Values by name -/

theorem lookup_of_mem {entries : List (String × α)} (hnames : DistinctNames entries)
    {name : String} {value : α} (h : (name, value) ∈ entries) :
    entries.lookup name = some value := by
  induction entries with
  | nil => cases h
  | cons first rest ih =>
    obtain ⟨hfirst, hrest⟩ := List.nodup_cons.1 hnames
    rw [lookup_cons_eq]
    rcases List.mem_cons.1 h with rfl | hmem
    · exact if_pos rfl
    · rw [if_neg fun heq => hfirst (List.mem_map.2 ⟨_, hmem, heq⟩), ih hrest hmem]

theorem lookup_of_not_mem {entries : List (String × α)} {name : String}
    (h : name ∉ entries.map (·.1)) : entries.lookup name = none := by
  rw [List.lookup_eq_none_iff]
  intro entry hentry
  exact bne_iff_ne.2 fun heq => h (heq ▸ List.mem_map_of_mem hentry)

/-! ## Written records -/

/-- Every value that was written is found under its field. -/
theorem collectMembers_slots {fields : List FieldCheck} (apart : FieldCheck.Apart fields)
    {slots : List Slot} (hfields : ∀ slot ∈ slots, slot.field.toCheck ∈ fields)
    (hdecodes : ∀ slot ∈ slots, slot.Decodes) {found : List (String × Tree)}
    (hnames : DistinctNames (found ++ slots.map Slot.entry)) :
    collectMembers fields found (Value.memberTrees (slots.map Slot.member)) =
      .ok (found ++ slots.map Slot.entry) := by
  induction slots generalizing found with
  | nil =>
    rw [List.map_nil, List.map_nil, List.append_nil]
    rfl
  | cons slot rest ih =>
    rw [List.forall_mem_cons] at hfields hdecodes
    have hnew : found.lookup slot.field.name = none := by
      refine lookup_of_not_mem fun hmem => ?_
      rw [DistinctNames, List.map_append, List.map_cons] at hnames
      exact (List.nodup_append'.1 hnames).2.2 hmem List.mem_cons_self
    have hfind := apart.find?_eq hfields.1
    have hcheck : slot.field.toCheck.check (slot.encode slot.value).tree = .ok () := by
      have hdecode : slot.field.decoder (slot.encode slot.value).tree = .ok slot.value := hdecodes.1
      exact congrArg (Except.map fun _ => ()) hdecode
    have hsplit : found ++ (slot :: rest).map Slot.entry =
        (found ++ [slot.entry]) ++ rest.map Slot.entry := by
      rw [List.append_assoc]
      rfl
    rw [hsplit] at hnames ⊢
    rw [← ih hfields.2 hdecodes.2 hnames, List.map_cons, Slot.member, Value.memberTrees,
      collectMembers, text_textLiteral]
    simp only [bind, Except.bind]
    rw [show slot.field.name = slot.field.toCheck.name from rfl, hfind]
    dsimp only
    rw [show slot.field.toCheck.name = slot.field.name from rfl, hnew, hcheck]
    rfl

/-- **A record comes back if its fields do** and what is found under them makes the record. -/
theorem survives_record {fields : List FieldCheck} (apart : FieldCheck.Apart fields)
    (slots : List Slot) (hsub : (slots.map (·.field.toCheck)).Sublist fields) {a : α}
    {encode : α → Value} (hencode : encode a = .record (slots.map Slot.member))
    (hslots : slots.Forall Slot.Survives) {build : FieldValues → Except DecodeError α}
    (hbuild : ∀ found : FieldValues, slots.Forall (Slot.IsFound found) →
      (∀ name, name ∉ slots.map (·.field.name) → found.values.lookup name = none) →
      found.positional = false → build found = .ok a)
    (name : String) :
    Survives (record name fields build) encode a := by
  intro hreads
  rw [hencode, Value.readsBack_record, List.forall_mem_map] at hreads
  rw [List.forall_iff_forall_mem] at hslots
  have hdecodes (slot : Slot) (hslot : slot ∈ slots) : slot.Decodes :=
    hslots slot hslot (hreads slot hslot)
  have hfields (slot : Slot) (hslot : slot ∈ slots) : slot.field.toCheck ∈ fields :=
    hsub.subset (List.mem_map_of_mem hslot)
  have hsame : (slots.map Slot.entry).map (·.1) = slots.map (·.field.name) := List.map_map
  have hnames : DistinctNames (slots.map Slot.entry) := by
    have hnodup := apart.nodup.sublist (hsub.map (·.name))
    rw [List.map_map] at hnodup
    rw [DistinctNames, hsame]
    exact hnodup
  have hcollect : collectMembers fields [] (Value.memberTrees (slots.map Slot.member)) =
      .ok (slots.map Slot.entry) :=
    collectMembers_slots apart hfields hdecodes hnames
  rw [hencode, Value.tree, record, hcollect]
  refine hbuild ⟨slots.map Slot.entry, .missingField, false⟩ ?_ ?_ rfl
  · rw [List.forall_iff_forall_mem]
    intro slot hslot
    have hmem : slot.entry ∈ slots.map Slot.entry := List.mem_map_of_mem hslot
    have hlookup := lookup_of_mem hnames hmem
    have hdecode : slot.field.decoder (slot.encode slot.value).tree = .ok slot.value :=
      hdecodes slot hslot
    rw [Slot.IsFound, FieldValues.get?, hlookup]
    dsimp only
    rw [hdecode]
    rfl
  · intro name hname
    exact lookup_of_not_mem (hsame ▸ hname)

/-! ## What is found -/

section

variable {found : FieldValues} {field : RecordField α} {a : α}

theorem required_of_found (h : found.get? field = .ok (some a)) : found.required field = .ok a := by
  rw [FieldValues.required, h]
  rfl

theorem withDefault_of_found (h : found.get? field = .ok (some a)) (default : α) :
    found.withDefault field default = .ok a := by
  rw [FieldValues.withDefault, h]
  rfl

end

/-! ## Fields that are left out -/

/-- What is written for a field that is left out where its value is missing. -/
def Slot.ofOption (field : RecordField (Option α)) (encode : α → Value) : Option α → List Slot
  | some a => [⟨field, .ofOption encode, some a⟩]
  | none => []

section

variable {field : RecordField (Option α)} {encode : α → Value} {a? : Option α}

theorem Slot.sublist_ofOption :
    ((ofOption field encode a?).map (·.field.toCheck)).Sublist [field.toCheck] := by
  cases a? with
  | none => exact List.nil_sublist _
  | some a => exact .refl _

theorem Slot.member_ofOption :
    (ofOption field encode a?).map member = (a?.map fun a => (field.name, encode a)).toList := by
  cases a? with
  | none => rfl
  | some a => rfl

theorem Slot.names_ofOption :
    (ofOption field encode a?).map (·.field.name) = (a?.map fun _ => field.name).toList := by
  cases a? with
  | none => rfl
  | some a => rfl

theorem Slot.survives_ofOption (h : ∀ a, Json.Survives field.decoder (.ofOption encode) (some a)) :
    (ofOption field encode a?).Forall Slot.Survives := by
  cases a? with
  | none => trivial
  | some a => exact h a

/-- A value that was left out is taken to be missing. -/
theorem omissible_of_found {found : FieldValues}
    (h : (Slot.ofOption field encode a?).Forall (Slot.IsFound found))
    (hmissing : a? = none → found.values.lookup field.name = none)
    (hnamed : found.positional = false) : found.omissible field = .ok a? := by
  rw [FieldValues.omissible, hnamed]
  cases a? with
  | some a => exact withDefault_of_found h none
  | none =>
    show found.withDefault field none = .ok none
    rw [FieldValues.withDefault, FieldValues.get?, hmissing rfl]
    rfl

end

/-! ## Decoded records -/

/-- A record is decoded from what was found under its fields, however it was written. -/
theorem exists_build_of_record {name : String} {fields : List FieldCheck}
    {build : FieldValues → Except DecodeError α} {tree : Tree} {a : α}
    (h : record name fields build tree = .ok a) : ∃ found, build found = .ok a := by
  cases tree with
  | object members stop =>
    obtain ⟨values, -, h⟩ := exists_of_bind h
    obtain ⟨_, -, h⟩ := exists_of_bind h
    exact ⟨_, h⟩
  | array items stop =>
    obtain ⟨⟨values, left⟩, -, h⟩ := exists_of_bind h
    have hbuilt {found : FieldValues} (h : (build found >>= fun value =>
        failIf (leftoverError? left stop) >>= fun _ => .ok value) = .ok a) :
        ∃ found, build found = .ok a := by
      obtain ⟨value, hvalue, h⟩ := exists_of_bind h
      obtain ⟨_, -, heq⟩ := exists_of_bind h
      cases heq
      exact ⟨found, hvalue⟩
    dsimp only at h
    split at h
    · obtain ⟨_, -, h⟩ := exists_of_bind h
      exact hbuilt h
    · exact hbuilt h
  | null | bool | number | string | broken => cases h

section

variable {P : α → Prop} {found : FieldValues} {field : RecordField α} {a : α}

theorem Yields.get? (h : Yields field.decoder P) {a? : Option α}
    (hfound : found.get? field = .ok a?) : ∀ a ∈ a?, P a := by
  rw [FieldValues.get?] at hfound
  split at hfound
  · obtain ⟨value, hvalue, heq⟩ := exists_of_map hfound
    cases heq
    intro a ha
    cases ha
    exact h _ _ hvalue
  · cases hfound
    exact nofun

theorem Yields.required (h : Yields field.decoder P) (hfound : found.required field = .ok a) :
    P a := by
  obtain ⟨a?, hget, hsome⟩ := exists_of_bind hfound
  cases a? with
  | none => cases hsome
  | some value =>
    cases hsome
    exact h.get? hget a rfl

theorem Yields.withDefault (h : Yields field.decoder P) {default : α} (hdefault : P default)
    (hfound : found.withDefault field default = .ok a) : P a := by
  obtain ⟨a?, hget, hsome⟩ := exists_of_bind hfound
  cases a? with
  | none =>
    cases hsome
    exact hdefault
  | some value =>
    cases hsome
    exact h.get? hget a rfl

theorem Yields.withDefault_none {field : RecordField (Option α)}
    (h : Yields field.decoder fun a? => ∀ a ∈ a?, P a) {a? : Option α}
    (hfound : found.withDefault field none = .ok a?) : ∀ a ∈ a?, P a := by
  refine h.withDefault ?_ hfound
  exact nofun

end

end BillingConsole.Json
