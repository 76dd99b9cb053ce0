import BillingConsole.Proofs.Json.Kind
import Mathlib.Logic.Relation

/-!
# Spellings of an object

In which order the members of an object stand, which of its names a field is given under and what
else the object says makes no difference to what it is decoded to, and giving one field twice is an
error.  All of that holds for objects at any depth: what surrounds an object depends on it only
through what it is decoded to.

A member has a name only if the literal before its colon stands for a text: half a surrogate pair
is no name, and an object with such a member is no object for any reader.

## What is here

* `Tree.WellFormed` — values without a fault; `skip_of_wellFormed` says that they can be passed
  over.
* `RecordKind.Respells` — another order of the members, one more member that is not known, or
  another name of a field; `RecordKind.GivesTwice` — one field is given two values.
* `RecordKind.Respells.same`, `RecordKind.GivesTwice.ne_ok` — **what becomes of one object.**
* `RecordKind.Holds`, `Stands` — where in a record the value of a field stands, and where in a value
  an object stands for a kind of record.
* `Stands.same`, `Stands.exists_ok` — what surrounds an object depends on what it is decoded to.
* `SpellingFree` — **whole texts**, with any number of objects in them spelled in another way.
-/

set_option autoImplicit false

namespace BillingConsole.Json

variable {α : Type}

/-! ## Values without a fault -/

mutual

/-- Every literal and every bracket of a value is closed, and there is a value at every place. -/
def Tree.WellFormed : Tree → Prop
  | .null | .bool _ | .number _ => True
  | .string literal => literal.ending = .closed
  | .array items stop => WellFormedItems items ∧ stop = .closed
  | .object members stop => WellFormedMembers members ∧ stop = .closed
  | .broken _ => False

/-- Items without a fault. -/
def WellFormedItems : List Tree → Prop
  | [] => True
  | item :: rest => item.WellFormed ∧ WellFormedItems rest

/-- Members without a fault. -/
def WellFormedMembers : List (StringLiteral × Tree) → Prop
  | [] => True
  | (name, value) :: rest =>
    (name.ending = .closed ∧ value.WellFormed) ∧ WellFormedMembers rest

end

mutual

/-- A value without a fault can be passed over. -/
theorem skip_of_wellFormed : ∀ {tree : Tree}, tree.WellFormed → skip tree = .ok ()
  | .null, _ | .bool _, _ | .number _, _ => by rw [skip]
  | .string literal, h => by
    rw [Tree.WellFormed] at h
    rw [skip, h]
    rfl
  | .array items stop, h => by
    rw [Tree.WellFormed] at h
    rw [skip, skipItems_of_wellFormed h.1, h.2]
    rfl
  | .object members stop, h => by
    rw [Tree.WellFormed] at h
    rw [skip, skipMembers_of_wellFormed h.1, h.2]
    rfl
  | .broken _, h => by
    rw [Tree.WellFormed] at h
    exact h.elim

theorem skipItems_of_wellFormed : ∀ {items : List Tree}, WellFormedItems items →
    skipItems items = .ok ()
  | [], _ => by rw [skipItems]
  | item :: rest, h => by
    rw [WellFormedItems] at h
    rw [skipItems, skip_of_wellFormed h.1, skipItems_of_wellFormed h.2]
    rfl

theorem skipMembers_of_wellFormed : ∀ {members : List (StringLiteral × Tree)},
    WellFormedMembers members → skipMembers members = .ok ()
  | [], _ => by rw [skipMembers]
  | (name, value) :: rest, h => by
    rw [WellFormedMembers] at h
    rw [skipMembers, h.1.1, skip_of_wellFormed h.1.2, skipMembers_of_wellFormed h.2]
    rfl

end

/-! ## Objects spelled in another way -/

/-- A literal names a field, in one of the ways the field is known by. -/
def FieldCheck.NamedBy (field : FieldCheck) (literal : StringLiteral) : Prop :=
  ∃ name ∈ field.names, literal.text = .ok name

/-- What is found under a name does not depend on the order, if no name is there twice. -/
theorem lookup_perm {entries entries' : List (String × α)} (h : entries.Perm entries')
    (hnames : DistinctNames entries) (name : String) :
    entries.lookup name = entries'.lookup name := by
  have hperm : (entries.map (·.1)).Perm (entries'.map (·.1)) := h.map _
  have hnames' : DistinctNames entries' := hperm.nodup_iff.1 hnames
  by_cases hmem : name ∈ entries.map (·.1)
  · obtain ⟨⟨_, value⟩, hentry, rfl⟩ := List.mem_map.1 hmem
    rw [lookup_of_mem hnames hentry, lookup_of_mem hnames' (h.mem_iff.1 hentry)]
  · have hmem' : name ∉ entries'.map (·.1) := fun hin => hmem (hperm.mem_iff.2 hin)
    rw [lookup_of_not_mem hmem, lookup_of_not_mem hmem']

namespace RecordKind

/-- An object that stands for a kind of record, and the same object in another spelling. -/
inductive Respells (kind : RecordKind) : Tree → Tree → Prop
  /-- The members stand in another order. -/
  | permuted {members members' : List (StringLiteral × Tree)} (perm : members.Perm members')
      (stop : Stop) : Respells kind (.object members stop) (.object members' stop)
  /-- There is one more member, with a name that no field is known by. -/
  | added (before after : List (StringLiteral × Tree)) {literal : StringLiteral} {name : String}
      (hname : literal.text = .ok name) (unknown : ∀ field ∈ kind.checks, name ∉ field.names)
      {value : Tree} (wellFormed : value.WellFormed) (stop : Stop) :
      Respells kind (.object (before ++ after) stop)
        (.object (before ++ (literal, value) :: after) stop)
  /-- A field is given under another of its names. -/
  | renamed (before after : List (StringLiteral × Tree)) {field : FieldCheck}
      (hfield : field ∈ kind.checks) {literal literal' : StringLiteral}
      (hname : field.NamedBy literal) (hname' : field.NamedBy literal') (value : Tree)
      (stop : Stop) :
      Respells kind (.object (before ++ (literal, value) :: after) stop)
        (.object (before ++ (literal', value) :: after) stop)

/-- Two members give a value for one field. -/
def GivesTwice (kind : RecordKind) (members : List (StringLiteral × Tree)) : Prop :=
  ∃ field ∈ kind.checks, ∃ first second : StringLiteral × Tree,
    [first, second].Sublist members ∧ field.NamedBy first.1 ∧ field.NamedBy second.1

variable {kind : RecordKind}

/-- The field that a literal names is found by it. -/
theorem find?_of_namedBy {field : FieldCheck} (hfield : field ∈ kind.checks)
    {literal : StringLiteral} (hname : field.NamedBy literal) :
    ∃ name, literal.text = .ok name ∧ kind.checks.find? (·.answers name) = some field := by
  obtain ⟨name, hmem, htext⟩ := hname
  exact ⟨name, htext, FieldCheck.find?_eq_some kind.apart hfield hmem⟩

/-- Objects whose members pass alike, and give the same values in any order, are decoded to the
same. -/
theorem sameResult_of_given {members members' : List (StringLiteral × Tree)}
    (passes : (∀ member ∈ members, MemberPasses kind.checks member) ↔
      ∀ member ∈ members', MemberPasses kind.checks member)
    (perm : (given kind.checks members).Perm (given kind.checks members')) (stop : Stop) :
    SameResult (kind.decoder (.object members stop)) (kind.decoder (.object members' stop)) := by
  have hnames := perm.map (·.1)
  have hagree (hnodup : ((given kind.checks members).map (·.1)).Nodup) :
      FieldValues.Agree kind.fields ⟨given kind.checks members, .missingField, false⟩
        ⟨given kind.checks members', .missingField, false⟩ := by
    have hlookup (name : String) : (given kind.checks members).lookup name =
        (given kind.checks members').lookup name := lookup_perm perm hnodup name
    rw [FieldValues.Agree, List.forall_iff_forall_mem]
    intro any _
    rw [FieldValues.get?, FieldValues.get?, hlookup]
    exact .refl _
  intro value
  rw [decoder_object_iff, decoder_object_iff, passes, hnames.nodup_iff]
  refine and_congr_right fun _ => and_congr_right fun hnodup => and_congr_right fun _ => ?_
  exact kind.same_build (hagree (hnames.nodup_iff.2 hnodup)) value

/-- **Another spelling of an object** is decoded to the same. -/
theorem Respells.same {tree tree' : Tree} (h : kind.Respells tree tree') :
    SameResult (kind.decoder tree) (kind.decoder tree') := by
  cases h with
  | permuted perm stop =>
    refine sameResult_of_given ?_ (perm.filterMap _) stop
    exact forall_congr' fun member => imp_congr_left perm.mem_iff
  | @added before after literal name hname unknown value wellFormed stop =>
    have hfind : kind.checks.find? (·.answers name) = none :=
      List.find?_eq_none.2 fun field hfield hanswers =>
        unknown field hfield (FieldCheck.answers_iff.1 hanswers)
    refine sameResult_of_given ?_ ?_ stop
    · rw [List.forall_mem_append, List.forall_mem_append, List.forall_mem_cons,
        memberPasses_unknown hname hfind]
      simp only [skip_of_wellFormed wellFormed, true_and]
    · rw [given_append, given_append, given_unknown hname hfind]
  | renamed before after hfield hname hname' value stop =>
    obtain ⟨name, htext, hfind⟩ := find?_of_namedBy hfield hname
    obtain ⟨name', htext', hfind'⟩ := find?_of_namedBy hfield hname'
    refine sameResult_of_given ?_ ?_ stop
    · rw [List.forall_mem_append, List.forall_mem_append, List.forall_mem_cons,
        List.forall_mem_cons, memberPasses_known htext hfind, memberPasses_known htext' hfind']
    · rw [given_append, given_append, given_known htext hfind, given_known htext' hfind']

/-- **What is given twice is refused.** -/
theorem GivesTwice.ne_ok {members : List (StringLiteral × Tree)} (h : kind.GivesTwice members)
    (stop : Stop) (value : kind.Value) : kind.decoder (.object members stop) ≠ .ok value := by
  obtain ⟨field, hfield, first, second, hsub, hfirst, hsecond⟩ := h
  obtain ⟨name, htext, hfind⟩ := find?_of_namedBy hfield hfirst
  obtain ⟨name', htext', hfind'⟩ := find?_of_namedBy hfield hsecond
  intro hdecode
  have hgiven : (given kind.checks [first, second]).Sublist (given kind.checks members) :=
    hsub.filterMap _
  have hnodup := (decoder_object_iff.1 hdecode).2.1.sublist (hgiven.map (·.1))
  rw [given_known htext hfind, given_known htext' hfind', List.map_cons, List.map_cons] at hnodup
  exact (List.nodup_cons.1 hnodup).1 List.mem_cons_self

end RecordKind

/-! ## What surrounds the value of a field -/

namespace RecordKind

/-- Where in a record the value of a field stands.  The place is given by the record as a whole, as
it depends on that value. -/
inductive Holds (outer : RecordKind) (any : AnyField) : (Tree → Tree) → Prop
  /-- The record is written as an object. -/
  | member (hany : any ∈ outer.fields) (before after : List (StringLiteral × Tree))
      {literal : StringLiteral} (hname : any.toCheck.NamedBy literal) (stop : Stop) :
      Holds outer any fun tree => .object (before ++ (literal, tree) :: after) stop
  /-- The record is written as an array. -/
  | position (before after : List Tree) (hany : outer.fields[before.length]? = some any)
      (stop : Stop) : Holds outer any fun tree => .array (before ++ tree :: after) stop

variable {outer : RecordKind} {any : AnyField} {around : Tree → Tree} {tree tree' : Tree}

/-- The fields and the items in their places, around one of them. -/
theorem zip_checks_around {before : List Tree} (hany : outer.fields[before.length]? = some any)
    (tree : Tree) (after : List Tree) :
    outer.checks.zip (before ++ tree :: after) =
      (outer.checks.take before.length).zip before ++
        (any.toCheck, tree) :: (outer.checks.drop (before.length + 1)).zip after := by
  have hget : outer.checks[before.length]? = some any.toCheck := by
    rw [checks, List.getElem?_map, hany]
    rfl
  obtain ⟨hlt, hget⟩ := List.getElem?_eq_some_iff.1 hget
  conv_lhs => rw [← List.take_append_drop before.length outer.checks]
  rw [List.zip_append (by rw [List.length_take, Nat.min_eq_left hlt.le]),
    List.drop_eq_getElem_cons hlt, hget, List.zip_cons_cons]

/-- The value of a field may be replaced by one that is decoded to the same. -/
theorem Holds.same (h : outer.Holds any around)
    (same : SameResult (any.field.decoder tree) (any.field.decoder tree')) :
    SameResult (outer.decoder (around tree)) (outer.decoder (around tree')) := by
  have hcheck : any.toCheck.check tree = .ok () ↔ any.toCheck.check tree' = .ok () := by
    rw [AnyField.check_eq_ok_iff, AnyField.check_eq_ok_iff]
    exact exists_congr same
  intro value
  cases h with
  | member hany before after hname stop =>
    obtain ⟨name, htext, hfind⟩ := find?_of_namedBy (List.mem_map_of_mem hany) hname
    rw [decoder_object_iff, decoder_object_iff, List.forall_mem_append, List.forall_mem_append,
      List.forall_mem_cons, List.forall_mem_cons, memberPasses_known htext hfind,
      memberPasses_known htext hfind, hcheck, given_append, given_append, given_known htext hfind,
      given_known htext hfind, List.map_append, List.map_append, List.map_cons, List.map_cons]
    exact and_congr_right fun _ => and_congr_right fun _ => and_congr_right fun _ =>
      outer.same_build (FieldValues.agree_of_replaced hany same _ _ _ _) value
  | position before after hany stop =>
    have hlt : before.length < outer.checks.length := by
      rw [checks, List.length_map]
      exact (List.getElem?_eq_some_iff.1 hany).1
    have hdrop (tree : Tree) : (before ++ tree :: after).drop outer.checks.length =
        after.drop (outer.checks.length - before.length - 1) := by
      rw [List.drop_append, List.drop_eq_nil_of_le hlt.le, List.nil_append,
        List.drop_cons (by omega)]
    rw [decoder_array_iff, decoder_array_iff, placed, placed, zip_checks_around hany,
      zip_checks_around hany, List.forall_mem_append, List.forall_mem_append, List.forall_mem_cons,
      List.forall_mem_cons, hcheck, hdrop, hdrop, List.map_append, List.map_append, List.map_cons,
      List.map_cons]
    simp only [List.length_append, List.length_cons]
    exact and_congr_right fun _ => and_congr_right fun _ => and_congr_left fun _ =>
      outer.same_build (FieldValues.agree_of_replaced (List.mem_of_getElem? hany) same _ _ _ _)
        value

/-- If a record is decoded, so is the value of each field in it. -/
theorem Holds.exists_ok (h : outer.Holds any around) {value : outer.Value}
    (hdecode : outer.decoder (around tree) = .ok value) :
    ∃ inner, any.field.decoder tree = .ok inner := by
  rw [← AnyField.check_eq_ok_iff]
  cases h with
  | member hany before after hname stop =>
    obtain ⟨name, htext, hfind⟩ := find?_of_namedBy (List.mem_map_of_mem hany) hname
    have hpasses := (decoder_object_iff.1 hdecode).1
    rw [List.forall_mem_append, List.forall_mem_cons, memberPasses_known htext hfind] at hpasses
    exact hpasses.2.1
  | position before after hany stop =>
    have hchecks := (decoder_array_iff.1 hdecode).1
    rw [zip_checks_around hany, List.forall_mem_append, List.forall_mem_cons] at hchecks
    exact hchecks.2.1

end RecordKind

/-! ## What surrounds an object -/

/-- Where in a value an object stands for a kind of record, when the value is decoded. -/
inductive Stands (kind : RecordKind) : {α : Type} → Decoder α → (Tree → Tree) → Prop
  /-- The value is the object. -/
  | here : Stands kind kind.decoder fun tree => tree
  /-- The object stands in the value of a field. -/
  | field {outer : RecordKind} {any : AnyField} {around hole : Tree → Tree}
      (holds : outer.Holds any around) (inside : Stands kind any.field.decoder hole) :
      Stands kind outer.decoder fun tree => around (hole tree)
  /-- The object stands in a value that may be null. -/
  | value {α : Type} {decoder : Decoder α} {hole : Tree → Tree}
      (inside : Stands kind decoder hole) : Stands kind (nullable decoder) hole
  /-- The object stands in an item of a list. -/
  | item {α : Type} {decoder : Decoder α} (before after : List Tree) (stop : Stop)
      {hole : Tree → Tree} (inside : Stands kind decoder hole) :
      Stands kind (list decoder) fun tree => .array (before ++ hole tree :: after) stop
  /-- The object stands in an entry of a table. -/
  | entry {α : Type} {decoder : Decoder α} (before after : List (StringLiteral × Tree))
      (literal : StringLiteral) (stop : Stop) {hole : Tree → Tree}
      (inside : Stands kind decoder hole) :
      Stands kind (mapping decoder) fun tree =>
        .object (before ++ (literal, hole tree) :: after) stop

section

variable {decoder : Decoder α} {tree tree' : Tree}

theorem nullable_of_ne_null (h : tree ≠ .null) :
    nullable decoder tree = (decoder tree).map some := by
  rw [nullable]
  exact h

theorem same_of_replaced_mapM (same : SameResult (decoder tree) (decoder tree'))
    (before after : List Tree) :
    SameResult ((before ++ tree :: after).mapM decoder)
      ((before ++ tree' :: after).mapM decoder) := by
  rw [List.mapM_append, List.mapM_append, List.mapM_cons, List.mapM_cons]
  exact .bind (.refl _) fun _ => .bind (.bind same fun _ => .refl _) fun _ => .refl _

theorem same_of_replaced_entry (same : SameResult (decoder tree) (decoder tree'))
    (before after : List (StringLiteral × Tree)) (literal : StringLiteral)
    (found : List (String × α)) :
    SameResult (collectEntries decoder found (before ++ (literal, tree) :: after))
      (collectEntries decoder found (before ++ (literal, tree') :: after)) := by
  induction before generalizing found with
  | nil => exact .bind (.refl _) fun _ => .bind same fun _ => .refl _
  | cons first before ih => exact .bind (.refl _) fun _ => .bind (.refl _) fun _ => ih _

theorem exists_ok_of_mapM {before after : List Tree} {values : List α}
    (h : (before ++ tree :: after).mapM decoder = .ok values) :
    ∃ value, decoder tree = .ok value := by
  rw [List.mapM_append, List.mapM_cons] at h
  obtain ⟨_, -, h⟩ := exists_of_bind h
  obtain ⟨_, h, -⟩ := exists_of_bind h
  obtain ⟨value, hvalue, -⟩ := exists_of_bind h
  exact ⟨value, hvalue⟩

theorem exists_ok_of_entry {before after : List (StringLiteral × Tree)} {literal : StringLiteral}
    {found entries : List (String × α)}
    (h : collectEntries decoder found (before ++ (literal, tree) :: after) = .ok entries) :
    ∃ value, decoder tree = .ok value := by
  induction before generalizing found with
  | nil =>
    obtain ⟨_, -, h⟩ := exists_of_bind h
    obtain ⟨value, hvalue, -⟩ := exists_of_bind h
    exact ⟨value, hvalue⟩
  | cons first before ih =>
    obtain ⟨_, -, h⟩ := exists_of_bind h
    obtain ⟨_, -, h⟩ := exists_of_bind h
    exact ih h

end

namespace Stands

variable {kind : RecordKind} {decoder : Decoder α} {hole : Tree → Tree}
  {members members' : List (StringLiteral × Tree)} {stop stop' : Stop}

/-- Places nest. -/
theorem within {inner : RecordKind} {hole' : Tree → Tree} (h : Stands kind inner.decoder hole')
    (houter : Stands inner decoder hole) : Stands kind decoder fun tree => hole (hole' tree) := by
  induction houter with
  | here => exact h
  | field holds _ ih => exact .field holds ih
  | value _ ih => exact .value ih
  | item before after stop _ ih => exact .item before after stop ih
  | entry before after literal stop _ ih => exact .entry before after literal stop ih

/-- A value with an object in it is not null. -/
theorem ne_null (h : Stands kind decoder hole) : hole (.object members stop) ≠ .null := by
  induction h with
  | here | item | entry => exact Tree.noConfusion
  | field holds => cases holds <;> exact Tree.noConfusion
  | value _ ih => exact ih

/-- **What surrounds an object** depends on what the object is decoded to. -/
theorem same (h : Stands kind decoder hole)
    (hobject : SameResult (kind.decoder (.object members stop))
      (kind.decoder (.object members' stop'))) :
    SameResult (decoder (hole (.object members stop)))
      (decoder (hole (.object members' stop'))) := by
  induction h with
  | here => exact hobject
  | field holds _ ih => exact holds.same ih
  | value inside ih =>
    rw [nullable_of_ne_null inside.ne_null, nullable_of_ne_null inside.ne_null]
    exact ih.map some
  | item before after stop _ ih =>
    exact .bind (same_of_replaced_mapM ih before after) fun _ => .refl _
  | entry before after literal stop _ ih =>
    exact .bind (same_of_replaced_entry ih before after literal []) fun _ => .refl _

/-- If a value is decoded, so is every object in it that stands for a record. -/
theorem exists_ok (h : Stands kind decoder hole) {a : α}
    (hdecode : decoder (hole (.object members stop)) = .ok a) :
    ∃ value, kind.decoder (.object members stop) = .ok value := by
  induction h with
  | here => exact ⟨a, hdecode⟩
  | field holds _ ih =>
    obtain ⟨_, hinner⟩ := holds.exists_ok hdecode
    exact ih hinner
  | value inside ih =>
    rw [nullable_of_ne_null inside.ne_null] at hdecode
    obtain ⟨_, hinner, -⟩ := exists_of_map hdecode
    exact ih hinner
  | item before after stop _ ih =>
    obtain ⟨_, hitems, -⟩ := exists_of_bind hdecode
    obtain ⟨_, hinner⟩ := exists_ok_of_mapM hitems
    exact ih hinner
  | entry before after literal stop _ ih =>
    obtain ⟨_, hentries, -⟩ := exists_of_bind hdecode
    obtain ⟨_, hinner⟩ := exists_ok_of_entry hentries
    exact ih hinner

end Stands

/-! ## Whole texts -/

/-- A value with an object in it that stands for a record, and the value with that object in
another spelling. -/
def Respelled (decoder : Decoder α) (tree tree' : Tree) : Prop :=
  ∃ (kind : RecordKind) (hole : Tree → Tree) (object object' : Tree),
    Stands kind decoder hole ∧ kind.Respells object object' ∧
      tree = hole object ∧ tree' = hole object'

/-- A value in another spelling is decoded to the same. -/
theorem Respelled.same {decoder : Decoder α} {tree tree' : Tree}
    (h : Respelled decoder tree tree') : SameResult (decoder tree) (decoder tree') := by
  obtain ⟨kind, hole, object, object', hstands, hrespells, rfl, rfl⟩ := h
  have hsame := hrespells.same
  cases hrespells with
  | permuted | added | renamed => exact hstands.same hsame

/-- **Other spellings are decoded to the same**, wherever and however often objects are spelled in
another way, there and back. -/
theorem sameResult_of_eqvGen {decoder : Decoder α} {tree tree' : Tree}
    (h : Relation.EqvGen (Respelled decoder) tree tree') :
    SameResult (decoder tree) (decoder tree') := by
  induction h with
  | rel tree tree' h => exact h.same
  | refl tree => exact .refl _
  | symm tree tree' _ ih => exact ih.symm
  | trans tree tree' tree'' _ _ ih ih' => exact ih.trans ih'

/-- A text is decoded without regard to how the objects in it are spelled. -/
structure SpellingFree (decoder : Decoder α) : Prop where
  /-- Texts that differ in the order of members, in members that are not known and in which of its
  names a field is given under are decoded to the same, or neither of them is decoded. -/
  respelled : ∀ text text' : String,
    Relation.EqvGen (Respelled decoder) (readDocument text).value (readDocument text').value →
    (readDocument text).hasMore = (readDocument text').hasMore →
    SameResult (decode decoder text) (decode decoder text')
  /-- A text is refused if some object in it gives a field twice. -/
  refused : ∀ (text : String) (kind : RecordKind) (hole : Tree → Tree)
    (members : List (StringLiteral × Tree)) (stop : Stop),
    Stands kind decoder hole → kind.GivesTwice members →
    (readDocument text).value = hole (.object members stop) → ∀ a, decode decoder text ≠ .ok a

theorem spellingFree (decoder : Decoder α) : SpellingFree decoder where
  respelled text text' hvalue hmore := by
    rw [decode, decode, hmore]
    exact .bind (sameResult_of_eqvGen hvalue) fun _ => .refl _
  refused text kind hole members stop hstands htwice hvalue a hdecode := by
    obtain ⟨value, hvalue', -⟩ := exists_of_bind hdecode
    rw [hvalue] at hvalue'
    obtain ⟨inner, hinner⟩ := hstands.exists_ok hvalue'
    exact htwice.ne_ok stop inner hinner

end BillingConsole.Json
