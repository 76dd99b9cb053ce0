import BillingConsole.Proofs.Json.Record

/-!
# Kinds of records, and when one is decoded

A record is decoded from the values that are given for its fields.  This file says exactly when
that succeeds, for a record that is written as an object and for one that is written as an array,
in terms that do not depend on the order in which the members of an object are read.

## What is here

* `SameResult` — two attempts both fail, or both bring the same value.
* `RecordKind` — a kind of record, with its fields and with how it is built from them.
* `given` — the values that members give for fields, and `MemberPasses`, what is checked of each.
* `collectMembers_eq_ok_iff`, `RecordKind.decoder_object_iff` — **when an object is decoded**: every
  member passes, and no field is given twice.
* `collectItems_eq_ok_iff`, `RecordKind.decoder_array_iff` — when an array is decoded in its place.
* `FieldValues.agree_of_replaced` — what is found when a value is replaced by one that is decoded
  to the same.
-/

set_option autoImplicit false

namespace BillingConsole.Json

variable {α β : Type}

/-! ## Results -/

/-- Two attempts both fail, or both bring the same value. -/
def SameResult (x y : Except DecodeError α) : Prop := ∀ a, x = .ok a ↔ y = .ok a

namespace SameResult

theorem refl (x : Except DecodeError α) : SameResult x x := fun _ => Iff.rfl

theorem symm {x y : Except DecodeError α} (h : SameResult x y) : SameResult y x :=
  fun a => (h a).symm

theorem trans {x y z : Except DecodeError α} (h : SameResult x y) (h' : SameResult y z) :
    SameResult x z := fun a => (h a).trans (h' a)

end SameResult

theorem bind_eq_ok_iff {x : Except DecodeError α} {f : α → Except DecodeError β} {b : β} :
    x >>= f = .ok b ↔ ∃ a, x = .ok a ∧ f a = .ok b := by
  refine ⟨exists_of_bind, ?_⟩
  rintro ⟨a, rfl, h⟩
  exact h

theorem map_eq_ok_iff {x : Except DecodeError α} {f : α → β} {b : β} :
    x.map f = .ok b ↔ ∃ a, x = .ok a ∧ f a = b := by
  refine ⟨exists_of_map, ?_⟩
  rintro ⟨a, rfl, rfl⟩
  rfl

namespace SameResult

theorem bind {x y : Except DecodeError α} {f g : α → Except DecodeError β}
    (h : SameResult x y) (h' : ∀ a, SameResult (f a) (g a)) : SameResult (x >>= f) (y >>= g) := by
  intro b
  rw [bind_eq_ok_iff, bind_eq_ok_iff]
  exact exists_congr fun a => and_congr (h a) (h' a b)

theorem map {x y : Except DecodeError α} (h : SameResult x y) (f : α → β) :
    SameResult (x.map f) (y.map f) := by
  intro b
  rw [map_eq_ok_iff, map_eq_ok_iff]
  exact exists_congr fun a => and_congr_left' (h a)

end SameResult

theorem failIf_eq_ok_iff {error? : Option DecodeError} :
    failIf error? = .ok () ↔ error? = none := by
  cases error? with
  | none => exact ⟨fun _ => rfl, fun _ => rfl⟩
  | some error => exact ⟨nofun, nofun⟩

/-! ## Fields and what is found under them -/

/-- The names that a field is known by. -/
def FieldCheck.names (field : FieldCheck) : List String := field.name :: field.aliases

theorem FieldCheck.answers_iff {field : FieldCheck} {name : String} :
    field.answers name = true ↔ name ∈ field.names := by
  rw [answers, Bool.or_eq_true, beq_iff_eq, List.contains_iff_mem, names, List.mem_cons, eq_comm]

/-- The field that a name belongs to, where no two fields share a name. -/
theorem FieldCheck.find?_eq_some {fields : List FieldCheck}
    (apart : (fields.flatMap FieldCheck.names).Nodup) {field : FieldCheck} (hfield : field ∈ fields)
    {name : String} (hname : name ∈ field.names) :
    fields.find? (·.answers name) = some field := by
  induction fields with
  | nil => cases hfield
  | cons first rest ih =>
    rw [List.flatMap_cons, List.nodup_append'] at apart
    rcases List.mem_cons.1 hfield with rfl | hmem
    · exact List.find?_cons_of_pos (answers_iff.2 hname)
    · have hother : first.answers name = false := Bool.eq_false_iff.2 fun hanswers =>
        apart.2.2 (answers_iff.1 hanswers) (List.mem_flatMap.2 ⟨field, hmem, hname⟩)
      rw [List.find?_cons, hother]
      exact ih apart.2.1 hmem

/-- Every field is known by its own name. -/
theorem FieldCheck.name_sublist_names (fields : List FieldCheck) :
    (fields.map (·.name)).Sublist (fields.flatMap FieldCheck.names) := by
  induction fields with
  | nil => exact .slnil
  | cons field rest ih => exact (ih.trans (List.sublist_append_right _ _)).cons_cons _

/-- A field of a record, whatever the type of its value. -/
structure AnyField where
  {Value : Type}
  field : RecordField Value

namespace AnyField

/-- The field without the type of its value. -/
def toCheck (any : AnyField) : FieldCheck := any.field.toCheck

/-- A value passes the check of a field if it can be decoded. -/
theorem check_eq_ok_iff {any : AnyField} {tree : Tree} :
    any.toCheck.check tree = .ok () ↔ ∃ value, any.field.decoder tree = .ok value :=
  map_eq_ok_iff.trans (exists_congr fun _ => and_iff_left rfl)

end AnyField

namespace FieldValues

/-- Under every field the same value is found, or none. -/
def Agree (fields : List AnyField) (found found' : FieldValues) : Prop :=
  fields.Forall fun any => SameResult (found.get? any.field) (found'.get? any.field)

variable {found found' : FieldValues} {field : RecordField α}

theorem same_required (h : SameResult (found.get? field) (found'.get? field)) :
    SameResult (found.required field) (found'.required field) := by
  refine h.bind fun a? a => ?_
  cases a? with
  | some value => exact Iff.rfl
  | none => exact ⟨nofun, nofun⟩

theorem same_withDefault (h : SameResult (found.get? field) (found'.get? field)) (default : α) :
    SameResult (found.withDefault field default) (found'.withDefault field default) :=
  h.bind fun _ => .refl _

end FieldValues

/-- A kind of record. -/
structure RecordKind where
  {Value : Type}
  name : String
  fields : List AnyField
  build : FieldValues → Except DecodeError Value
  /-- No name belongs to two fields. -/
  apart : ((fields.map AnyField.toCheck).flatMap FieldCheck.names).Nodup
  /-- A record is built from what is found under its fields. -/
  same_build : ∀ {found found' : FieldValues}, found.Agree fields found' →
    SameResult (build found) (build found')

namespace RecordKind

/-- The fields without the types of their values. -/
def checks (kind : RecordKind) : List FieldCheck := kind.fields.map AnyField.toCheck

/-- Decodes a record of the kind. -/
def decoder (kind : RecordKind) : Decoder kind.Value := record kind.name kind.checks kind.build

end RecordKind

/-! ## Members -/

/-- The field that a literal names, if it does. -/
def fieldOf? (fields : List FieldCheck) (literal : StringLiteral) : Option FieldCheck :=
  match literal.text with
  | .ok name => fields.find? (·.answers name)
  | .error _ => none

/-- The values that members give for fields. -/
def given (fields : List FieldCheck) (members : List (StringLiteral × Tree)) :
    List (String × Tree) :=
  members.filterMap fun member => (fieldOf? fields member.1).map fun field => (field.name, member.2)

/-- What is checked of a member: it has a name, and its value passes the check of the field it is
given for, or is passed over. -/
def MemberPasses (fields : List FieldCheck) (member : StringLiteral × Tree) : Prop :=
  ∃ name, member.1.text = .ok name ∧
    match fields.find? (·.answers name) with
    | some field => field.check member.2 = .ok ()
    | none => skip member.2 = .ok ()

section

variable {fields : List FieldCheck} {found values : List (String × Tree)}
  {members rest : List (StringLiteral × Tree)} {literal : StringLiteral} {name : String}
  {value : Tree} {field : FieldCheck}

theorem collectMembers_known (hname : literal.text = .ok name)
    (hfind : fields.find? (·.answers name) = some field) :
    collectMembers fields found ((literal, value) :: rest) = .ok values ↔
      found.lookup field.name = none ∧ field.check value = .ok () ∧
        collectMembers fields (found ++ [(field.name, value)]) rest = .ok values := by
  rw [collectMembers, hname]
  simp only [bind, Except.bind, hfind]
  cases hlookup : found.lookup field.name with
  | some other =>
    constructor
    · intro h
      cases h
    · rintro ⟨hfree, -⟩
      cases hfree
  | none =>
    rw [if_neg (by decide)]
    cases hcheck : field.check value with
    | ok => exact ⟨fun h => ⟨rfl, rfl, h⟩, fun h => h.2.2⟩
    | error =>
      constructor
      · intro h
        cases h
      · rintro ⟨-, hpasses, -⟩
        cases hpasses

theorem collectMembers_unknown (hname : literal.text = .ok name)
    (hfind : fields.find? (·.answers name) = none) :
    collectMembers fields found ((literal, value) :: rest) = .ok values ↔
      skip value = .ok () ∧ collectMembers fields found rest = .ok values := by
  rw [collectMembers, hname]
  simp only [bind, Except.bind, hfind]
  cases hskip : skip value with
  | ok => exact ⟨fun h => ⟨rfl, h⟩, fun h => h.2⟩
  | error =>
    constructor
    · intro h
      cases h
    · rintro ⟨hskipped, -⟩
      cases hskipped

theorem given_known (hname : literal.text = .ok name)
    (hfind : fields.find? (·.answers name) = some field) :
    given fields ((literal, value) :: rest) = (field.name, value) :: given fields rest := by
  have hfield : fieldOf? fields literal = some field := by rw [fieldOf?, hname]; exact hfind
  rw [given, List.filterMap_cons, hfield]
  rfl

theorem given_unknown (hname : literal.text = .ok name)
    (hfind : fields.find? (·.answers name) = none) :
    given fields ((literal, value) :: rest) = given fields rest := by
  have hfield : fieldOf? fields literal = none := by rw [fieldOf?, hname]; exact hfind
  rw [given, List.filterMap_cons, hfield]
  rfl

theorem memberPasses_known (hname : literal.text = .ok name)
    (hfind : fields.find? (·.answers name) = some field) :
    MemberPasses fields (literal, value) ↔ field.check value = .ok () := by
  refine ⟨?_, fun h => ⟨name, hname, by rw [hfind]; exact h⟩⟩
  rintro ⟨other, hother, h⟩
  cases hname.symm.trans hother
  rw [hfind] at h
  exact h

theorem memberPasses_unknown (hname : literal.text = .ok name)
    (hfind : fields.find? (·.answers name) = none) :
    MemberPasses fields (literal, value) ↔ skip value = .ok () := by
  refine ⟨?_, fun h => ⟨name, hname, by rw [hfind]; exact h⟩⟩
  rintro ⟨other, hother, h⟩
  cases hname.symm.trans hother
  rw [hfind] at h
  exact h

/-- **When members are read.**  Each of them has to pass, and no field may be given a value twice;
what is found then is what was given. -/
theorem collectMembers_eq_ok_iff :
    collectMembers fields found members = .ok values ↔
      (∀ member ∈ members, MemberPasses fields member) ∧
        (∀ entry ∈ given fields members, found.lookup entry.1 = none) ∧
        ((given fields members).map (·.1)).Nodup ∧ values = found ++ given fields members := by
  induction members generalizing found with
  | nil =>
    rw [collectMembers, Except.ok.injEq]
    simp only [given, List.filterMap_nil, List.not_mem_nil, false_imp_iff, implies_true,
      List.map_nil, List.nodup_nil, List.append_nil, true_and]
    exact eq_comm
  | cons member rest ih =>
    obtain ⟨literal, value⟩ := member
    rw [List.forall_mem_cons]
    cases hname : literal.text with
    | error error =>
      constructor
      · intro h
        rw [collectMembers, hname] at h
        cases h
      · rintro ⟨⟨⟨name, hok, -⟩, -⟩, -⟩
        cases hname.symm.trans hok
    | ok name =>
      cases hfind : fields.find? (·.answers name) with
      | none =>
        rw [collectMembers_unknown hname hfind, memberPasses_unknown hname hfind,
          given_unknown hname hfind, ih, and_assoc]
      | some field =>
        -- a field that was found before is one that an earlier member has given
        have hlookup (entry : String × Tree) :
            (found ++ [(field.name, value)]).lookup entry.1 = none ↔
              found.lookup entry.1 = none ∧ entry.1 ≠ field.name := by
          rw [List.lookup_append, Option.or_eq_none_iff, lookup_cons_eq]
          simp
        have hnew : (∀ entry ∈ given fields rest, entry.1 ≠ field.name) ↔
            field.name ∉ (given fields rest).map (·.1) := by
          rw [List.mem_map, not_exists]
          exact forall_congr' fun entry => not_and.symm
        rw [collectMembers_known hname hfind, memberPasses_known hname hfind,
          given_known hname hfind, ih, List.forall_mem_cons, List.map_cons, List.nodup_cons,
          List.append_assoc, List.singleton_append]
        simp only [hlookup, forall_and, hnew]
        tauto

theorem given_append (fields : List FieldCheck) (before after : List (StringLiteral × Tree)) :
    given fields (before ++ after) = given fields before ++ given fields after :=
  List.filterMap_append

end

/-- **When an object is decoded** as a record of a kind. -/
theorem RecordKind.decoder_object_iff {kind : RecordKind} {members : List (StringLiteral × Tree)}
    {stop : Stop} {value : kind.Value} :
    kind.decoder (.object members stop) = .ok value ↔
      (∀ member ∈ members, MemberPasses kind.checks member) ∧
        ((given kind.checks members).map (·.1)).Nodup ∧ stop.objectError? = none ∧
        kind.build ⟨given kind.checks members, .missingField, false⟩ = .ok value := by
  rw [decoder, record, bind_eq_ok_iff]
  simp only [collectMembers_eq_ok_iff, bind_eq_ok_iff, List.nil_append, List.lookup_nil]
  constructor
  · rintro ⟨_, ⟨hpasses, -, hnodup, rfl⟩, _, hstop, hbuild⟩
    exact ⟨hpasses, hnodup, failIf_eq_ok_iff.1 hstop, hbuild⟩
  · rintro ⟨hpasses, hnodup, hstop, hbuild⟩
    exact ⟨_, ⟨hpasses, fun _ _ => trivial, hnodup, rfl⟩, (), failIf_eq_ok_iff.2 hstop, hbuild⟩

/-! ## Items in field order -/

/-- The values that items give for the fields in whose place they stand. -/
def placed (fields : List FieldCheck) (items : List Tree) : List (String × Tree) :=
  (fields.zip items).map fun pair => (pair.1.name, pair.2)

/-- When items are read: each of them has to pass the check of the field in its place. -/
theorem collectItems_eq_ok_iff {fields : List FieldCheck} {items : List Tree}
    {result : List (String × Tree) × List Tree} :
    collectItems fields items = .ok result ↔
      (∀ pair ∈ fields.zip items, pair.1.check pair.2 = .ok ()) ∧
        result = (placed fields items, items.drop fields.length) := by
  induction fields generalizing items result with
  | nil =>
    rw [collectItems.eq_2 _ _ (by simp), Except.ok.injEq]
    simp only [List.zip_nil_left, List.not_mem_nil, false_imp_iff, implies_true, true_and]
    exact eq_comm
  | cons field fields ih =>
    cases items with
    | nil =>
      rw [collectItems.eq_2 _ _ (by simp), Except.ok.injEq]
      simp only [List.zip_nil_right, List.not_mem_nil, false_imp_iff, implies_true, true_and]
      exact eq_comm
    | cons item items =>
      rw [collectItems, bind_eq_ok_iff, List.zip_cons_cons, List.forall_mem_cons]
      simp only [bind_eq_ok_iff, ih]
      constructor
      · rintro ⟨_, hcheck, _, ⟨hrest, rfl⟩, hresult⟩
        cases hresult
        exact ⟨⟨hcheck, hrest⟩, rfl⟩
      · rintro ⟨⟨hcheck, hrest⟩, rfl⟩
        exact ⟨(), hcheck, _, ⟨hrest, rfl⟩, rfl⟩

namespace RecordKind

/-- What is said of a record that is written as an array and has too few items. -/
def missingItem (kind : RecordKind) (field : String) : DecodeError :=
  .invalidLength (kind.checks.findIdx (·.name == field)) kind.name kind.checks.length

/-- When an array is decoded as a record of a kind. -/
theorem decoder_array_iff {kind : RecordKind} {items : List Tree} {stop : Stop}
    {value : kind.Value} :
    kind.decoder (.array items stop) = .ok value ↔
      (∀ pair ∈ kind.checks.zip items, pair.1.check pair.2 = .ok ()) ∧
        ((placed kind.checks items).length < kind.checks.length → stop.listError? = none) ∧
        kind.build ⟨placed kind.checks items, kind.missingItem, true⟩ = .ok value ∧
        leftoverError? (items.drop kind.checks.length) stop = none := by
  have hend {result : Except DecodeError kind.Value} :
      (result >>= fun value => failIf (leftoverError? (items.drop kind.checks.length) stop) >>=
        fun _ => .ok value) = .ok value ↔
      result = .ok value ∧ leftoverError? (items.drop kind.checks.length) stop = none := by
    rw [bind_eq_ok_iff]
    constructor
    · rintro ⟨_, hvalue, h⟩
      obtain ⟨_, hleft, heq⟩ := exists_of_bind h
      cases heq
      exact ⟨hvalue, failIf_eq_ok_iff.1 hleft⟩
    · rintro ⟨hvalue, hleft⟩
      exact ⟨value, hvalue, bind_eq_ok_iff.2 ⟨(), failIf_eq_ok_iff.2 hleft, rfl⟩⟩
  rw [decoder, record, bind_eq_ok_iff]
  simp only [collectItems_eq_ok_iff]
  constructor
  · rintro ⟨_, ⟨hchecks, rfl⟩, h⟩
    split at h
    · obtain ⟨_, hstop, h⟩ := exists_of_bind h
      exact ⟨hchecks, fun _ => failIf_eq_ok_iff.1 hstop, hend.1 h⟩
    · next hlength => exact ⟨hchecks, fun hlt => absurd hlt hlength, hend.1 h⟩
  · rintro ⟨hchecks, hstop, hbuild⟩
    refine ⟨_, ⟨hchecks, rfl⟩, ?_⟩
    dsimp only
    split
    · next hlength =>
      exact bind_eq_ok_iff.2 ⟨(), failIf_eq_ok_iff.2 (hstop hlength), hend.2 hbuild⟩
    · exact hend.2 hbuild

/-- No two fields have one name. -/
theorem name_inj (kind : RecordKind) {any other : AnyField} (hany : any ∈ kind.fields)
    (hother : other ∈ kind.fields) (h : any.field.name = other.field.name) : any = other := by
  have hnodup := kind.apart.sublist (FieldCheck.name_sublist_names kind.checks)
  rw [checks, List.map_map] at hnodup
  exact List.inj_on_of_nodup_map hnodup hany hother h

end RecordKind

/-! ## Replacing a value -/

/-- A value may be replaced by one that its field decodes to the same. -/
theorem FieldValues.agree_of_replaced {kind : RecordKind} {any : AnyField}
    (hany : any ∈ kind.fields) {tree tree' : Tree}
    (same : SameResult (any.field.decoder tree) (any.field.decoder tree'))
    (before after : List (String × Tree)) (missing : String → DecodeError) (positional : Bool) :
    Agree kind.fields ⟨before ++ (any.field.name, tree) :: after, missing, positional⟩
      ⟨before ++ (any.field.name, tree') :: after, missing, positional⟩ := by
  rw [Agree, List.forall_iff_forall_mem]
  intro other hother
  rw [get?, get?]
  dsimp only
  rw [List.lookup_append, List.lookup_append, lookup_cons_eq, lookup_cons_eq]
  cases before.lookup other.field.name with
  | some found => exact .refl _
  | none =>
    rw [Option.none_or, Option.none_or]
    by_cases hname : other.field.name = any.field.name
    · rw [if_pos hname, if_pos hname]
      obtain rfl := kind.name_inj hother hany hname
      exact same.map some
    · rw [if_neg hname, if_neg hname]
      exact .refl _

end BillingConsole.Json
