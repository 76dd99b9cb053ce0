import BillingConsole.Proofs.Json.Spelling

/-!
# Records by the value of one field

A record is built from what is found under its fields.  Where one of them stands, another value may
be put: what is asked of the rest of the record does not depend on it, and neither does what is
found under the other fields.

## What is here

* `bind_eq_ok_iff_exists` — attempts that start alike.
* `OtherValues` — the values found for all fields but one; `OtherValues.put` — with a value for that
  one.
* `OtherValues.get?_put_self`, `OtherValues.get?_put_of_ne` — what is found then.
* `RecordKind.Holds.exists_decoder_iff` — **when a record is decoded, by the value of one field**,
  whether the record is written as an object or as an array.
-/

set_option autoImplicit false

namespace BillingConsole.Json

/-- Two attempts that start alike go on as their continuations do. -/
theorem bind_eq_ok_iff_exists {α β γ : Type} {x : Except DecodeError α}
    {f : α → Except DecodeError β} {g : α → Except DecodeError γ} {b : β} {P : γ → Prop}
    (h : ∀ a, f a = .ok b ↔ ∃ c, g a = .ok c ∧ P c) :
    x >>= f = .ok b ↔ ∃ c, x >>= g = .ok c ∧ P c := by
  cases x with
  | error e => exact ⟨nofun, nofun⟩
  | ok a => exact h a

/-! ## All fields but one -/

/-- The values found for the fields of a record before and after the place of one field. -/
structure OtherValues where
  before : List (String × Tree)
  after : List (String × Tree)
  missing : String → DecodeError
  positional : Bool

namespace OtherValues

/-- With a value for the field in that place. -/
def put (others : OtherValues) (name : String) (tree : Tree) : FieldValues :=
  ⟨others.before ++ (name, tree) :: others.after, others.missing, others.positional⟩

variable {α : Type} {others : OtherValues} {field : RecordField α} {name : String}

/-- The value is found under its field, if no value was found for it before. -/
theorem get?_put_self (h : field.name ∉ others.before.map (·.1)) (tree : Tree) :
    (others.put field.name tree).get? field = (field.decoder tree).map some := by
  rw [FieldValues.get?, put, List.lookup_append, lookup_of_not_mem h, Option.none_or,
    lookup_cons_eq, if_pos rfl]

variable (tree tree' : Tree) (default : α) (h : field.name ≠ name)

include h

/-- What is found under another field stays. -/
theorem get?_put_of_ne :
    (others.put name tree).get? field = (others.put name tree').get? field := by
  rw [FieldValues.get?, FieldValues.get?, put, put, List.lookup_append, List.lookup_append,
    lookup_cons_eq, lookup_cons_eq, if_neg h, if_neg h]

theorem required_put_of_ne :
    (others.put name tree).required field = (others.put name tree').required field := by
  rw [FieldValues.required, FieldValues.required, get?_put_of_ne tree tree' h]
  rfl

theorem withDefault_put_of_ne :
    (others.put name tree).withDefault field default =
      (others.put name tree').withDefault field default := by
  rw [FieldValues.withDefault, FieldValues.withDefault, get?_put_of_ne tree tree' h]

end OtherValues

/-! ## The value of one field -/

namespace RecordKind

variable {outer : RecordKind} {any : AnyField} {around : Tree → Tree}

/-- The values given for the fields in whose place items stand, around one of them. -/
theorem placed_around {before : List Tree} (hany : outer.fields[before.length]? = some any)
    (tree : Tree) (after : List Tree) :
    placed outer.checks (before ++ tree :: after) =
      placed (outer.checks.take before.length) before ++
        (any.field.name, tree) :: placed (outer.checks.drop (before.length + 1)) after := by
  rw [placed, zip_checks_around hany, List.map_append, List.map_cons]
  rfl

/-- Before the place of a field no value is given for it. -/
theorem not_mem_placed_before {before : List Tree}
    (hany : outer.fields[before.length]? = some any) :
    any.field.name ∉ (placed (outer.checks.take before.length) before).map (·.1) := by
  have hget : outer.checks[before.length]? = some any.toCheck := by
    rw [checks, List.getElem?_map, hany]
    rfl
  obtain ⟨hlt, hget⟩ := List.getElem?_eq_some_iff.1 hget
  have hsame : (outer.checks.take before.length).length ≤ before.length := by
    rw [List.length_take]
    exact Nat.min_le_left _ _
  have hbefore : (placed (outer.checks.take before.length) before).map (·.1) =
      (outer.checks.take before.length).map (·.name) := by
    conv_rhs => rw [← List.map_fst_zip hsame]
    rw [placed, List.map_map, List.map_map]
    rfl
  have hnames := outer.apart.sublist (FieldCheck.name_sublist_names outer.checks)
  rw [← List.take_append_drop before.length outer.checks, List.drop_eq_getElem_cons hlt, hget,
    List.map_append] at hnames
  rw [hbefore]
  exact fun hmem => (List.nodup_append'.1 hnames).2.2 hmem List.mem_cons_self

/-- **When a record is decoded, by the value of one field.**  The value has to be decoded, too, and
the rest of the record has to be in order, whatever the value is. -/
theorem Holds.exists_decoder_iff (h : outer.Holds any around) :
    ∃ (others : OtherValues) (inOrder : Prop),
      (inOrder → any.field.name ∉ others.before.map (·.1)) ∧
      ∀ tree value, outer.decoder (around tree) = .ok value ↔
        inOrder ∧ (∃ inner, any.field.decoder tree = .ok inner) ∧
          outer.build (others.put any.field.name tree) = .ok value := by
  cases h with
  | member hany before after hname stop =>
    obtain ⟨name, htext, hfind⟩ := find?_of_namedBy (List.mem_map_of_mem hany) hname
    let others : OtherValues := ⟨given outer.checks before, given outer.checks after,
      .missingField, false⟩
    refine ⟨others, ((∀ member ∈ before, MemberPasses outer.checks member) ∧
      ∀ member ∈ after, MemberPasses outer.checks member) ∧
        (others.before.map (·.1) ++ any.field.name :: others.after.map (·.1)).Nodup ∧
          stop.objectError? = none, fun hrest hmem => ?_, fun tree value => ?_⟩
    · exact (List.nodup_append'.1 hrest.2.1).2.2 hmem List.mem_cons_self
    · rw [decoder_object_iff, List.forall_mem_append, List.forall_mem_cons,
        memberPasses_known htext hfind, AnyField.check_eq_ok_iff, given_append,
        given_known htext hfind, List.map_append, List.map_cons]
      show (_ ∧ _ ∧ _) ∧ _ ∧ _ ∧ outer.build (others.put any.field.name tree) = _ ↔ _
      tauto
  | position before after hany stop =>
    have hlt : before.length < outer.checks.length := by
      rw [checks, List.length_map]
      exact (List.getElem?_eq_some_iff.1 hany).1
    have hdrop (tree : Tree) : (before ++ tree :: after).drop outer.checks.length =
        after.drop (outer.checks.length - before.length - 1) := by
      rw [List.drop_append, List.drop_eq_nil_of_le hlt.le, List.nil_append,
        List.drop_cons (by omega)]
    let others : OtherValues := ⟨placed (outer.checks.take before.length) before,
      placed (outer.checks.drop (before.length + 1)) after, outer.missingItem, true⟩
    refine ⟨others, ((∀ pair ∈ (outer.checks.take before.length).zip before,
        pair.1.check pair.2 = .ok ()) ∧
      ∀ pair ∈ (outer.checks.drop (before.length + 1)).zip after, pair.1.check pair.2 = .ok ()) ∧
        (others.before.length + (others.after.length + 1) < outer.checks.length →
          stop.listError? = none) ∧
        leftoverError? (after.drop (outer.checks.length - before.length - 1)) stop = none,
      fun _ hmem => ?_, fun tree value => ?_⟩
    · exact not_mem_placed_before hany hmem
    · rw [decoder_array_iff, zip_checks_around hany, List.forall_mem_append, List.forall_mem_cons,
        hdrop, placed_around hany, List.length_append, List.length_cons,
        show any.toCheck.check tree = .ok () ↔ _ from AnyField.check_eq_ok_iff]
      show (_ ∧ _ ∧ _) ∧ _ ∧ outer.build (others.put any.field.name tree) = _ ∧ _ ↔ _
      tauto

end RecordKind

end BillingConsole.Json
