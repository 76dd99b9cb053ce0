import BillingConsole.Entries
import BillingConsole.Json.Literal
import BillingConsole.Json.Reader

/-!
# Decoding

A decoder turns a value as written into a value of a type, or says why it cannot.  It looks at a
text in reading order and reports what it meets first.

## What is here

* `Decoder` — and the decoders for texts, numbers, truth values, lists and values that may be
  missing.
* `skip` — what is checked of a value nobody asked for.
* `RecordField`, `record` — decoding a record from named members or from items in field order.
* `mapping` — decoding a table from an object; a repeated name keeps its first place and takes its
  last value.
* `decode` — decoding a whole text.
-/

set_option autoImplicit false

namespace BillingConsole.Json

/-- Turns a value as written into a value of a type. -/
abbrev Decoder (α : Type) := Tree → Except DecodeError α

/-! ## Single values -/

/-- The error for a value of the wrong type.  Literals are read before they are refused, so their
own faults come first. -/
def mismatch (expected : String) : Tree → DecodeError
  | .null => .invalidType .null expected
  | .bool b => .invalidType (.boolean b) expected
  | .number literal => match literal.numeral with
    | .ok (.integer n) => .invalidType (.integer n) expected
    | .ok (.double d) => .invalidType (.double d) expected
    | .error error => error
  | .string literal => match literal.text with
    | .ok s => .invalidType (.text s) expected
    | .error error => error
  | .array .. => .invalidType .sequence expected
  | .object .. => .invalidType .map expected
  | .broken fault => fault.error

/-- A text. -/
def text : Decoder String
  | .string literal => literal.text
  | tree => .error (mismatch "a string" tree)

/-- A truth value. -/
def boolean : Decoder Bool
  | .bool b => .ok b
  | tree => .error (mismatch "a boolean" tree)

/-- A double; integers are taken for doubles. -/
def double : Decoder Binary64
  | .number literal => do
    match ← literal.numeral with
    | .integer n => .ok (.ofInt n)
    | .double d => .ok d
  | tree => .error (mismatch "f64" tree)

/-- An integer within bounds. -/
def integerWithin (low high : Int) (expected : String) : Decoder Int
  | .number literal => do
    match ← literal.numeral with
    | .integer n =>
      if low ≤ n ∧ n ≤ high then .ok n else .error (.invalidValue n expected)
    | .double d => .error (.invalidType (.double d) expected)
  | tree => .error (mismatch expected tree)

/-- An integer of 64 bits without a sign. -/
def word64 : Decoder UInt64 := fun tree =>
  (integerWithin 0 (UInt64.size - 1) "u64" tree).map fun n => UInt64.ofNat n.toNat

/-- An integer of 32 bits without a sign. -/
def word32 : Decoder UInt32 := fun tree =>
  (integerWithin 0 (UInt32.size - 1) "u32" tree).map fun n => UInt32.ofNat n.toNat

/-- An integer of 64 bits with a sign. -/
def signed64 : Decoder Int64 := fun tree =>
  (integerWithin Int64.minValue.toInt Int64.maxValue.toInt "i64" tree).map Int64.ofInt

/-- A value that may be null. -/
def nullable {α : Type} (decoder : Decoder α) : Decoder (Option α)
  | .null => .ok none
  | tree => (decoder tree).map some

/-! ## Values nobody asked for -/

/-- The error at the end of a list of items that is passed over, if it has one. -/
def Stop.skipListError? : Stop → Option DecodeError
  | .dangling => some (.malformed .expectedValue)
  | .endOfText => some (.endOfText .list)
  | .unseparated => some (.malformed .expectedListCommaOrEnd)
  | .closed | .endAfterComma | .badName | .broken => none

/-- The error at the end of a list of members that is passed over, if it has one. -/
def Stop.skipObjectError? : Stop → Option DecodeError
  | .dangling | .badName => some (.malformed .nameNotString)
  | .endOfText | .endAfterComma => some (.endOfText .object)
  | .unseparated => some (.malformed .expectedObjectCommaOrEnd)
  | .closed | .broken => none

/-- Fails with an error if there is one. -/
def failIf : Option DecodeError → Except DecodeError Unit
  | none => .ok ()
  | some error => .error error

mutual

/-- Passes over a value.  It has to be well formed, but surrogates are not paired and numbers not
computed. -/
def skip : Tree → Except DecodeError Unit
  | .null | .bool _ | .number _ => .ok ()
  | .string literal => failIf literal.ending.error?
  | .array items stop => do
    skipItems items
    failIf stop.skipListError?
  | .object members stop => do
    skipMembers members
    failIf stop.skipObjectError?
  | .broken fault => .error fault.skipError

/-- Passes over items. -/
def skipItems : List Tree → Except DecodeError Unit
  | [] => .ok ()
  | item :: rest => do
    skip item
    skipItems rest

/-- Passes over members. -/
def skipMembers : List (StringLiteral × Tree) → Except DecodeError Unit
  | [] => .ok ()
  | (name, value) :: rest => do
    failIf name.ending.error?
    skip value
    skipMembers rest

end

/-! ## Lists -/

/-- The error at the end of a list of items, if it has one. -/
def Stop.listError? : Stop → Option DecodeError
  | .dangling => some (.malformed .trailingComma)
  | .endOfText => some (.endOfText .list)
  | .unseparated => some (.malformed .expectedListCommaOrEnd)
  | .closed | .endAfterComma | .badName | .broken => none

/-- The error at the end of a list of members, if it has one. -/
def Stop.objectError? : Stop → Option DecodeError
  | .dangling => some (.malformed .trailingComma)
  | .endOfText => some (.endOfText .object)
  | .endAfterComma => some (.endOfText .value)
  | .badName => some (.malformed .nameNotString)
  | .unseparated => some (.malformed .expectedObjectCommaOrEnd)
  | .closed | .broken => none

/-- Any number of values. -/
def list {α : Type} (decoder : Decoder α) : Decoder (List α)
  | .array items stop => do
    let values ← items.mapM decoder
    failIf stop.listError?
    .ok values
  | tree => .error (mismatch "a sequence" tree)

/-! ## Records -/

/-- A field of a record: the name it is written with, other names it is known by, and how its value
is decoded. -/
structure RecordField (α : Type) where
  name : String
  decoder : Decoder α
  aliases : List String := []

/-- What decoding a record needs to know of a field before its value has a place to go. -/
structure FieldCheck where
  name : String
  aliases : List String
  check : Tree → Except DecodeError Unit

/-- A field without the type of its value. -/
def RecordField.toCheck {α : Type} (field : RecordField α) : FieldCheck :=
  ⟨field.name, field.aliases, fun tree => (field.decoder tree).map fun _ => ()⟩

/-- Whether a field is known by a name. -/
def FieldCheck.answers (field : FieldCheck) (name : String) : Bool :=
  field.name == name || field.aliases.contains name

/-- The values found for the fields of a record, by field name. -/
structure FieldValues where
  values : List (String × Tree)
  /-- What the absence of a field means where it has no default. -/
  missing : String → DecodeError
  /-- Whether the values came as items in field order. -/
  positional : Bool

namespace FieldValues

/-- The value found for a field, decoded. -/
def get? {α : Type} (found : FieldValues) (field : RecordField α) : Except DecodeError (Option α) :=
  match found.values.lookup field.name with
  | some tree => (field.decoder tree).map some
  | none => .ok none

/-- The value of a field that must be there. -/
def required {α : Type} (found : FieldValues) (field : RecordField α) : Except DecodeError α := do
  match ← found.get? field with
  | some value => .ok value
  | none => .error (found.missing field.name)

/-- The value of a field that has a default. -/
def withDefault {α : Type} (found : FieldValues) (field : RecordField α) (default : α) :
    Except DecodeError α := do
  match ← found.get? field with
  | some value => .ok value
  | none => .ok default

/-- The value of a field that may be left out among named members and must have its place among
items. -/
def omissible {α : Type} (found : FieldValues) (field : RecordField (Option α)) :
    Except DecodeError (Option α) :=
  if found.positional then found.required field else found.withDefault field none

end FieldValues

/-- The values of the fields among named members, with what was found so far. -/
def collectMembers (fields : List FieldCheck) :
    List (String × Tree) → List (StringLiteral × Tree) →
      Except DecodeError (List (String × Tree))
  | found, [] => .ok found
  | found, (literal, value) :: rest => do
    let name ← literal.text
    match fields.find? (·.answers name) with
    | none =>
      skip value
      collectMembers fields found rest
    | some field =>
      if (found.lookup field.name).isSome then .error (.duplicateField field.name)
      else
        field.check value
        collectMembers fields (found ++ [(field.name, value)]) rest

/-- The values of the fields among items in field order, and the items left over. -/
def collectItems : List FieldCheck → List Tree →
    Except DecodeError (List (String × Tree) × List Tree)
  | field :: fields, item :: items => do
    field.check item
    let (found, left) ← collectItems fields items
    .ok ((field.name, item) :: found, left)
  | _, items => .ok ([], items)

/-- The error after the last field of a record written as items, if there is one. -/
def leftoverError? (left : List Tree) (stop : Stop) : Option DecodeError :=
  if left.isEmpty then
    match stop with
    | .unseparated => some (.malformed .trailingCharacters)
    | _ => stop.listError?
  else some (.malformed .trailingCharacters)

/-- A record with a name and fields, written as an object or as an array in field order. -/
def record {α : Type} (name : String) (fields : List FieldCheck)
    (build : FieldValues → Except DecodeError α) : Decoder α
  | .object members stop => do
    let values ← collectMembers fields [] members
    failIf stop.objectError?
    build ⟨values, .missingField, false⟩
  | .array items stop => do
    let (values, left) ← collectItems fields items
    let missing := fun field : String =>
      DecodeError.invalidLength (fields.findIdx (·.name == field)) name fields.length
    if values.length < fields.length then failIf stop.listError?
    let value ← build ⟨values, missing, true⟩
    failIf (leftoverError? left stop)
    .ok value
  | tree => .error (mismatch ("struct " ++ name) tree)

/-! ## Tables -/

/-- The entries of a table, added to those found so far. -/
def collectEntries {α : Type} (decoder : Decoder α) :
    List (String × α) → List (StringLiteral × Tree) → Except DecodeError (List (String × α))
  | found, [] => .ok found
  | found, (literal, tree) :: rest => do
    let name ← literal.text
    let value ← decoder tree
    collectEntries decoder (setEntry name value found) rest

/-- A table with values of one type, in the order its names first appear. -/
def mapping {α : Type} (decoder : Decoder α) : Decoder (List (String × α))
  | .object members stop => do
    let entries ← collectEntries decoder [] members
    failIf stop.objectError?
    .ok entries
  | tree => .error (mismatch "a map" tree)

/-! ## Whole texts -/

/-- The value of a text with nothing behind it. -/
def decode {α : Type} (decoder : Decoder α) (text : String) : Except DecodeError α := do
  let document := readDocument text
  let value ← decoder document.value
  if document.hasMore then .error (.malformed .trailingCharacters)
  .ok value

end BillingConsole.Json
