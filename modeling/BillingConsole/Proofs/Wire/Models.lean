import BillingConsole.Proofs.Json.Place
import BillingConsole.Proofs.Json.Table
import BillingConsole.Proofs.Wire.Spelling
import BillingConsole.Screen.Spend

/-!
# Models in the order received

The usage by model in a record is an object whose members may repeat a model.  The table it is
decoded to has each model once, where it first stands in the text and with what is said of it last;
the table is written, and shown in the rows below the customer, in this order.

## What is here

* `SpendRecord.build_put` — a record is built from its usage by model and from the rest of it.
* `SpendRecord.decoder_object_iff` — when a record with an object for its usage by model is decoded.
* `SpendRecord.ListsModels` — the order of a table, of what is written for it and of its rows.
* `SpendRecord.listsModels_decode` — **the models keep the order in which they were received.**
-/

set_option autoImplicit false

namespace BillingConsole

open Json

namespace SpendRecord

/-! ## The usage by model and the rest of a record -/

/-- A record is built from its usage by model and from the rest of it. -/
theorem build_put {others : OtherValues} (h : byModelField.name ∉ others.before.map (·.1))
    {tree tree' : Tree} {table table' : List (String × ModelSpend)}
    (htable : byModelField.decoder tree = .ok table)
    (htable' : byModelField.decoder tree' = .ok table') {record : SpendRecord} :
    build (others.put byModelField.name tree) = .ok record ↔
      ∃ base, build (others.put byModelField.name tree') = .ok base ∧
        record = { base with byModel := table } := by
  have hput {tree : Tree} {table : List (String × ModelSpend)}
      (htable : byModelField.decoder tree = .ok table) :
      (others.put byModelField.name tree).withDefault byModelField [] = .ok table := by
    refine withDefault_of_found ?_ []
    rw [OtherValues.get?_put_self h, htable]
    rfl
  rw [build, build, hput htable, hput htable']
  -- the other fields are found alike, whatever stands for the usage by model
  simp (disch := decide) only [OtherValues.required_put_of_ne tree tree',
    OtherValues.withDefault_put_of_ne tree tree']
  exact bind_eq_ok_iff_exists fun _ => bind_eq_ok_iff_exists fun _ => bind_eq_ok_iff_exists fun _ =>
    bind_eq_ok_iff_exists fun _ => bind_eq_ok_iff_exists fun _ => bind_eq_ok_iff_exists fun _ =>
    bind_eq_ok_iff_exists fun _ => by
    constructor
    · intro hrecord
      cases hrecord
      exact ⟨_, rfl, rfl⟩
    · rintro ⟨_, hbase, rfl⟩
      cases hbase
      rfl

/-- **When a record with an object for its usage by model is decoded:** if it is with an empty
object there, and each member of the object is.  Only the usage by model differs. -/
theorem decoder_object_iff {around : Tree → Tree} (h : kind.Holds ⟨byModelField⟩ around)
    {models : List (StringLiteral × Tree)} {stop : Stop} {record : SpendRecord} :
    decoder (around (.object models stop)) = .ok record ↔
      ∃ base pairs, decoder (around (.object [] .closed)) = .ok base ∧
        stop.objectError? = none ∧ Decoded ModelSpend.decoder models pairs ∧
        record = { base with byModel := tableOf pairs } := by
  have hempty : byModelField.decoder (.object [] .closed) = .ok [] := rfl
  obtain ⟨others, inOrder, hfree, hiff⟩ := h.exists_decoder_iff
  have hdecoder (tree : Tree) (value : SpendRecord) : decoder (around tree) = .ok value ↔
      inOrder ∧ (∃ table, byModelField.decoder tree = .ok table) ∧
        build (others.put byModelField.name tree) = .ok value := hiff tree value
  simp only [hdecoder]
  constructor
  · rintro ⟨horder, ⟨table, htable⟩, hbuild⟩
    obtain ⟨base, hbase, rfl⟩ := (build_put (hfree horder) htable hempty).1 hbuild
    obtain ⟨hstop, pairs, hpairs, rfl⟩ := mapping_object_iff.1 htable
    exact ⟨base, pairs, ⟨horder, ⟨[], hempty⟩, hbase⟩, hstop, hpairs, rfl⟩
  · rintro ⟨base, pairs, ⟨horder, -, hbase⟩, hstop, hpairs, rfl⟩
    have htable : byModelField.decoder (.object models stop) = .ok (tableOf pairs) :=
      mapping_object_iff.2 ⟨hstop, pairs, hpairs, rfl⟩
    exact ⟨horder, ⟨_, htable⟩, (build_put (hfree horder) htable hempty).2 ⟨base, hbase, rfl⟩⟩

/-! ## The order of the models -/

/-- The usage of a model as it is written. -/
def entryText (usage : String × ModelSpend) : List Char :=
  Value.memberText (usage.1, usage.2.encode)

/-- A record lists the models of these members, in one order: its table has each model where it
first stands among them, with what is said of it last; the table is written as the last member of
the record, entry by entry, and shown below the row of the customer, row by row. -/
structure ListsModels (pairs : List (String × ModelSpend)) (record : SpendRecord) : Prop where
  table : KeepsFirstPlaces pairs record.byModel
  written : ∃ front, record.encode.toText.toList =
    front ++ writeText "spend_by_model".toList ++ [':', '\x7b'] ++
      [','].intercalate (record.byModel.map entryText) ++ ['\x7d', '\x7d']
  shown : ∃ customer, SpendScreen.recordViews true record =
    customer :: record.byModel.map fun usage => .row [.cell [], .cellText usage.1,
      .cellText (usd usage.2.spend), .cellText (countText usage.2.requests.toNat),
      .cellText (countText usage.2.tokens.toNat)]

/-- The usage by model is written last. -/
theorem exists_toText_encode (record : SpendRecord) : ∃ front, record.encode.toText.toList =
    front ++ writeText "spend_by_model".toList ++ [':', '\x7b'] ++
      [','].intercalate (record.byModel.map entryText) ++ ['\x7d', '\x7d'] := by
  obtain ⟨front, hfront⟩ := Value.exists_writeMembers_concat [
    (customerIdField.name, .text record.customerId),
    (aliasField.name, .ofOption .text record.aliasName),
    (spendField.name, .double record.spend),
    (requestsField.name, encodeWord64 record.requests),
    (tokensField.name, encodeWord64 record.tokens),
    (promptTokensField.name, encodeWord64 record.promptTokens),
    (completionTokensField.name, encodeWord64 record.completionTokens)]
    (byModelField.name, .record (record.byModel.map fun usage => (usage.1, usage.2.encode)))
  refine ⟨'\x7b' :: front, ?_⟩
  have hmodels : Value.writeMembers (record.byModel.map fun usage => (usage.1, usage.2.encode)) =
      [','].intercalate (record.byModel.map entryText) := by
    rw [Value.writeMembers_eq_intercalate, List.map_map]
    rfl
  rw [Value.memberText, Value.write, hmodels] at hfront
  rw [encode, Value.toText, String.toList_ofList, Value.write]
  refine (congrArg (fun written => '\x7b' :: written ++ ['\x7d']) hfront).trans ?_
  simp [byModelField]

theorem listsModels_tableOf (base : SpendRecord) (pairs : List (String × ModelSpend)) :
    ListsModels pairs { base with byModel := tableOf pairs } where
  table := keepsFirstPlaces_tableOf pairs
  written := exists_toText_encode _
  shown := ⟨_, rfl⟩

/-- **The models keep the order in which they were received.**  Whatever record text has an object
for its usage by model, with any members and models repeated in any way: what it is decoded to lists
the models of these members.  It is decoded exactly if each member is, nothing is wrong behind them,
and the text would be decoded with an empty object there. -/
theorem listsModels_decode (text : String) (around : Tree → Tree)
    (hplace : kind.Holds ⟨byModelField⟩ around) (models : List (StringLiteral × Tree)) (stop : Stop)
    (htext : (readDocument text).value = around (.object models stop)) :
    (∀ record, decode decoder text = .ok record →
      ∃ pairs, Decoded ModelSpend.decoder models pairs ∧ ListsModels pairs record) ∧
    ((∃ record, decode decoder text = .ok record) ↔
      (∃ base, decoder (around (.object [] .closed)) = .ok base) ∧
        (∃ pairs, Decoded ModelSpend.decoder models pairs) ∧ stop.objectError? = none ∧
        (readDocument text).hasMore = false) := by
  have hdecode (record : SpendRecord) : decode decoder text = .ok record ↔
      (∃ base pairs, decoder (around (.object [] .closed)) = .ok base ∧
        stop.objectError? = none ∧ Decoded ModelSpend.decoder models pairs ∧
        record = { base with byModel := tableOf pairs }) ∧ (readDocument text).hasMore = false := by
    rw [decode_eq_ok_iff, htext, decoder_object_iff hplace]
  constructor
  · intro record hrecord
    obtain ⟨⟨base, pairs, -, -, hpairs, rfl⟩, -⟩ := (hdecode record).1 hrecord
    exact ⟨pairs, hpairs, listsModels_tableOf base pairs⟩
  · constructor
    · rintro ⟨record, hrecord⟩
      obtain ⟨⟨base, pairs, hbase, hstop, hpairs, -⟩, hmore⟩ := (hdecode record).1 hrecord
      exact ⟨⟨base, hbase⟩, ⟨pairs, hpairs⟩, hstop, hmore⟩
    · rintro ⟨⟨base, hbase⟩, ⟨pairs, hpairs⟩, hstop, hmore⟩
      exact ⟨_, (hdecode _).2 ⟨⟨base, pairs, hbase, hstop, hpairs, rfl⟩, hmore⟩⟩

/-- The usage of a model `b`, of a model `a`, and of `b` once more. -/
def modelAgain : List (String × Value) :=
  [("b", .record [("tokens", .integer 1)]), ("a", .record []),
    ("b", .record [("tokens", .integer 2)])]

/-- The model that is given again stands where it was given first, with what was given last. -/
theorem listsModels_decode_again : ∃ record pairs,
    decode decoder
        (Value.record [("user_id", .text "u"), ("spend_by_model", .record modelAgain)]).toText =
      .ok record ∧
    record.byModel.map (fun usage => (usage.1, usage.2.tokens)) = [("b", 2), ("a", 0)] ∧
    Decoded ModelSpend.decoder (Value.memberTrees modelAgain) pairs ∧ ListsModels pairs record := by
  let written : Value := .record [("user_id", .text "u"), ("spend_by_model", .record modelAgain)]
  have hreads : written.ReadsBack := fun d hd => absurd hd List.not_mem_nil
  have hplace : kind.Holds ⟨byModelField⟩ fun tree => .object
      ([(textLiteral "user_id".toList, .string (textLiteral "u".toList))] ++
        [(textLiteral "spend_by_model".toList, tree)]) .closed :=
    .member (by simp [kind]) _ _ ⟨"spend_by_model", by decide, by decide⟩ .closed
  have htext : (readDocument written.toText).value = written.tree := by
    rw [readDocument_toText hreads]
  have hdecode : decode decoder written.toText = .ok ⟨"u", none, .zero false, 0, 0, 0, 0,
      [("b", ⟨.zero false, 0, 2⟩), ("a", ⟨.zero false, 0, 0⟩)]⟩ :=
    decode_toText hreads (by decide +kernel)
  obtain ⟨pairs, hpairs, hlists⟩ := (listsModels_decode written.toText _ hplace
    (Value.memberTrees modelAgain) .closed htext).1 _ hdecode
  exact ⟨_, pairs, hdecode, rfl, hpairs, hlists⟩

end SpendRecord

end BillingConsole
