import BillingConsole.Json.Decoder
import BillingConsole.Proofs.Json.Number
import BillingConsole.Proofs.Json.Text
import Mathlib.Data.List.DropRight

/-!
# Written values are read back

A value that was written is read as the tree of its literals, item by item and member by member,
whatever follows it.  Only of doubles something has to be assumed: that the decimal printed for one
reads back as that double.

## What is here

* `Binary64.ReadsBack`, `Value.ReadsBack` — the decimals of a value read back.
* `Value.tree` — a value as it is spelled.
* `Reads` — a text is read as a tree, up to what follows.
* `reads_of_decode_double` — a decimal that was read on its own is read whatever follows it.
* `reads_write` — **a written value is read as its tree.**
* `decode_eq_ok_iff` — when a text is decoded.
* `decode_toText` — **decoding what was written is decoding its tree.**
-/

set_option autoImplicit false

namespace BillingConsole

/-- The decimal that is printed for a double reads back as that double. -/
def Binary64.ReadsBack (d : Binary64) : Prop :=
  ∀ text, d.numeral? = some text → Json.decode Json.double (String.ofList text) = .ok d

namespace Json

/-! ## Values as they are spelled -/

namespace Value

mutual

/-- The doubles that occur in a value. -/
def doubles : Value → List Binary64
  | .double d => [d]
  | .list items => doublesOfItems items
  | .record members => doublesOfMembers members
  | .null | .bool _ | .integer _ | .text _ => []

/-- The doubles that occur in items. -/
def doublesOfItems : List Value → List Binary64
  | [] => []
  | item :: rest => item.doubles ++ doublesOfItems rest

/-- The doubles that occur in members. -/
def doublesOfMembers : List (String × Value) → List Binary64
  | [] => []
  | (_, value) :: rest => value.doubles ++ doublesOfMembers rest

end

/-- The decimals printed for the doubles that occur in a value read back. -/
def ReadsBack (value : Value) : Prop := ∀ d ∈ value.doubles, d.ReadsBack

mutual

/-- A value as it is spelled. -/
def tree : Value → Tree
  | .null => .null
  | .bool b => .bool b
  | .integer n => .number (integerLiteral n)
  | .double d => (readDocument (toText (.double d))).value
  | .text s => .string (textLiteral s.toList)
  | .list items => .array (itemTrees items) .closed
  | .record members => .object (memberTrees members) .closed

/-- Items as they are spelled. -/
def itemTrees : List Value → List Tree
  | [] => []
  | item :: rest => item.tree :: itemTrees rest

/-- Members as they are spelled. -/
def memberTrees : List (String × Value) → List (StringLiteral × Tree)
  | [] => []
  | (name, value) :: rest => (textLiteral name.toList, value.tree) :: memberTrees rest

end

theorem writeItems_cons (item next : Value) (rest : List Value) :
    writeItems (item :: next :: rest) = item.write ++ ',' :: writeItems (next :: rest) :=
  rfl

theorem writeMembers_cons (name : String) (value : Value) (next : String × Value)
    (rest : List (String × Value)) :
    writeMembers ((name, value) :: next :: rest) =
      writeText name.toList ++ ':' :: (value.write ++ ',' :: writeMembers (next :: rest)) := by
  rw [writeMembers, List.append_assoc, List.cons_append]
  exact nofun

theorem mem_doublesOfItems {items : List Value} {d : Binary64} :
    d ∈ doublesOfItems items ↔ ∃ item ∈ items, d ∈ item.doubles := by
  induction items with
  | nil => simp [doublesOfItems]
  | cons item rest ih => simp [doublesOfItems, ih]

theorem mem_doublesOfMembers {members : List (String × Value)} {d : Binary64} :
    d ∈ doublesOfMembers members ↔ ∃ member ∈ members, d ∈ member.2.doubles := by
  induction members with
  | nil => simp [doublesOfMembers]
  | cons member rest ih => simp [doublesOfMembers, ih]

theorem itemTrees_eq_map (items : List Value) : itemTrees items = items.map tree := by
  induction items with
  | nil => rfl
  | cons item rest ih => rw [itemTrees, ih, List.map_cons]

theorem readsBack_list {items : List Value} :
    (Value.list items).ReadsBack ↔ ∀ item ∈ items, item.ReadsBack := by
  constructor
  · intro h item hitem d hd
    exact h d (mem_doublesOfItems.2 ⟨item, hitem, hd⟩)
  · intro h d hd
    obtain ⟨item, hitem, hmem⟩ := mem_doublesOfItems.1 hd
    exact h item hitem d hmem

theorem readsBack_record {members : List (String × Value)} :
    (Value.record members).ReadsBack ↔ ∀ member ∈ members, member.2.ReadsBack := by
  constructor
  · intro h member hmember d hd
    exact h d (mem_doublesOfMembers.2 ⟨member, hmember, hd⟩)
  · intro h d hd
    obtain ⟨member, hmember, hmem⟩ := mem_doublesOfMembers.1 hd
    exact h member hmember d hmem

end Value

/-! ## White space -/

theorem skipBlank_cons {c : Char} (hc : isSpace c = false) (s : List Char) :
    skipBlank (c :: s) = c :: s := by
  rw [skipBlank, List.dropWhile_cons_of_neg (Bool.not_eq_true _ ▸ hc)]

theorem skipBlank_skipBlank (s : List Char) : skipBlank (skipBlank s) = skipBlank s :=
  List.dropWhile_idempotent _ s

theorem skipBlank_append_of_nil {s : List Char} (h : skipBlank s = []) (rest : List Char) :
    skipBlank (s ++ rest) = skipBlank rest := by
  rw [skipBlank, List.dropWhile_append, ← skipBlank, h]
  rfl

theorem skipBlank_append_of_cons {s : List Char} {c : Char} {more : List Char}
    (h : skipBlank s = c :: more) (rest : List Char) :
    skipBlank (s ++ rest) = c :: (more ++ rest) := by
  rw [skipBlank, List.dropWhile_append, ← skipBlank, h]
  rfl

/-- A value is read from its first token on. -/
theorem readValue_skipBlank (steps : Nat) (s : List Char) :
    readValue steps (skipBlank s) = readValue steps s := by
  cases steps with
  | zero => rfl
  | succ steps => rw [readValue, readValue, skipBlank_skipBlank]

/-! ## Numbers -/

/-- A sign or a digit starts a number. -/
theorem readValue_number {s : List Char} {c : Char} {more : List Char}
    (hs : skipBlank s = c :: more) (hc : c = '-' ∨ c.isDigit) (steps : Nat) :
    readValue (steps + 1) s = ofToken .number (readNumber (c :: more)) := by
  have hne (other : Char) (hother : ¬ (other = '-' ∨ other.isDigit)) : c ≠ other :=
    fun heq => hother (heq ▸ hc)
  rw [readValue, hs]
  split
  · next heq => cases heq
  · next heq => exact absurd (List.cons.inj heq).1 (hne _ (by decide))
  · next heq => exact absurd (List.cons.inj heq).1 (hne _ (by decide))
  · next heq => exact absurd (List.cons.inj heq).1 (hne _ (by decide))
  · next heq => exact absurd (List.cons.inj heq).1 (hne _ (by decide))
  · next heq => exact absurd (List.cons.inj heq).1 (hne _ (by decide))
  · next heq => exact absurd (List.cons.inj heq).1 (hne _ (by decide))
  · next heq =>
    cases heq
    rw [if_pos hc]

/-- Where a number was read, the text starts with one. -/
theorem exists_of_readValue_number {steps : Nat} {s : List Char} {literal : NumberLiteral}
    {after : Option (List Char)} (h : readValue steps s = (.number literal, after)) :
    ∃ c more left, skipBlank s = c :: more ∧ (c = '-' ∨ c.isDigit) ∧
      readNumber (c :: more) = .ok (literal, left) ∧ after = some left := by
  have hword (value : Tree) (letters : String) (rest : List Char)
      (hvalue : ∀ l, value ≠ .number l) : ofWord value letters rest ≠ (.number literal, after) := by
    intro heq
    rw [ofWord] at heq
    split at heq
    · exact hvalue literal (congrArg Prod.fst heq)
    · cases heq
  cases steps with
  | zero => cases h
  | succ steps =>
    rw [readValue] at h
    split at h
    · cases h
    · cases h
    · cases h
    · cases h
    · exact absurd h (hword _ _ _ fun _ heq => nomatch heq)
    · exact absurd h (hword _ _ _ fun _ heq => nomatch heq)
    · exact absurd h (hword _ _ _ fun _ heq => nomatch heq)
    · next c more _ _ _ _ _ _ heq =>
      split at h
      · next hc =>
        cases hnumber : readNumber (c :: more) with
        | error fault =>
          rw [hnumber] at h
          cases h
        | ok token =>
          rw [hnumber] at h
          cases h
          exact ⟨c, more, _, heq, hc, hnumber, rfl⟩
      · cases h

/-- A text is read as a tree, up to what follows. -/
def Reads (steps : Nat) (s : List Char) (tree : Tree) (rest : List Char) : Prop :=
  ∃ after, readValue steps s = (tree, some after) ∧ skipBlank after = skipBlank rest

/-- A number that was read up to the end of a text is read in the same way whatever follows it. -/
theorem reads_append_of_readValue_number {steps : Nat} {text after : List Char}
    {literal : NumberLiteral} (h : readValue steps text = (.number literal, some after))
    (hblank : skipBlank after = []) {rest : List Char} (ends : EndsNumber rest) (more : Nat) :
    Reads (more + 1) (text ++ rest) (.number literal) rest := by
  obtain ⟨c, s, left, hskip, hc, hnumber, heq⟩ := exists_of_readValue_number h
  cases heq
  have happend := readNumber_append ends hnumber
  rw [List.cons_append] at happend
  refine ⟨after ++ rest, ?_, skipBlank_append_of_nil hblank rest⟩
  rw [readValue_number (skipBlank_append_of_cons hskip rest) hc, happend]
  rfl

/-- A text that says a number and nothing else was read as one. -/
theorem readValue_of_readDocument_number {text : List Char} {literal : NumberLiteral}
    (hvalue : (readDocument (String.ofList text)).value = .number literal)
    (hmore : (readDocument (String.ofList text)).hasMore = false) :
    ∃ after, readValue (2 * text.length + 2) text = (.number literal, some after) ∧
      skipBlank after = [] := by
  rw [readDocument, String.toList_ofList] at hvalue hmore
  cases hread : readValue (2 * text.length + 2) text with
  | mk tree after? =>
    rw [hread] at hvalue hmore
    cases after? with
    | none =>
      subst hvalue
      obtain ⟨_, _, _, -, -, -, hnone⟩ := exists_of_readValue_number hread
      cases hnone
    | some after =>
      subst hvalue
      rw [Bool.not_eq_false', List.isEmpty_iff] at hmore
      exact ⟨after, rfl, hmore⟩

/-! ## Whole texts -/

section

variable {α β : Type}

theorem exists_of_bind {x : Except DecodeError α} {f : α → Except DecodeError β} {b : β}
    (h : x >>= f = .ok b) : ∃ a, x = .ok a ∧ f a = .ok b := by
  cases x with
  | error => cases h
  | ok a => exact ⟨a, rfl, h⟩

theorem exists_of_map {x : Except DecodeError α} {f : α → β} {b : β} (h : x.map f = .ok b) :
    ∃ a, x = .ok a ∧ f a = b := by
  cases x with
  | error => cases h
  | ok a =>
    cases h
    exact ⟨a, rfl, rfl⟩

/-- A text is decoded from its value, if nothing follows it. -/
theorem decode_eq_ok_iff {decoder : Decoder α} {text : String} {a : α} :
    decode decoder text = .ok a ↔
      decoder (readDocument text).value = .ok a ∧ (readDocument text).hasMore = false := by
  rw [decode]
  constructor
  · intro h
    obtain ⟨value, hvalue, hend⟩ := exists_of_bind h
    split at hend
    · cases hend
    · next hmore =>
      cases hend
      exact ⟨hvalue, Bool.not_eq_true _ ▸ hmore⟩
  · rintro ⟨hvalue, hmore⟩
    rw [hvalue, hmore]
    rfl

end

/-- A text that was decoded as a double on its own is read in the same way whatever follows it. -/
theorem reads_of_decode_double {text : List Char} {d : Binary64}
    (h : decode double (String.ofList text) = .ok d) {rest : List Char} (ends : EndsNumber rest)
    (steps : Nat) :
    Reads (steps + 1) (text ++ rest) (readDocument (String.ofList text)).value rest := by
  obtain ⟨hdouble, hmore⟩ := decode_eq_ok_iff.1 h
  cases hvalue : (readDocument (String.ofList text)).value with
  | number literal =>
    obtain ⟨after, hread, hblank⟩ := readValue_of_readDocument_number hvalue hmore
    exact reads_append_of_readValue_number hread hblank ends steps
  | null | bool | array | object | broken | string =>
    rw [hvalue] at hdouble
    cases hdouble

/-! ## Lists -/

variable {steps : Nat} {s after rest : List Char} {value : Tree}

/-- What is read as a value does not start with a closing bracket. -/
theorem skipBlank_ne_of_readValue (h : readValue steps s = (value, some after)) :
    skipBlank s ≠ [] ∧ ∀ rest, skipBlank s ≠ ']' :: rest := by
  cases steps with
  | zero => cases h
  | succ steps =>
    refine ⟨fun hs => ?_, fun rest hs => ?_⟩
    · rw [readValue, hs] at h
      cases h
    · rw [readValue, hs] at h
      simp at h

/-- The items of an array, where the first of them was read. -/
theorem readItems_of_readValue (h : readValue steps s = (value, some after)) (first : Bool) :
    readItems (steps + 1) first s =
      match skipBlank after with
      | ',' :: rest =>
        let (items, stop, after) := readItems steps false rest
        (value :: items, stop, after)
      | ']' :: rest => ([value], .closed, some rest)
      | [] => ([value], .endOfText, none)
      | _ => ([value], .unseparated, none) := by
  obtain ⟨hnil, hbracket⟩ := skipBlank_ne_of_readValue h
  rw [readItems.eq_def]
  dsimp only
  split
  · next heq => exact absurd heq (hbracket _)
  · next heq => exact absurd heq (hbracket _)
  · next heq => exact absurd heq hnil
  · have hread : readValue steps (skipBlank s) = (value, some after) :=
      (readValue_skipBlank steps s).trans h
    exact hread ▸ rfl

/-- An array goes on after a comma. -/
theorem readItems_comma (h : readValue steps s = (value, some after))
    (hafter : skipBlank after = ',' :: rest) (first : Bool) :
    readItems (steps + 1) first s =
      (value :: (readItems steps false rest).1, (readItems steps false rest).2) := by
  rw [readItems_of_readValue h, hafter]
  rfl

/-- It ends at its closing bracket. -/
theorem readItems_last (h : readValue steps s = (value, some after))
    (hafter : skipBlank after = ']' :: rest) (first : Bool) :
    readItems (steps + 1) first s = ([value], .closed, some rest) := by
  rw [readItems_of_readValue h, hafter]
  rfl

/-- The members of an object, where the name and the value of the first of them were read. -/
theorem readMembers_of_readValue (name : String) (h : readValue steps s = (value, some after))
    (first : Bool) :
    readMembers (steps + 1) first (writeText name.toList ++ ':' :: s) =
      match skipBlank after with
      | ',' :: rest =>
        let (members, stop, after) := readMembers steps false rest
        ((textLiteral name.toList, value) :: members, stop, after)
      | '\x7d' :: rest => ([(textLiteral name.toList, value)], .closed, some rest)
      | [] => ([(textLiteral name.toList, value)], .endOfText, none)
      | _ => ([(textLiteral name.toList, value)], .unseparated, none) := by
  have hname : writeText name.toList ++ ':' :: s =
      '"' :: (name.toList.flatMap escapedChar ++ '"' :: ':' :: s) := by
    rw [writeText, List.append_assoc]
    rfl
  have hcolon : skipBlank (':' :: s) = ':' :: s := skipBlank_cons (by decide) s
  rw [hname, readMembers.eq_def]
  simp only [skipBlank_cons (show isSpace '"' = false by decide), readString_flatMap, hcolon, h]
  rfl

theorem readMembers_comma (name : String) (h : readValue steps s = (value, some after))
    (hafter : skipBlank after = ',' :: rest) (first : Bool) :
    readMembers (steps + 1) first (writeText name.toList ++ ':' :: s) =
      ((textLiteral name.toList, value) :: (readMembers steps false rest).1,
        (readMembers steps false rest).2) := by
  rw [readMembers_of_readValue name h, hafter]
  rfl

theorem readMembers_last (name : String) (h : readValue steps s = (value, some after))
    (hafter : skipBlank after = '\x7d' :: rest) (first : Bool) :
    readMembers (steps + 1) first (writeText name.toList ++ ':' :: s) =
      ([(textLiteral name.toList, value)], .closed, some rest) := by
  rw [readMembers_of_readValue name h, hafter]
  rfl

/-! ## Written values -/

/-- A written word is read. -/
theorem reads_word {word : List Char} {value : Tree}
    (h : ∀ steps rest, readValue (steps + 1) (word ++ rest) = (value, some rest))
    (hsteps : 1 ≤ steps) (rest : List Char) : Reads steps (word ++ rest) value rest := by
  obtain ⟨steps, rfl⟩ := Nat.exists_eq_add_of_le' hsteps
  exact ⟨rest, h steps rest, rfl⟩

theorem readValue_quote (steps : Nat) (s : List Char) :
    readValue (steps + 1) ('"' :: s) =
      (.string (readString s).1,
        if (readString s).1.ending = .closed then some (readString s).2 else none) :=
  rfl

theorem readValue_bracket (steps : Nat) (s : List Char) :
    readValue (steps + 1) ('[' :: s) =
      (.array (readItems steps true s).1 (readItems steps true s).2.1,
        (readItems steps true s).2.2) :=
  rfl

theorem readValue_brace (steps : Nat) (s : List Char) :
    readValue (steps + 1) ('\x7b' :: s) =
      (.object (readMembers steps true s).1 (readMembers steps true s).2.1,
        (readMembers steps true s).2.2) :=
  rfl

/-- A written text is read. -/
theorem reads_text (s : String) (hsteps : 1 ≤ steps) (rest : List Char) :
    Reads steps ((Value.text s).write ++ rest) (Value.text s).tree rest := by
  refine reads_word (fun steps rest => ?_) hsteps rest
  have htext : writeText s.toList ++ rest =
      '"' :: (s.toList.flatMap escapedChar ++ '"' :: rest) := by
    rw [writeText, List.append_assoc]
    rfl
  rw [Value.write, htext, readValue_quote, readString_flatMap]
  rfl

/-- A written integer is read. -/
theorem reads_integer (n : Int) (hsteps : 1 ≤ steps) (ends : EndsNumber rest) :
    Reads steps ((Value.integer n).write ++ rest) (Value.integer n).tree rest := by
  obtain ⟨steps, rfl⟩ := Nat.exists_eq_add_of_le' hsteps
  have hread := readNumber_writeInteger n ends
  obtain ⟨c, more, hcons, hc⟩ : ∃ c more, writeInteger n = c :: more ∧ (c = '-' ∨ c.isDigit) := by
    rw [writeInteger]
    split
    · exact ⟨'-', _, rfl, .inl rfl⟩
    · cases hdigits : digits10 n.natAbs with
      | nil => exact absurd hdigits Nat.toDigits_ne_nil
      | cons c more =>
        have hmem : c ∈ digits10 n.natAbs := hdigits ▸ List.mem_cons_self
        exact ⟨c, more, rfl, .inr (Nat.isDigit_of_mem_toDigits (by decide) (by decide) hmem)⟩
  have hblank : isSpace c = false := by
    rcases hc with rfl | hc
    · rfl
    · have hne (other : Char) (hother : other.isDigit = false) : (c == other) = false :=
        beq_false_of_ne fun heq => Bool.false_ne_true ((heq ▸ hother).symm.trans hc)
      rw [isSpace, hne _ rfl, hne _ rfl, hne _ rfl, hne _ rfl]
      rfl
  rw [Value.write, hcons, List.cons_append]
  rw [hcons, List.cons_append] at hread
  refine ⟨rest, ?_, rfl⟩
  rw [readValue_number (skipBlank_cons hblank _) hc, hread]
  rfl

/-- A written double is read, if its decimal reads back. -/
theorem reads_double {d : Binary64} (hd : d.ReadsBack) (hsteps : 1 ≤ steps)
    (ends : EndsNumber rest) :
    Reads steps ((Value.double d).write ++ rest) (Value.double d).tree rest := by
  obtain ⟨steps, rfl⟩ := Nat.exists_eq_add_of_le' hsteps
  rw [Value.tree, Value.toText, Value.write]
  cases hnumeral : d.numeral? with
  | none => exact ⟨rest, rfl, rfl⟩
  | some text => exact reads_of_decode_double (hd text hnumeral) ends steps

/-- A value is read behind a bracket once what the brackets enclose is read. -/
theorem reads_list {items : List Value} (hsteps : 1 ≤ steps)
    (h : readItems (steps - 1) true (Value.writeItems items ++ ']' :: rest) =
      (Value.itemTrees items, .closed, some rest)) :
    Reads steps ((Value.list items).write ++ rest) (Value.list items).tree rest := by
  obtain ⟨steps, rfl⟩ := Nat.exists_eq_add_of_le' hsteps
  rw [Nat.add_sub_cancel] at h
  have hlist : (Value.list items).write ++ rest =
      '[' :: (Value.writeItems items ++ ']' :: rest) := by
    rw [Value.write, List.append_assoc]
    rfl
  refine ⟨rest, ?_, rfl⟩
  rw [hlist, readValue_bracket, h]
  rfl

/-- A value is read behind a brace once what the braces enclose is read. -/
theorem reads_record {members : List (String × Value)} (hsteps : 1 ≤ steps)
    (h : readMembers (steps - 1) true (Value.writeMembers members ++ '\x7d' :: rest) =
      (Value.memberTrees members, .closed, some rest)) :
    Reads steps ((Value.record members).write ++ rest) (Value.record members).tree rest := by
  obtain ⟨steps, rfl⟩ := Nat.exists_eq_add_of_le' hsteps
  rw [Nat.add_sub_cancel] at h
  have hrecord : (Value.record members).write ++ rest =
      '\x7b' :: (Value.writeMembers members ++ '\x7d' :: rest) := by
    rw [Value.write, List.append_assoc]
    rfl
  refine ⟨rest, ?_, rfl⟩
  rw [hrecord, readValue_brace, h]
  rfl

mutual

/-- **A written value is read as its tree**, whatever follows it: two steps for each character are
enough. -/
theorem reads_write (v : Value) (hv : v.ReadsBack) {steps : Nat} {rest : List Char}
    (hsteps : 2 * v.write.length + 1 ≤ steps) (ends : EndsNumber rest) :
    Reads steps (v.write ++ rest) v.tree rest := by
  have hone : 1 ≤ steps := by omega
  match v with
  | .null => exact reads_word (fun _ _ => rfl) hone rest
  | .bool true => exact reads_word (fun _ _ => rfl) hone rest
  | .bool false => exact reads_word (fun _ _ => rfl) hone rest
  | .integer n => exact reads_integer n hone ends
  | .double d => exact reads_double (hv d List.mem_cons_self) hone ends
  | .text s => exact reads_text s hone rest
  | .list items =>
    rw [Value.write, List.length_append, List.length_cons, List.length_singleton] at hsteps
    exact reads_list hone
      (readItems_write items (Value.readsBack_list.1 hv) (by omega) fun _ => rfl)
  | .record members =>
    rw [Value.write, List.length_append, List.length_cons, List.length_singleton] at hsteps
    exact reads_record hone
      (readMembers_write members (Value.readsBack_record.1 hv) (by omega) fun _ => rfl)

/-- Written items are read up to the closing bracket. -/
theorem readItems_write (items : List Value) (hitems : ∀ item ∈ items, item.ReadsBack)
    {steps : Nat} {rest : List Char} (hsteps : 2 * (Value.writeItems items).length + 2 ≤ steps)
    {first : Bool} (hfirst : items = [] → first = true) :
    readItems steps first (Value.writeItems items ++ ']' :: rest) =
      (Value.itemTrees items, .closed, some rest) := by
  obtain ⟨steps, rfl⟩ := Nat.exists_eq_add_of_le' (show 1 ≤ steps by omega)
  match items with
  | [] =>
    rw [hfirst rfl]
    rfl
  | [item] =>
    rw [Value.writeItems] at hsteps ⊢
    obtain ⟨after, hread, hafter⟩ := reads_write item (hitems item List.mem_cons_self)
      (show 2 * item.write.length + 1 ≤ steps by omega)
      (show EndsNumber (']' :: rest) from .inr (.inl rfl))
    exact readItems_last hread hafter first
  | item :: next :: items =>
    rw [Value.writeItems_cons, List.length_append, List.length_cons] at hsteps
    rw [Value.writeItems_cons, List.append_assoc, List.cons_append]
    obtain ⟨after, hread, hafter⟩ := reads_write item (hitems item List.mem_cons_self)
      (show 2 * item.write.length + 1 ≤ steps by omega)
      (show EndsNumber (',' :: (Value.writeItems (next :: items) ++ ']' :: rest)) from .inl rfl)
    rw [readItems_comma hread hafter, readItems_write (next :: items)
      (fun item hitem => hitems item (List.mem_cons_of_mem _ hitem)) (by omega) nofun]
    rfl

/-- Written members are read up to the closing brace. -/
theorem readMembers_write (members : List (String × Value))
    (hmembers : ∀ member ∈ members, member.2.ReadsBack) {steps : Nat} {rest : List Char}
    (hsteps : 2 * (Value.writeMembers members).length + 2 ≤ steps)
    {first : Bool} (hfirst : members = [] → first = true) :
    readMembers steps first (Value.writeMembers members ++ '\x7d' :: rest) =
      (Value.memberTrees members, .closed, some rest) := by
  obtain ⟨steps, rfl⟩ := Nat.exists_eq_add_of_le' (show 1 ≤ steps by omega)
  match members with
  | [] =>
    rw [hfirst rfl]
    rfl
  | [(name, value)] =>
    rw [Value.writeMembers, List.length_append, List.length_cons] at hsteps
    rw [Value.writeMembers, List.append_assoc, List.cons_append]
    obtain ⟨after, hread, hafter⟩ := reads_write value (hmembers (name, value) List.mem_cons_self)
      (show 2 * value.write.length + 1 ≤ steps by omega)
      (show EndsNumber ('\x7d' :: rest) from .inr (.inr rfl))
    exact readMembers_last name hread hafter first
  | (name, value) :: next :: members =>
    rw [Value.writeMembers_cons, List.length_append, List.length_cons, List.length_append,
      List.length_cons] at hsteps
    rw [Value.writeMembers_cons, List.append_assoc, List.cons_append, List.append_assoc,
      List.cons_append]
    obtain ⟨after, hread, hafter⟩ := reads_write value (hmembers (name, value) List.mem_cons_self)
      (show 2 * value.write.length + 1 ≤ steps by omega)
      (show EndsNumber (',' :: (Value.writeMembers (next :: members) ++ '\x7d' :: rest)) from
        .inl rfl)
    rw [readMembers_comma name hread hafter, readMembers_write (next :: members)
      (fun member hmember => hmembers member (List.mem_cons_of_mem _ hmember)) (by omega) nofun]
    rfl

end

/-- Nothing follows the value of a written text. -/
theorem readDocument_toText {v : Value} (hv : v.ReadsBack) :
    readDocument v.toText = ⟨v.tree, false⟩ := by
  obtain ⟨after, hread, hafter⟩ := reads_write v hv
    (show 2 * v.write.length + 1 ≤ 2 * v.write.length + 2 by omega)
    (show EndsNumber [] from trivial)
  rw [List.append_nil] at hread
  rw [readDocument, Value.toText, String.toList_ofList, hread]
  dsimp only
  rw [hafter]
  rfl

/-- **Decoding what was written is decoding its tree.** -/
theorem decode_toText {α : Type} {decoder : Decoder α} {v : Value} (hv : v.ReadsBack) {a : α}
    (h : decoder v.tree = .ok a) : decode decoder v.toText = .ok a := by
  rw [decode_eq_ok_iff, readDocument_toText hv]
  exact ⟨h, rfl⟩

end Json

end BillingConsole
