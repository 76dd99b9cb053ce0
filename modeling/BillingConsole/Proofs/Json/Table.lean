import BillingConsole.Proofs.Json.Kind

/-!
# Tables from objects that repeat names

An object may give a value for one name several times.  Its members are put into a table one by one,
in the order of the text: a new name goes to the end, and a name that is there keeps its place and
takes the new value.  So place and value may come from different members.

## What is here

* `tableOf` — the members put into a table; `KeepsFirstPlaces` — what such a table looks like.
* `names_setEntry`, `KeepsFirstPlaces.setEntry` — **one more member**; `keepsFirstPlaces_tableOf` —
  any number of them.
* `Decoded`, `mapping_object_iff` — when an object is decoded as a table, and as which.
* `Value.exists_writeMembers_concat`, `Value.writeMembers_eq_intercalate` — members as they are
  written.
-/

set_option autoImplicit false

namespace BillingConsole.Json

variable {α : Type}

/-! ## Members put into a table -/

/-- Members that may repeat names, put into a table one after the other. -/
def tableOf (members : List (String × α)) : List (String × α) :=
  members.foldl (fun table member => setEntry member.1 member.2 table) []

/-- Each name of the members stands in the table once, in the order in which the names first appear,
with the value that it was given last. -/
structure KeepsFirstPlaces (members table : List (String × α)) : Prop where
  once : DistinctNames table
  names : ∀ name, name ∈ table.map (·.1) ↔ name ∈ members.map (·.1)
  order : (table.map (·.1)).Pairwise fun name later =>
    (members.map (·.1)).idxOf name < (members.map (·.1)).idxOf later
  last : ∀ entry ∈ table, ∃ before after, members = before ++ entry :: after ∧
    entry.1 ∉ after.map (·.1)

/-- Setting a name leaves the names as they are if it is there, and else puts it last. -/
theorem names_setEntry (name : String) (value : α) (table : List (String × α)) :
    (setEntry name value table).map (·.1) =
      if name ∈ table.map (·.1) then table.map (·.1) else table.map (·.1) ++ [name] := by
  induction table with
  | nil => rfl
  | cons entry rest ih =>
    rw [setEntry]
    by_cases hname : entry.1 = name
    · rw [if_pos hname, if_pos (hname ▸ List.mem_cons_self), List.map_cons, List.map_cons, hname]
    · have hmem : name ∈ (entry :: rest).map (·.1) ↔ name ∈ rest.map (·.1) := by
        rw [List.map_cons, List.mem_cons, or_iff_right (Ne.symm hname)]
      rw [if_neg hname, List.map_cons, List.map_cons, ih]
      simp only [← List.map_cons, hmem]
      split <;> rfl

/-- An entry of a table in which a name was set is the one that was set, or an old one with another
name. -/
theorem mem_setEntry_of_distinct {name : String} {value : α} {table : List (String × α)}
    (hnames : DistinctNames table) {entry : String × α} (h : entry ∈ setEntry name value table) :
    entry = (name, value) ∨ entry ∈ table ∧ entry.1 ≠ name := by
  have hfound := lookup_of_mem (hnames.setEntry name value) h
  rw [lookup_setEntry] at hfound
  by_cases hname : entry.1 = name
  · rw [if_pos hname, Option.some_inj] at hfound
    exact .inl (Prod.ext hname hfound.symm)
  · refine .inr ⟨(mem_setEntry h).resolve_left fun heq => hname ?_, hname⟩
    rw [heq]

namespace KeepsFirstPlaces

variable {members table : List (String × α)}

/-- The names stay in the order of their first appearances. -/
theorem order_setEntry (h : KeepsFirstPlaces members table) (name : String) (value : α) :
    ((setEntry name value table).map (·.1)).Pairwise fun a b =>
      ((members ++ [(name, value)]).map (·.1)).idxOf a <
        ((members ++ [(name, value)]).map (·.1)).idxOf b := by
  -- the new member comes after the first appearance of every name that is there
  have hplace : ∀ other ∈ table.map (·.1),
      ((members ++ [(name, value)]).map (·.1)).idxOf other = (members.map (·.1)).idxOf other :=
    fun other hother => by
      rw [List.map_append, List.idxOf_append_of_mem ((h.names other).1 hother)]
  have hold : (table.map (·.1)).Pairwise fun a b =>
      ((members ++ [(name, value)]).map (·.1)).idxOf a <
        ((members ++ [(name, value)]).map (·.1)).idxOf b := by
    refine h.order.imp_of_mem fun {a b} ha hb hlt => ?_
    rwa [hplace a ha, hplace b hb]
  rw [names_setEntry]
  split_ifs with hmem
  · exact hold
  · refine List.pairwise_append.2 ⟨hold, List.pairwise_singleton _ _, ?_⟩
    intro other hother new hnew
    obtain rfl := List.mem_singleton.1 hnew
    have hnone : new ∉ members.map (·.1) := fun hin => hmem ((h.names new).2 hin)
    rw [hplace other hother, List.map_append, List.idxOf_append_of_notMem hnone]
    exact Nat.lt_add_right _ (List.idxOf_lt_length_of_mem ((h.names other).1 hother))

/-- **One more member** keeps the first places. -/
theorem setEntry (h : KeepsFirstPlaces members table) (name : String) (value : α) :
    KeepsFirstPlaces (members ++ [(name, value)]) (setEntry name value table) where
  once := h.once.setEntry name value
  names other := by
    rw [names_setEntry, List.map_append, List.mem_append, ← h.names other]
    split_ifs with hmem
    · refine (or_iff_left_of_imp fun hother => ?_).symm
      rwa [List.mem_singleton.1 hother]
    · exact List.mem_append
  order := h.order_setEntry name value
  last entry hentry := by
    rcases mem_setEntry_of_distinct h.once hentry with rfl | ⟨hold, hname⟩
    · exact ⟨members, [], rfl, List.not_mem_nil⟩
    · obtain ⟨before, after, rfl, hafter⟩ := h.last entry hold
      refine ⟨before, after ++ [(name, value)], by rw [List.append_assoc, List.cons_append], ?_⟩
      rw [List.map_append, List.mem_append, not_or]
      exact ⟨hafter, fun hmem => hname (List.mem_singleton.1 hmem)⟩

end KeepsFirstPlaces

/-- **The table of any members** has each name once, in the order of first appearances and with the
last value. -/
theorem keepsFirstPlaces_tableOf (members : List (String × α)) :
    KeepsFirstPlaces members (tableOf members) := by
  -- the members read so far are a prefix, so one more comes at the end
  induction members using List.reverseRecOn with
  | nil => exact ⟨List.nodup_nil, fun _ => Iff.rfl, .nil, nofun⟩
  | append_singleton members member ih =>
    rw [tableOf, List.foldl_concat]
    exact ih.setEntry member.1 member.2

/-! ## Objects decoded as tables -/

/-- The names of members and their values, decoded one by one. -/
def Decoded (decoder : Decoder α) :
    List (StringLiteral × Tree) → List (String × α) → Prop :=
  List.Forall₂ fun member pair => member.1.text = .ok pair.1 ∧ decoder member.2 = .ok pair.2

theorem collectEntries_eq_ok_iff {decoder : Decoder α} {members : List (StringLiteral × Tree)}
    {found entries : List (String × α)} :
    collectEntries decoder found members = .ok entries ↔ ∃ pairs, Decoded decoder members pairs ∧
      entries = pairs.foldl (fun table member => setEntry member.1 member.2 table) found := by
  induction members generalizing found with
  | nil =>
    rw [collectEntries, Except.ok.injEq]
    constructor
    · rintro rfl
      exact ⟨[], .nil, rfl⟩
    · rintro ⟨_, ⟨⟩, rfl⟩
      rfl
  | cons member rest ih =>
    obtain ⟨literal, tree⟩ := member
    simp only [collectEntries, bind_eq_ok_iff, ih]
    constructor
    · rintro ⟨name, hname, value, hvalue, pairs, hpairs, rfl⟩
      exact ⟨(name, value) :: pairs, .cons ⟨hname, hvalue⟩ hpairs, rfl⟩
    · rintro ⟨_, hpairs, rfl⟩
      obtain ⟨⟨name, value⟩, pairs, ⟨hname, hvalue⟩, hrest, rfl⟩ :=
        List.forall₂_cons_left_iff.1 hpairs
      exact ⟨name, hname, value, hvalue, pairs, hrest, rfl⟩

/-- **When an object is decoded as a table:** whether names are repeated does not matter. -/
theorem mapping_object_iff {decoder : Decoder α} {members : List (StringLiteral × Tree)}
    {stop : Stop} {table : List (String × α)} :
    mapping decoder (.object members stop) = .ok table ↔ stop.objectError? = none ∧
      ∃ pairs, Decoded decoder members pairs ∧ table = tableOf pairs := by
  rw [mapping, bind_eq_ok_iff]
  simp only [collectEntries_eq_ok_iff, bind_eq_ok_iff]
  constructor
  · rintro ⟨_, hentries, _, hstop, heq⟩
    cases heq
    exact ⟨failIf_eq_ok_iff.1 hstop, hentries⟩
  · rintro ⟨hstop, hentries⟩
    exact ⟨table, hentries, (), failIf_eq_ok_iff.2 hstop, rfl⟩

/-! ## Tables as they are written -/

namespace Value

/-- A member as it is written. -/
def memberText (member : String × Value) : List Char :=
  writeText member.1.toList ++ ':' :: member.2.write

/-- Members are written with commas between them. -/
theorem writeMembers_eq_intercalate (members : List (String × Value)) :
    writeMembers members = [','].intercalate (members.map memberText) := by
  induction members with
  | nil => rfl
  | cons member rest ih =>
    cases rest with
    | nil => simp [writeMembers, memberText]
    | cons next rest =>
      rw [writeMembers_cons, ih, List.map_cons, List.map_cons, List.map_cons,
        List.intercalate_cons_cons]
      simp [memberText]

/-- The last member is written last. -/
theorem exists_writeMembers_concat (members : List (String × Value)) (member : String × Value) :
    ∃ front, writeMembers (members ++ [member]) = front ++ memberText member := by
  induction members with
  | nil => exact ⟨[], rfl⟩
  | cons first rest ih =>
    obtain ⟨front, hfront⟩ := ih
    obtain ⟨next, more, heq⟩ : ∃ next more, rest ++ [member] = next :: more :=
      List.exists_cons_of_ne_nil (by simp)
    refine ⟨writeText first.1.toList ++ ':' :: (first.2.write ++ ',' :: front), ?_⟩
    rw [List.cons_append, heq, writeMembers_cons, ← heq, hfront]
    simp

end Value

end BillingConsole.Json
