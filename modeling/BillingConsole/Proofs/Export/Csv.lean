import BillingConsole.Export.Csv

/-!
# Reading tables back

A reader of tables that was written against the format and not against the writer: it drops the byte
order mark, takes semicolons between fields and a line feed at the end of every record, and a field
that begins with a quote runs to its closing quote, with two quotes read as one.

## What is here

* `CsvReader`, `CsvReader.read`, `CsvReader.readAll` — a reader in the middle of a text, and what a
  character and a text do to it.
* `readCsv` — the records of a text, if it is a table.
* `CsvReader.readAll_cell` — after a cell as written the reader has the cell, whatever is in it.
* `IsPlain` — a text that may stand without quotes.
* `readCsv_csvText` — **what was written is read back**, cell for cell.
-/

set_option autoImplicit false

namespace BillingConsole

/-- Where in a field a reader is. -/
inductive FieldPlace where
  | start
  | bare
  | quoted
  /-- Behind a quote in a quoted field, which closes it unless another one follows. -/
  | closing
deriving DecidableEq

/-- A reader in the middle of a text. -/
structure CsvReader where
  place : FieldPlace
  /-- The field so far. -/
  field : List Char
  /-- The fields of the record before it. -/
  fields : List (List Char)
  /-- The records before. -/
  records : List (List (List Char))
deriving DecidableEq

namespace CsvReader

/-- A reader before the first record. -/
def initial : CsvReader := ⟨.start, [], [], []⟩

/-- The field is complete, and the next one begins. -/
def endField (reader : CsvReader) : CsvReader :=
  { reader with place := .start, field := [], fields := reader.fields ++ [reader.field] }

/-- The record is complete, and the next one begins. -/
def endRecord (reader : CsvReader) : CsvReader :=
  { initial with records := reader.records ++ [reader.fields ++ [reader.field]] }

/-- A character that is part of the field. -/
def add (reader : CsvReader) (place : FieldPlace) (c : Char) : CsvReader :=
  { reader with place, field := reader.field ++ [c] }

/-- Reads a character.  Behind the closing quote only the end of the field may follow. -/
def read (reader : CsvReader) (c : Char) : Option CsvReader :=
  match reader.place with
  | .quoted =>
    if c = '"' then some { reader with place := .closing } else some (reader.add .quoted c)
  | .closing =>
    if c = '"' then some (reader.add .quoted '"')
    else if c = ';' then some reader.endField
    else if c = '\n' then some reader.endRecord
    else none
  | .start | .bare =>
    if c = ';' then some reader.endField
    else if c = '\n' then some reader.endRecord
    else if c = '"' ∧ reader.place = .start then some { reader with place := .quoted }
    else some (reader.add .bare c)

/-- Reads a text. -/
def readAll (reader : CsvReader) (text : List Char) : Option CsvReader := text.foldlM read reader

end CsvReader

/-- A text without the byte order mark at its start. -/
def dropByteOrderMark : List Char → List Char
  | [] => []
  | c :: rest => if c = '\ufeff' then rest else c :: rest

/-- The records of a text behind its byte order mark.  A record without its line feed is refused. -/
def readCsv (text : List Char) : Option (List (List (List Char))) :=
  (CsvReader.initial.readAll (dropByteOrderMark text)).bind fun reader =>
    if reader = { CsvReader.initial with records := reader.records } then some reader.records
    else none

/-- There is neither a separator in a text, nor a quote or a line break. -/
def IsPlain (text : List Char) : Prop := ∀ c ∈ text, c ≠ ';' ∧ c ≠ '"' ∧ c ≠ '\n' ∧ c ≠ '\r'

instance (text : List Char) : Decidable (IsPlain text) := List.decidableBAll _ text

theorem isPlain_cons {c : Char} {rest : List Char} :
    IsPlain (c :: rest) ↔ (c ≠ ';' ∧ c ≠ '"' ∧ c ≠ '\n' ∧ c ≠ '\r') ∧ IsPlain rest :=
  List.forall_mem_cons

theorem needsQuotes_eq_false_iff {text : List Char} : needsQuotes text = false ↔ IsPlain text := by
  simp [needsQuotes, IsPlain, and_assoc]

/-- A plain text is written as it is. -/
theorem csvCell_eq_self {cell : List Char} (h : IsPlain cell) : csvCell cell = cell := by
  rw [csvCell, needsQuotes_eq_false_iff.2 h, if_neg Bool.false_ne_true]

namespace CsvReader

variable {reader next : CsvReader} {c : Char} {text : List Char}

theorem readAll_nil (reader : CsvReader) : reader.readAll [] = some reader := rfl

theorem readAll_cons (h : reader.read c = some next) (text : List Char) :
    reader.readAll (c :: text) = next.readAll text := by
  rw [readAll, List.foldlM_cons, h]
  rfl

theorem readAll_append (h : reader.readAll text = some next) (rest : List Char) :
    reader.readAll (text ++ rest) = next.readAll rest := by
  rw [readAll, List.foldlM_append, ← readAll, h]
  rfl

/-! ## Fields -/

/-- Wherever a field may end, a semicolon ends it. -/
theorem read_semicolon (h : reader.place ≠ .quoted) : reader.read ';' = some reader.endField := by
  rw [read]
  cases hplace : reader.place with
  | quoted => exact absurd hplace h
  | start | bare | closing => rfl

/-- Wherever a field may end, a line feed ends it and the record. -/
theorem read_lineFeed (h : reader.place ≠ .quoted) : reader.read '\n' = some reader.endRecord := by
  rw [read]
  cases hplace : reader.place with
  | quoted => exact absurd hplace h
  | start | bare | closing => rfl

variable {fields : List (List Char)} {records : List (List (List Char))}

/-- Without quotes a field runs on through a plain text. -/
theorem readAll_bare (h : IsPlain text) (field : List Char) :
    (⟨.bare, field, fields, records⟩ : CsvReader).readAll text =
      some ⟨.bare, field ++ text, fields, records⟩ := by
  induction text generalizing field with
  | nil => rw [readAll_nil, List.append_nil]
  | cons c rest ih =>
    obtain ⟨⟨hsemicolon, -, hfeed, -⟩, hrest⟩ := isPlain_cons.1 h
    have hread : (⟨.bare, field, fields, records⟩ : CsvReader).read c =
        some ⟨.bare, field ++ [c], fields, records⟩ := by
      simp [read, add, hsemicolon, hfeed]
    rw [readAll_cons hread, ih hrest, List.append_assoc, List.singleton_append]

/-- Between quotes every character stands for itself, and two quotes stand for one. -/
theorem readAll_quoted (text field : List Char) :
    (⟨.quoted, field, fields, records⟩ : CsvReader).readAll
        (text.flatMap fun c => if c = '"' then ['"', '"'] else [c]) =
      some ⟨.quoted, field ++ text, fields, records⟩ := by
  induction text generalizing field with
  | nil => rw [List.flatMap_nil, readAll_nil, List.append_nil]
  | cons c rest ih =>
    have hread : (⟨.quoted, field, fields, records⟩ : CsvReader).readAll
        (if c = '"' then ['"', '"'] else [c]) =
          some ⟨.quoted, field ++ [c], fields, records⟩ := by
      by_cases hquote : c = '"'
      · rw [hquote]
        rfl
      · rw [if_neg hquote]
        simp [readAll, read, add, hquote]
    rw [List.flatMap_cons, readAll_append hread, ih, List.append_assoc, List.singleton_append]

/-- **A cell as written** leaves the reader with the cell, and where the field may end. -/
theorem readAll_cell (cell : List Char) (fields : List (List Char))
    (records : List (List (List Char))) :
    ∃ place ≠ FieldPlace.quoted,
      (⟨.start, [], fields, records⟩ : CsvReader).readAll (csvCell cell) =
        some ⟨place, cell, fields, records⟩ := by
  cases hquotes : needsQuotes cell with
  | true =>
    refine ⟨.closing, by decide, ?_⟩
    have hopen : (⟨.start, [], fields, records⟩ : CsvReader).read '"' =
        some ⟨.quoted, [], fields, records⟩ := rfl
    rw [csvCell, if_pos hquotes, List.cons_append, readAll_cons hopen,
      readAll_append (readAll_quoted cell [])]
    rfl
  | false =>
    have hplain := needsQuotes_eq_false_iff.1 hquotes
    rw [csvCell_eq_self hplain]
    cases cell with
    | nil => exact ⟨.start, by decide, rfl⟩
    | cons c rest =>
      obtain ⟨⟨hsemicolon, hquote, hfeed, -⟩, hrest⟩ := isPlain_cons.1 hplain
      have hread : (⟨.start, [], fields, records⟩ : CsvReader).read c =
          some ⟨.bare, [c], fields, records⟩ := by
        simp [read, add, hsemicolon, hquote, hfeed]
      refine ⟨.bare, by decide, ?_⟩
      rw [readAll_cons hread, readAll_bare hrest, List.singleton_append]

/-! ## Records -/

/-- A line as written is one record. -/
theorem readAll_line {cells : List (List Char)} (h : cells ≠ []) (fields : List (List Char))
    (records : List (List (List Char))) :
    (⟨.start, [], fields, records⟩ : CsvReader).readAll (csvLine (cells.map csvCell)) =
      some ⟨.start, [], [], records ++ [fields ++ cells]⟩ := by
  induction cells generalizing fields with
  | nil => exact absurd rfl h
  | cons cell rest ih =>
    obtain ⟨place, hplace, hcell⟩ := readAll_cell cell fields records
    cases rest with
    | nil =>
      rw [csvLine, List.map_singleton, List.intercalate_singleton, readAll_append hcell,
        readAll_cons (read_lineFeed hplace)]
      rfl
    | cons other rest =>
      have hline : csvLine ((cell :: other :: rest).map csvCell) =
          csvCell cell ++ ';' :: csvLine ((other :: rest).map csvCell) := by
        simp [csvLine, List.intercalate_cons_cons]
      have hnext := ih (List.cons_ne_nil _ _) (fields ++ [cell])
      rw [List.append_assoc, List.singleton_append] at hnext
      rw [hline, readAll_append hcell, readAll_cons (read_semicolon hplace)]
      exact hnext

/-- Lines as written are as many records. -/
theorem readAll_lines {rows : List (List (List Char))} (h : ∀ row ∈ rows, row ≠ [])
    (records : List (List (List Char))) :
    (⟨.start, [], [], records⟩ : CsvReader).readAll
        (rows.flatMap fun row => csvLine (row.map csvCell)) =
      some ⟨.start, [], [], records ++ rows⟩ := by
  induction rows generalizing records with
  | nil => rw [List.flatMap_nil, readAll_nil, List.append_nil]
  | cons row rest ih =>
    rw [List.flatMap_cons, readAll_append (readAll_line (h row List.mem_cons_self) [] records),
      ih fun other hother => h other (List.mem_cons_of_mem _ hother), List.append_assoc]
    rfl

end CsvReader

/-! ## Tables -/

/-- A table is read back if its titles are plain and no line of it is empty. -/
theorem readCsv_of_ne_nil {titles : List (List Char)} {rows : List (List (List Char))}
    (htitles : titles ≠ []) (hplain : ∀ title ∈ titles, IsPlain title)
    (hrows : ∀ row ∈ rows, row ≠ []) : readCsv (csvText titles rows) = some (titles :: rows) := by
  -- titles are written as they are, and so are plain cells
  have hwritten : titles.map csvCell = titles :=
    (List.map_congr_left fun title htitle => csvCell_eq_self (hplain title htitle)).trans
      (List.map_id titles)
  have hline := CsvReader.readAll_line htitles [] []
  rw [hwritten] at hline
  have hbody : CsvReader.initial.readAll
      (csvLine titles ++ rows.flatMap fun row => csvLine (row.map csvCell)) =
        some ⟨.start, [], [], titles :: rows⟩ := by
    rw [CsvReader.initial, CsvReader.readAll_append hline, CsvReader.readAll_lines hrows]
    rfl
  rw [readCsv, csvText, List.cons_append, dropByteOrderMark, if_pos rfl, hbody,
    Option.bind_some]
  exact if_pos rfl

theorem readCsv_customers (customers : List Customer) :
    readCsv (csvOfCustomers customers).toList =
      some (customerTitles.map String.toList :: customers.map Customer.csvCells) := by
  rw [csvOfCustomers, String.toList_ofList]
  refine readCsv_of_ne_nil (by decide) (by decide) fun row hrow => ?_
  obtain ⟨customer, -, rfl⟩ := List.mem_map.1 hrow
  exact List.cons_ne_nil _ _

theorem readCsv_spend (records : List SpendRecord) :
    readCsv (csvOfSpend records).toList =
      some (spendTitles.map String.toList :: records.map SpendRecord.csvCells) := by
  rw [csvOfSpend, String.toList_ofList]
  refine readCsv_of_ne_nil (by decide) (by decide) fun row hrow => ?_
  obtain ⟨record, -, rfl⟩ := List.mem_map.1 hrow
  exact List.cons_ne_nil _ _

/-- **What was written is read back**, cell for cell: any table whose titles are plain, and the two
tables the console exports.  So two exports are the same text only where all their cells agree. -/
theorem readCsv_csvText :
    (∀ (titles : List (List Char)) (rows : List (List (List Char))), titles ≠ [] →
      (∀ title ∈ titles, IsPlain title) → (∀ row ∈ rows, row ≠ []) →
        readCsv (csvText titles rows) = some (titles :: rows)) ∧
    (∀ customers : List Customer, readCsv (csvOfCustomers customers).toList =
      some (customerTitles.map String.toList :: customers.map Customer.csvCells)) ∧
    (∀ records : List SpendRecord, readCsv (csvOfSpend records).toList =
      some (spendTitles.map String.toList :: records.map SpendRecord.csvCells)) ∧
    (∀ customers others : List Customer, csvOfCustomers customers = csvOfCustomers others →
      customers.map Customer.csvCells = others.map Customer.csvCells) ∧
    (∀ records others : List SpendRecord, csvOfSpend records = csvOfSpend others →
      records.map SpendRecord.csvCells = others.map SpendRecord.csvCells) := by
  refine ⟨fun _ _ => readCsv_of_ne_nil, readCsv_customers, readCsv_spend, ?_, ?_⟩
  · intro customers others heq
    have hread := readCsv_customers customers
    rw [heq, readCsv_customers others, Option.some_inj] at hread
    exact (List.cons.inj hread).2.symm
  · intro records others heq
    have hread := readCsv_spend records
    rw [heq, readCsv_spend others, Option.some_inj] at hread
    exact (List.cons.inj hread).2.symm

/-- Cells with separators, quotes and line breaks come back, and so do empty ones. -/
theorem readCsv_csvText_quoted :
    csvText ["id".toList, "note".toList] [["a;\"b\"\n".toList, []], ["\"\"".toList, ['\r']]] =
        "\ufeffid;note\n\"a;\"\"b\"\"\n\";\n\"\"\"\"\"\";\"\r\"\n".toList ∧
      readCsv "\ufeffid;note\n\"a;\"\"b\"\"\n\";\n\"\"\"\"\"\";\"\r\"\n".toList =
        some [["id".toList, "note".toList], ["a;\"b\"\n".toList, []],
          ["\"\"".toList, ['\r']]] := by
  have hwritten : csvText ["id".toList, "note".toList]
      [["a;\"b\"\n".toList, []], ["\"\"".toList, ['\r']]] =
        "\ufeffid;note\n\"a;\"\"b\"\"\n\";\n\"\"\"\"\"\";\"\r\"\n".toList := by decide
  refine ⟨hwritten, ?_⟩
  rw [← hwritten]
  exact readCsv_csvText.1 _ _ (by decide) (by decide) (by decide)

end BillingConsole
