import ErpServer.Lib.OrderedMap
import ErpServer.Lib.Text

/-!
# Reading a CSV

A stock import is read one character at a time: a quoted cell may hold commas and line
breaks, a doubled quote in it is one quote, and a row ends on CRLF, LF or CR.  The header row
names the columns of the rows after it.
-/

namespace ErpServer.Stock

open Lib

/-- The byte order mark. -/
def BOM : Char := Char.ofNat 0xFEFF

/-! ## Splitting into cells -/

/-- The variables of the loop. -/
structure CsvReader where
  rows : List (List Text)
  row : List Text
  cell : Text
  inQuotes : Bool
  deriving DecidableEq, Repr

namespace CsvReader

def start : CsvReader := ⟨[], [], [], false⟩

def endCell (reader : CsvReader) : CsvReader :=
  { reader with row := reader.row ++ [reader.cell], cell := [] }

def endRow (reader : CsvReader) : CsvReader :=
  { reader with rows := reader.rows ++ [reader.endCell.row], row := [], cell := [] }

def add (reader : CsvReader) (char : Char) : CsvReader :=
  { reader with cell := reader.cell ++ [char] }

end CsvReader

/-- The loop of `parseCsv` over what is left of the input. -/
def scanCsv (reader : CsvReader) : Text → CsvReader
  | [] => reader
  | char :: rest =>
      if reader.inQuotes then
        if char = '"' then
          -- A doubled quote inside a quoted field is one literal quote.
          match rest with
          | next :: later =>
              if next = '"' then scanCsv (reader.add '"') later
              else scanCsv { reader with inQuotes := false } (next :: later)
          | [] => { reader with inQuotes := false }
        else scanCsv (reader.add char) rest
      else if char = '"' then scanCsv { reader with inQuotes := true } rest
      else if char = ',' then scanCsv reader.endCell rest
      else if char = '\r' ∨ char = '\n' then
        match rest with
        | next :: later =>
            -- CRLF is one line ending, not two.
            if char = '\r' ∧ next = '\n' then scanCsv reader.endRow later
            else scanCsv reader.endRow (next :: later)
        | [] => reader.endRow
      else scanCsv (reader.add char) rest

/-- What is still buffered at the end is the last row. -/
def CsvReader.finish (reader : CsvReader) : List (List Text) :=
  if reader.cell ≠ [] ∨ 0 < reader.row.length then reader.endRow.rows else reader.rows

def parseCsv (text : Text) : List (List Text) :=
  let input := if text.head? = some BOM then text.tail else text
  (scanCsv .start input).finish

/-! ## Reading a table -/

structure CsvRow where
  /-- The line of the file, counted from 1, header included. -/
  lineNo : ℕ
  cells : OrderedMap Text Text

structure CsvTable where
  headers : List Text
  rows : List CsvRow

/-- A row's cells under its headers. -/
def recordOf (headers cells : List Text) : OrderedMap Text Text :=
  headers.zipIdx.foldl
    (fun record column => record.set column.1 (Text.trim (cells.getD column.2 []))) .empty

/-- A row nothing is typed in. -/
def isBlankRow (cells : List Text) : Bool := cells.all fun cell => Text.trim cell = []

/-- Lower-casing is the runtime's own, so any mapping of texts stands for it. -/
def readCsvTable (toLowerCase : Text → Text) (text : Text) : CsvTable :=
  match parseCsv text with
  | [] => ⟨[], []⟩
  | header :: body =>
      let headers := header.map fun name => toLowerCase (Text.trim name)
      ⟨headers, (body.zipIdx 1).filterMap fun (cells, i) =>
        if isBlankRow cells then none else some ⟨i + 1, recordOf headers cells⟩⟩

/-! ## Writing a table -/

/-- The line breaks a file may use. -/
inductive LineEnding where
  | crlf
  | lf
  | cr
  deriving DecidableEq, Repr

def LineEnding.text : LineEnding → Text
  | .crlf => ['\r', '\n']
  | .lf => ['\n']
  | .cr => ['\r']

def isBreak (char : Char) : Bool := char = '\r' ∨ char = '\n'

/-- A cell is quoted when it holds a quote, a comma or a line break. -/
def needsQuotes (cell : Text) : Bool :=
  cell.any fun char => char = '"' ∨ char = ',' ∨ isBreak char

def doubled (cell : Text) : Text :=
  cell.flatMap fun char => if char = '"' then ['"', '"'] else [char]

def encodeCell (cell : Text) : Text :=
  if needsQuotes cell then '"' :: doubled cell ++ ['"'] else cell

def encodeRow (cells : List Text) : Text := [','].intercalate (cells.map encodeCell)

/-- The rows joined by a line break, with or without a final one. -/
def encodeCsv (ending : LineEnding) (final : Bool) (table : List (List Text)) : Text :=
  ending.text.intercalate (table.map encodeRow) ++ if final then ending.text else []

/-- The line breaks of a text, CRLF one of them. -/
def lineBreaks : Text → ℕ
  | [] => 0
  | [char] => if isBreak char then 1 else 0
  | char :: next :: rest =>
      if char = '\r' ∧ next = '\n' then lineBreaks rest + 1
      else (if isBreak char then 1 else 0) + lineBreaks (next :: rest)

/-- The line of the file a row starts on, counted from 1. -/
def startLine (ending : LineEnding) (table : List (List Text)) (i : ℕ) : ℕ :=
  1 + lineBreaks ((table.take i).flatMap fun row => encodeRow row ++ ending.text)

/-- The rows after the header that are not blank, each with its place in the table. -/
def dataRows (table : List (List Text)) : List (List Text × ℕ) :=
  (table.zipIdx.drop 1).filter fun row => !isBlankRow row.1

/-! ## What is written can be read back

A row of a written table is read as its cells, and the break after it ends that row and
nothing else, so a table is read back row by row.  Two texts stand for another table than the
one they were written from: one that begins with a byte order mark, and one whose last row is
a single empty cell with no line break after it. -/

variable {reader : CsvReader} {cell rest : Text} {cells : List Text}
variable {table : List (List Text)} {ending : LineEnding} {final : Bool}

/-! ## Cells -/

theorem needsQuotes_cons {char : Char} (plain : needsQuotes (char :: cell) = false) :
    (char ≠ '"' ∧ char ≠ ',' ∧ ¬(char = '\r' ∨ char = '\n')) ∧ needsQuotes cell = false := by
  simpa [needsQuotes, isBreak, and_assoc] using plain

/-- Outside quotes, plain characters are added to the cell. -/
theorem scan_plain (plain : needsQuotes cell = false) (outside : reader.inQuotes = false)
    (rest : Text) :
    scanCsv reader (cell ++ rest) =
      scanCsv { reader with cell := reader.cell ++ cell } rest := by
  induction cell generalizing reader with
  | nil => rw [List.nil_append, List.append_nil]
  | cons char more ih =>
      obtain ⟨⟨notQuote, notComma, notBreak⟩, plainMore⟩ := needsQuotes_cons plain
      have step : scanCsv reader (char :: (more ++ rest)) =
          scanCsv (reader.add char) (more ++ rest) := by
        rw [scanCsv.eq_def]
        simp [outside, notQuote, notComma, notBreak]
      rw [List.cons_append, step, @ih (reader.add char) plainMore outside]
      simp [CsvReader.add]

/-- Inside quotes every character is added, a doubled quote as one, up to the closing quote. -/
theorem scan_quoted (inside : reader.inQuotes = true) (follows : rest.head? ≠ some '"') :
    scanCsv reader (doubled cell ++ '"' :: rest) =
      scanCsv { reader with cell := reader.cell ++ cell, inQuotes := false } rest := by
  induction cell generalizing reader with
  | nil =>
      cases rest with
      | nil => simp [doubled, scanCsv, inside]
      | cons next later =>
          have other : next ≠ '"' := by
            intro same
            exact follows (congrArg some same)
          rw [doubled, List.flatMap_nil, List.nil_append, scanCsv.eq_def]
          simp [inside, other]
  | cons char more ih =>
      have step : scanCsv reader (doubled (char :: more) ++ '"' :: rest) =
          scanCsv (reader.add char) (doubled more ++ '"' :: rest) := by
        by_cases quote : char = '"'
        · rw [quote, doubled, List.flatMap_cons, if_pos rfl, scanCsv.eq_def]
          simp [inside, doubled]
        · rw [doubled, List.flatMap_cons, if_neg quote, scanCsv.eq_def]
          simp [inside, quote, doubled]
      rw [step, @ih (reader.add char) inside]
      simp [CsvReader.add]

/-- A written cell is read as itself. -/
theorem scan_cell (outside : reader.inQuotes = false) (follows : rest.head? ≠ some '"') :
    scanCsv reader (encodeCell cell ++ rest) =
      scanCsv { reader with cell := reader.cell ++ cell } rest := by
  rw [encodeCell]
  split
  · have opened : scanCsv reader ('"' :: doubled cell ++ ['"'] ++ rest) =
        scanCsv { reader with inQuotes := true } (doubled cell ++ '"' :: rest) := by
      rw [List.append_assoc, List.singleton_append, List.cons_append, scanCsv.eq_def]
      simp [outside]
    rw [opened, scan_quoted rfl follows]
    simp only [outside]
  · rename_i plain
    exact scan_plain (Bool.eq_false_iff.mpr plain) outside rest

/-! ## Rows -/

theorem encodeRow_single (cell : Text) : encodeRow [cell] = encodeCell cell :=
  List.intercalate_singleton

theorem encodeRow_cons (cell : Text) (several : cells ≠ []) :
    encodeRow (cell :: cells) = encodeCell cell ++ ',' :: encodeRow cells := by
  rw [encodeRow, List.map_cons, List.intercalate_cons_of_ne_nil (by simpa using several)]
  simp [encodeRow]

/-- A row read up to its last cell, which is still buffered. -/
def CsvReader.buffered (reader : CsvReader) (cells : List Text) : CsvReader :=
  { reader with row := reader.row ++ cells.dropLast, cell := cells.getLastD [] }

/-- A written row is read up to its last cell. -/
theorem scan_row (nonempty : cells ≠ []) (outside : reader.inQuotes = false)
    (fresh : reader.cell = []) (follows : rest.head? ≠ some '"') :
    scanCsv reader (encodeRow cells ++ rest) = scanCsv (reader.buffered cells) rest := by
  induction cells generalizing reader with
  | nil => exact absurd rfl nonempty
  | cons cell more ih =>
      cases more with
      | nil =>
          rw [encodeRow_single, scan_cell outside follows, fresh]
          simp [CsvReader.buffered]
      | cons next later =>
          have several : next :: later ≠ [] := List.cons_ne_nil _ _
          have comma : scanCsv { reader with cell := reader.cell ++ cell }
                (',' :: (encodeRow (next :: later) ++ rest)) =
              scanCsv { reader with row := reader.row ++ [cell] }
                (encodeRow (next :: later) ++ rest) := by
            rw [scanCsv.eq_def]
            simp [outside, fresh, CsvReader.endCell]
          rw [encodeRow_cons cell several, List.append_assoc, List.cons_append,
            scan_cell outside (by simp), comma,
            @ih { reader with row := reader.row ++ [cell] } several outside fresh]
          simp [CsvReader.buffered]

/-- A line break ends the row, and what follows is not part of it. -/
theorem scan_ending (outside : reader.inQuotes = false)
    (follows : ending = .cr → rest.head? ≠ some '\n') :
    scanCsv reader (ending.text ++ rest) = scanCsv reader.endRow rest := by
  cases ending with
  | crlf =>
      rw [LineEnding.text, scanCsv.eq_def]
      simp [outside]
  | lf =>
      cases rest with
      | nil => simp [LineEnding.text, scanCsv, outside]
      | cons next later =>
          rw [LineEnding.text, scanCsv.eq_def]
          simp [outside]
  | cr =>
      cases rest with
      | nil => simp [LineEnding.text, scanCsv, outside]
      | cons next later =>
          have other : next ≠ '\n' := by
            intro same
            exact follows rfl (congrArg some same)
          rw [LineEnding.text, scanCsv.eq_def]
          simp [outside, other]

/-- A row and the line break after it. -/
def terminated (ending : LineEnding) (cells : List Text) : Text := encodeRow cells ++ ending.text

theorem endRow_buffered (nonempty : cells ≠ []) (rows : List (List Text)) :
    ((⟨rows, [], [], false⟩ : CsvReader).buffered cells).endRow =
      ⟨rows ++ [cells], [], [], false⟩ := by
  simp [CsvReader.buffered, CsvReader.endRow, CsvReader.endCell, List.getLastD_eq_getLast?,
    List.getLast?_eq_getLast_of_ne_nil nonempty, List.dropLast_concat_getLast]

theorem scan_terminated (nonempty : cells ≠ []) (rows : List (List Text))
    (follows : ending = .cr → rest.head? ≠ some '\n') :
    scanCsv ⟨rows, [], [], false⟩ (terminated ending cells ++ rest) =
      scanCsv ⟨rows ++ [cells], [], [], false⟩ rest := by
  have quoteless : (ending.text ++ rest).head? ≠ some '"' := by
    cases ending <;> simp [LineEnding.text]
  rw [terminated, List.append_assoc, scan_row nonempty rfl rfl quoteless,
    scan_ending rfl follows, endRow_buffered nonempty]

/-- No cell is written with a line feed first. -/
theorem head_encodeCell : (encodeCell cell).head? ≠ some '\n' := by
  rw [encodeCell]
  split
  · simp
  · rename_i plain
    cases cell with
    | nil => simp
    | cons char more =>
        have first := (needsQuotes_cons (Bool.eq_false_iff.mpr plain)).1.2.2
        intro same
        exact first (Or.inr (Option.some.inj same))

theorem head_encodeRow (follows : rest.head? ≠ some '\n') :
    (encodeRow cells ++ rest).head? ≠ some '\n' := by
  cases cells with
  | nil => simpa [encodeRow] using follows
  | cons cell more =>
      have start (after : Text) (plain : after.head? ≠ some '\n') :
          (encodeCell cell ++ after).head? ≠ some '\n' := by
        rw [List.head?_append]
        cases written : (encodeCell cell).head? with
        | none => simpa using plain
        | some char =>
            have first := @head_encodeCell cell
            rw [written] at first
            simpa using first
      cases more with
      | nil =>
          rw [encodeRow_single]
          exact start rest follows
      | cons next later =>
          rw [encodeRow_cons cell (List.cons_ne_nil _ _), List.append_assoc]
          exact start _ (by simp)

theorem head_terminated (atCr : ending = .cr) (rows : List (List Text))
    (follows : rest.head? ≠ some '\n') :
    (rows.flatMap (terminated ending) ++ rest).head? ≠ some '\n' := by
  cases rows with
  | nil => simpa using follows
  | cons cells more =>
      rw [List.flatMap_cons, terminated, List.append_assoc, List.append_assoc]
      apply head_encodeRow
      rw [atCr]
      simp [LineEnding.text]

/-- Rows and their line breaks are read as those rows. -/
theorem scan_rows (front : List (List Text)) (rows : List (List Text))
    (nonempty : ∀ cells ∈ front, cells ≠ [])
    (follows : ending = .cr → rest.head? ≠ some '\n') :
    scanCsv ⟨rows, [], [], false⟩ (front.flatMap (terminated ending) ++ rest) =
      scanCsv ⟨rows ++ front, [], [], false⟩ rest := by
  induction front generalizing rows with
  | nil => simp
  | cons cells more ih =>
      rw [List.flatMap_cons, List.append_assoc,
        scan_terminated (nonempty cells List.mem_cons_self) rows
          (fun atCr => head_terminated atCr more (follows atCr)),
        ih (rows ++ [cells]) (fun other member => nonempty other (List.mem_cons_of_mem _ member)),
        List.append_assoc, List.singleton_append]

/-! ## Tables -/

theorem encodeCsv_concat (front : List (List Text)) (last : List Text) :
    encodeCsv ending final (front ++ [last]) =
      front.flatMap (terminated ending) ++
        (encodeRow last ++ if final then ending.text else []) := by
  have joined : ending.text.intercalate ((front ++ [last]).map encodeRow) =
      front.flatMap (terminated ending) ++ encodeRow last := by
    induction front with
    | nil => exact List.intercalate_singleton
    | cons cells more ih =>
        rw [List.cons_append, List.map_cons, List.intercalate_cons_of_ne_nil (by simp), ih]
        simp [terminated]
  rw [encodeCsv, joined, List.append_assoc]

/-- A row of one empty cell that no line break ends leaves no trace in the text. -/
def LastLost (final : Bool) (table : List (List Text)) : Prop :=
  final = false ∧ table.getLast? = some [[]]

instance : Decidable (LastLost final table) := by
  unfold LastLost
  infer_instance

/-- Past the byte order mark, the rows of a written table are read, except a lost last one. -/
theorem scan_encoded (written : table ≠ []) (nonempty : ∀ cells ∈ table, cells ≠ []) :
    (scanCsv .start (encodeCsv ending final table)).finish =
      if LastLost final table then table.dropLast else table := by
  obtain ⟨front, last, rfl⟩ := List.eq_nil_or_concat' table |>.resolve_left written
  have frontRows : ∀ cells ∈ front, cells ≠ [] := fun cells member =>
    nonempty cells (List.mem_append_left _ member)
  have lastRow : last ≠ [] := nonempty last (by simp)
  rw [encodeCsv_concat]
  cases final with
  | true =>
      have ended : scanCsv .start (front.flatMap (terminated ending) ++
          (encodeRow last ++ ending.text)) = ⟨front ++ [last], [], [], false⟩ := by
        have lastEnded := @scan_terminated [] last ending lastRow front (fun _ => by simp)
        rw [List.append_nil] at lastEnded
        have headed : ending = .cr → (encodeRow last ++ ending.text).head? ≠ some '\n' := by
          intro atCr
          rw [atCr]
          exact head_encodeRow (by simp [LineEnding.text])
        exact (scan_rows front [] frontRows headed).trans lastEnded
      rw [if_pos rfl, ended, if_neg (fun lost => absurd lost.1 (by decide))]
      simp [CsvReader.finish]
  | false =>
      have buffered : scanCsv .start (front.flatMap (terminated ending) ++
          encodeRow last) = (⟨front, [], [], false⟩ : CsvReader).buffered last := by
        have lastRead := @scan_row ⟨front, [], [], false⟩ [] last lastRow rfl rfl (by simp)
        have headed : ending = .cr → (encodeRow last).head? ≠ some '\n' := by
          intro _
          have plain := @head_encodeRow [] last (by simp)
          rwa [List.append_nil] at plain
        rw [List.append_nil] at lastRead
        exact (scan_rows front [] frontRows headed).trans lastRead
      rw [if_neg Bool.false_ne_true, List.append_nil, buffered]
      by_cases lost : last = [[]]
      · rw [if_pos ⟨rfl, by simp [lost]⟩, lost]
        simp [CsvReader.finish, CsvReader.buffered]
      · have kept : ¬LastLost false (front ++ [last]) := by
          intro gone
          exact lost (by simpa using gone.2)
        have buffers : ((⟨front, [], [], false⟩ : CsvReader).buffered last).cell ≠ [] ∨
            0 < ((⟨front, [], [], false⟩ : CsvReader).buffered last).row.length := by
          cases last with
          | nil => exact absurd rfl lastRow
          | cons cell more =>
              cases more with
              | nil => exact Or.inl fun empty => lost (by simpa [CsvReader.buffered] using empty)
              | cons next later => exact Or.inr (by simp [CsvReader.buffered])
        rw [if_neg kept, CsvReader.finish, if_pos buffers, endRow_buffered lastRow]

/-! ## The byte order mark -/

/-- What follows the first cell of a written table. -/
theorem encodeCsv_first (cells : List Text) (rows : List (List Text)) :
    ∃ more, more.head? ≠ some BOM ∧ ∀ first,
      encodeCsv ending final ((first :: cells) :: rows) = encodeCell first ++ more := by
  have tail : ∃ after, after.head? ≠ some BOM ∧ ∀ row : List Text,
      encodeCsv ending final (row :: rows) = encodeRow row ++ after := by
    have unmarked (after : Text) : (ending.text ++ after).head? ≠ some BOM := by
      cases ending <;> simp [LineEnding.text, BOM]
    by_cases alone : rows = []
    · refine ⟨if final then ending.text else [], ?_, ?_⟩
      · split
        · have plain := unmarked []
          rwa [List.append_nil] at plain
        · simp
      · intro row
        rw [alone, encodeCsv, List.map_singleton, List.intercalate_singleton]
    · refine ⟨ending.text ++ encodeCsv ending final rows, unmarked _, ?_⟩
      intro row
      rw [encodeCsv, List.map_cons, List.intercalate_cons_of_ne_nil (by simpa using alone),
        encodeCsv]
      simp only [List.append_assoc]
  obtain ⟨after, unmarked, written⟩ := tail
  by_cases alone : cells = []
  · refine ⟨after, unmarked, ?_⟩
    intro first
    rw [written, alone, encodeRow_single]
  · refine ⟨',' :: encodeRow cells ++ after, ?_, ?_⟩
    · simp [BOM]
    · intro first
      rw [written, encodeRow_cons first alone, List.append_assoc]

/-- A text begins with a byte order mark only where its first cell does. -/
theorem marked_first (nonempty : ∀ cells ∈ table, cells ≠ [])
    (marked : (encodeCsv ending final table).head? = some BOM) :
    ∃ cell cells rows, table = ((BOM :: cell) :: cells) :: rows ∧
      (encodeCsv ending final table).tail = encodeCsv ending final ((cell :: cells) :: rows) := by
  cases table with
  | nil =>
      exfalso
      cases final <;> cases ending <;> exact absurd marked (by decide)
  | cons row rows =>
      cases row with
      | nil => exact absurd rfl (nonempty [] List.mem_cons_self)
      | cons first cells =>
          obtain ⟨more, unmarked, written⟩ := @encodeCsv_first ending final cells rows
          rw [written, List.head?_append] at marked
          cases first with
          | nil =>
              have empty : encodeCell [] = [] := rfl
              rw [empty] at marked
              exact absurd marked unmarked
          | cons char cell =>
              have plain : needsQuotes (char :: cell) = false := by
                rw [← Bool.not_eq_true]
                intro quoted
                rw [encodeCell, if_pos quoted] at marked
                have mark : '"' = BOM := Option.some.inj marked
                exact absurd mark (by decide)
              have bare : encodeCell (char :: cell) = char :: cell := by
                rw [encodeCell, plain, if_neg Bool.false_ne_true]
              have bareRest : encodeCell cell = cell := by
                rw [encodeCell, (needsQuotes_cons plain).2, if_neg Bool.false_ne_true]
              have isMark : char = BOM := by
                rw [bare] at marked
                exact Option.some.inj marked
              refine ⟨cell, cells, rows, by rw [isMark], ?_⟩
              rw [written, written, bare, bareRest, List.cons_append, List.tail_cons]

/-- The text of a table reads back when it begins with no mark, its last row is not lost, and
the final line break ends a row. -/
structure ReadsBack (ending : LineEnding) (final : Bool) (table : List (List Text)) : Prop where
  unmarked : (encodeCsv ending final table).head? ≠ some BOM
  lastKept : ¬LastLost final table
  someRow : final = true → table ≠ []

theorem parseCsv_unmarked {text : Text} (unmarked : text.head? ≠ some BOM) :
    parseCsv text = (scanCsv .start text).finish := by
  simp only [parseCsv]
  rw [if_neg unmarked]

theorem parseCsv_marked {text : Text} (marked : text.head? = some BOM) :
    parseCsv text = (scanCsv .start text.tail).finish := by
  simp only [parseCsv]
  rw [if_pos marked]

theorem parseCsv_empty : parseCsv (encodeCsv ending final []) = if final then [[[]]] else [] := by
  cases final <;> cases ending <;> decide

theorem parseCsv_encodeCsv_iff (nonempty : ∀ cells ∈ table, cells ≠ []) :
    parseCsv (encodeCsv ending final table) = table ↔ ReadsBack ending final table := by
  by_cases empty : table = []
  · rw [empty, parseCsv_empty]
    cases final with
    | true =>
        constructor
        · intro same
          exact absurd same (by decide)
        · intro back
          exact absurd rfl (back.someRow rfl)
    | false =>
        constructor
        · intro _
          exact ⟨by cases ending <;> decide, fun lost => absurd lost.2 (by decide),
            fun terminated => absurd terminated (by decide)⟩
        · intro _
          rfl
  · by_cases marked : (encodeCsv ending final table).head? = some BOM
    · obtain ⟨cell, cells, rows, isTable, rest⟩ := marked_first nonempty marked
      constructor
      · intro same
        exfalso
        have others : ∀ row ∈ (cell :: cells) :: rows, row ≠ [] := by
          intro row member
          cases List.mem_cons.mp member with
          | inl first =>
              rw [first]
              exact List.cons_ne_nil _ _
          | inr later =>
              rw [isTable] at nonempty
              exact nonempty row (List.mem_cons_of_mem _ later)
        rw [parseCsv_marked marked, rest, scan_encoded (List.cons_ne_nil _ _) others,
          isTable] at same
        split at same
        · have lengths := congrArg List.length same
          simp at lengths
        · have first := (List.cons.inj (List.cons.inj same).1).1
          have lengths := congrArg List.length first
          simp at lengths
      · intro back
        exact absurd marked back.unmarked
    · rw [parseCsv_unmarked marked, scan_encoded empty nonempty]
      by_cases lost : LastLost final table
      · rw [if_pos lost]
        constructor
        · intro same
          have lengths := congrArg List.length same
          rw [List.length_dropLast] at lengths
          have positive := List.length_pos_of_ne_nil empty
          omega
        · intro back
          exact absurd lost back.lastKept
      · rw [if_neg lost]
        constructor
        · intro _
          exact ⟨marked, lost, fun _ => empty⟩
        · intro _
          rfl

end ErpServer.Stock
