import ErpServer.Stock.CsvRoundTrip

/-!
# The line a row starts on

A row is numbered by its place among the rows.  That is the line of the file it starts on as
long as every row before it takes one line, whatever blank rows are dropped.
-/

namespace ErpServer.Stock

open Lib

variable {reader : CsvReader} {rest : Text} {cells : List Text} {table : List (List Text)}
variable {ending : LineEnding} {final : Bool}

/-! ## Counting line breaks -/

theorem lineBreaks_cons {char : Char} (plain : isBreak char = false) :
    lineBreaks (char :: rest) = lineBreaks rest := by
  have notReturn : char ≠ '\r' := by
    intro same
    rw [same] at plain
    exact absurd plain (by decide)
  cases rest with
  | nil => simp [lineBreaks, plain]
  | cons next later => simp [lineBreaks, plain, notReturn]

theorem lineBreaks_plain {text : Text} (plain : ∀ char ∈ text, isBreak char = false)
    (rest : Text) : lineBreaks (text ++ rest) = lineBreaks rest := by
  induction text with
  | nil => rfl
  | cons char more ih =>
      rw [List.cons_append, lineBreaks_cons (plain char List.mem_cons_self)]
      exact ih fun other member => plain other (List.mem_cons_of_mem _ member)

theorem lineBreaks_ending (follows : ending = .cr → rest.head? ≠ some '\n') :
    lineBreaks (ending.text ++ rest) = lineBreaks rest + 1 := by
  cases ending with
  | crlf => simp [LineEnding.text, lineBreaks]
  | lf =>
      cases rest with
      | nil => simp [LineEnding.text, lineBreaks, isBreak]
      | cons next later => simp [LineEnding.text, lineBreaks, isBreak, Nat.add_comm]
  | cr =>
      cases rest with
      | nil => simp [LineEnding.text, lineBreaks, isBreak]
      | cons next later =>
          have other : next ≠ '\n' := by
            intro same
            exact follows rfl (congrArg some same)
          simp [LineEnding.text, lineBreaks, isBreak, other, Nat.add_comm]

/-! ## Rows on one line -/

/-- No cell of a row holds a line break. -/
def OnOneLine (cells : List Text) : Prop := ∀ cell ∈ cells, ∀ char ∈ cell, isBreak char = false

theorem plain_encodeCell {cell : Text} (plain : ∀ char ∈ cell, isBreak char = false) :
    ∀ char ∈ encodeCell cell, isBreak char = false := by
  have quote : isBreak '"' = false := by decide
  intro char member
  rw [encodeCell] at member
  split at member
  · rcases List.mem_append.mp member with inside | closing
    · cases List.mem_cons.mp inside with
      | inl opening => rw [opening, quote]
      | inr written =>
          obtain ⟨source, sourceMem, copied⟩ := List.mem_flatMap.mp written
          have same : char = source := by
            split at copied
            · rename_i isQuote
              rw [isQuote]
              simpa using copied
            · exact List.mem_singleton.mp copied
          rw [same]
          exact plain source sourceMem
    · rw [List.mem_singleton.mp closing, quote]
  · exact plain char member

theorem plain_encodeRow (oneLine : OnOneLine cells) :
    ∀ char ∈ encodeRow cells, isBreak char = false := by
  induction cells with
  | nil => exact fun char member => absurd member List.not_mem_nil
  | cons cell more ih =>
      have first := plain_encodeCell (oneLine cell List.mem_cons_self)
      by_cases alone : more = []
      · rw [alone, encodeRow_single]
        exact first
      · have others := ih fun other member => oneLine other (List.mem_cons_of_mem _ member)
        rw [encodeRow_cons cell alone]
        intro char member
        rcases List.mem_append.mp member with here | later
        · exact first char here
        · cases List.mem_cons.mp later with
          | inl comma =>
              rw [comma]
              decide
          | inr after => exact others char after

theorem lineBreaks_rows (front : List (List Text))
    (oneLine : ∀ cells ∈ front, OnOneLine cells)
    (follows : ending = .cr → rest.head? ≠ some '\n') :
    lineBreaks (front.flatMap (terminated ending) ++ rest) = front.length + lineBreaks rest := by
  induction front with
  | nil => simp
  | cons cells more ih =>
      rw [List.flatMap_cons, terminated, List.append_assoc, List.append_assoc,
        lineBreaks_plain (plain_encodeRow (oneLine cells List.mem_cons_self)),
        lineBreaks_ending fun atCr => head_terminated atCr more (follows atCr),
        ih fun other member => oneLine other (List.mem_cons_of_mem _ member), List.length_cons]
      omega

/-- Where the rows before a place take one line each, the line is the place, counted from 1. -/
theorem startLine_of_oneLine {i : ℕ} (placed : i ≤ table.length)
    (oneLine : ∀ cells ∈ table.take i, OnOneLine cells) : startLine ending table i = i + 1 := by
  have counted := @lineBreaks_rows [] ending (table.take i) oneLine fun _ => by simp
  rw [List.append_nil, List.length_take, min_eq_left placed] at counted
  rw [startLine, Nat.add_comm]
  exact congrArg (· + 1) counted

/-! ## The rows that are read -/

/-- The rows after the header that are not blank are read, each numbered by its place. -/
theorem readCsvTable_rows (toLowerCase : Text → Text) (text : Text) :
    (readCsvTable toLowerCase text).rows = (dataRows (parseCsv text)).map fun row =>
      ⟨row.2 + 1, recordOf (readCsvTable toLowerCase text).headers row.1⟩ := by
  rw [readCsvTable, dataRows]
  cases parseCsv text with
  | nil => rfl
  | cons header body =>
      simp only
      rw [List.zipIdx_cons, List.drop_succ_cons, List.drop_zero, Nat.zero_add]
      induction body.zipIdx 1 with
      | nil => rfl
      | cons row later ih =>
          rw [List.filterMap_cons, List.filter_cons]
          cases blank : isBlankRow row.1 with
          | true => simpa [blank] using ih
          | false => simpa [blank] using ih

/-- A blank last row is no data row. -/
theorem dataRows_blank_last {front : List (List Text)} {last : List Text}
    (blank : isBlankRow last = true) : dataRows (front ++ [last]) = dataRows front := by
  cases front with
  | nil => rfl
  | cons header body =>
      rw [dataRows, dataRows, List.cons_append, List.zipIdx_cons, List.zipIdx_cons,
        List.drop_succ_cons, List.drop_succ_cons, List.zipIdx_append, List.drop_zero,
        List.drop_zero, List.filter_append]
      simp [blank]

/-- Losing a last row of one empty cell loses no data row. -/
theorem dataRows_scanned (written : table ≠ []) (nonempty : ∀ cells ∈ table, cells ≠ []) :
    dataRows (scanCsv .start (encodeCsv ending final table)).finish = dataRows table := by
  rw [scan_encoded written nonempty]
  split
  · rename_i lost
    have rows := List.dropLast_append_getLast? [[]] lost.2
    rw [← @dataRows_blank_last table.dropLast [[]] (by decide), rows]
  · rfl

/-- The data rows of a written table are read, whether or not its text stands for it. -/
theorem dataRows_parsed (nonempty : ∀ cells ∈ table, cells ≠ []) :
    dataRows (parseCsv (encodeCsv ending final table)) = dataRows table := by
  by_cases empty : table = []
  · rw [empty, parseCsv_empty]
    cases final <;> rfl
  · by_cases marked : (encodeCsv ending final table).head? = some BOM
    · obtain ⟨cell, others, rows, isTable, rest⟩ := marked_first nonempty marked
      have unmarkedRows : ∀ row ∈ (cell :: others) :: rows, row ≠ [] := by
        intro row member
        cases List.mem_cons.mp member with
        | inl first =>
            rw [first]
            exact List.cons_ne_nil _ _
        | inr later =>
            rw [isTable] at nonempty
            exact nonempty row (List.mem_cons_of_mem _ later)
      rw [parseCsv_marked marked, rest, dataRows_scanned (List.cons_ne_nil _ _) unmarkedRows,
        isTable]
      rfl
    · rw [parseCsv_unmarked marked, dataRows_scanned empty nonempty]

/-! ## Round trip and numbering -/

/-- A row is read as its cells, numbered by its line where the rows before it take one each. -/
def ReadAs (ending : LineEnding) (table : List (List Text)) (headers : List Text)
    (read : CsvRow) (row : List Text × ℕ) : Prop :=
  read.cells = recordOf headers row.1 ∧
    ((∀ cells ∈ table.take row.2, OnOneLine cells) → read.lineNo = startLine ending table row.2)

theorem placed_of_dataRows {row : List Text × ℕ} (member : row ∈ dataRows table) :
    row.2 ≤ table.length := by
  have listed := List.mem_of_mem_drop (List.mem_filter.mp member).1
  exact (List.mem_zipIdx' listed).1.le

/-- A written table is what its text reads back to, unless the text stands for another table;
and every data row is read, on the line it starts on if the rows before it take one each. -/
theorem csv_reads_back (toLowerCase : Text → Text) (ending : LineEnding) (final : Bool)
    {table : List (List Text)} (nonempty : ∀ cells ∈ table, cells ≠ []) :
    (parseCsv (encodeCsv ending final table) = table ↔ ReadsBack ending final table) ∧
      List.Forall₂
        (ReadAs ending table (readCsvTable toLowerCase (encodeCsv ending final table)).headers)
        (readCsvTable toLowerCase (encodeCsv ending final table)).rows (dataRows table) := by
  constructor
  · exact parseCsv_encodeCsv_iff nonempty
  · rw [readCsvTable_rows, dataRows_parsed nonempty, List.forall₂_map_left_iff,
      List.forall₂_same]
    intro row member
    constructor
    · rfl
    · intro oneLine
      exact (startLine_of_oneLine (placed_of_dataRows member) oneLine).symm

/-- Cells with a comma, a quote and a line break, written with CRLF and a final line break. -/
def quotedTable : List (List Text) :=
  [[['a', ',', 'b'], ['"']], [[], [' ']], [['x', '\n', 'y'], []]]

theorem quotedTable_reads_back :
    parseCsv (encodeCsv .crlf true quotedTable) = quotedTable ∧
      (readCsvTable id (encodeCsv .crlf true quotedTable)).rows.length = 1 := by
  have nonempty : ∀ cells ∈ quotedTable, cells ≠ [] := by decide
  have back := csv_reads_back id .crlf true nonempty
  constructor
  · exact back.1.mpr ⟨by decide, by decide, by decide⟩
  · exact back.2.length_eq.trans (by decide)

/-- A last row of one empty cell, not ended, is not read back; and a row after a cell of two
lines is numbered 3 although it starts on line 4. -/
theorem lastEmpty_lost :
    parseCsv (encodeCsv .lf false [[['a']], [[]]]) = [[['a']]] ∧
      ((readCsvTable id (encodeCsv .lf true [[['h']], [['x', '\n', 'y']], [['z']]])).rows.map
        CsvRow.lineNo) = [2, 3] ∧
      startLine .lf [[['h']], [['x', '\n', 'y']], [['z']]] 2 = 4 := by
  decide

/-! ## What is read can be written -/

theorem endRow_nonempty (held : ∀ cells ∈ reader.rows, cells ≠ []) :
    ∀ cells ∈ reader.endRow.rows, cells ≠ [] := by
  simpa [CsvReader.endRow, CsvReader.endCell, or_imp, forall_and] using held

theorem finish_nonempty {text : Text} (held : ∀ cells ∈ reader.rows, cells ≠ []) :
    ∀ cells ∈ (scanCsv reader text).finish, cells ≠ [] := by
  fun_induction scanCsv reader text with
  | case1 | case4 =>
      rw [CsvReader.finish]
      split
      · exact endRow_nonempty held
      · exact held
  | case8 =>
      rename_i ih
      exact ih (endRow_nonempty held)
  | case9 =>
      rename_i ih
      exact ih (endRow_nonempty held)
  | case10 => exact endRow_nonempty held
  | _ => simp_all [CsvReader.add, CsvReader.endCell]

/-- What is read off any text, however it is quoted, is a table: each row has a cell, and it
is read back from its own text as any table is. -/
theorem parsed_reads_back (ending : LineEnding) (final : Bool) (text : Text) :
    (∀ cells ∈ parseCsv text, cells ≠ []) ∧
      (parseCsv (encodeCsv ending final (parseCsv text)) = parseCsv text ↔
        ReadsBack ending final (parseCsv text)) := by
  have nonempty : ∀ cells ∈ parseCsv text, cells ≠ [] :=
    finish_nonempty fun _ member => absurd member List.not_mem_nil
  exact ⟨nonempty, parseCsv_encodeCsv_iff nonempty⟩

end ErpServer.Stock
