import ErpServer.Settlement.Dates
import ErpServer.Lib.ListSum
import ErpServer.Stock.CsvLines

/-!
# Reading a provider's statement

One column map makes any provider's CSV readable.  Each row becomes a line or is reported with
what is wrong with it; none is guessed.  The lines are then put together by payout.
-/

namespace ErpServer.Settlement

open Lib Lib.Grid
open Receipt (Decimal)
open Stock (CsvRow CsvTable readCsvTable)

/-! ## The column map -/

inductive ColumnKey where
  | gross
  | txnOn
  | kind
  | terminalId
  | vpa
  | refNo
  | authCode
  | cardLast4
  | payer
  | fee
  | tax
  | net
  | payoutRef
  | payoutDate
  deriving DecidableEq, Repr

def COLUMN_KEYS : List ColumnKey :=
  [.gross, .txnOn, .kind, .terminalId, .vpa, .refNo, .authCode, .cardLast4, .payer, .fee, .tax,
    .net, .payoutRef, .payoutDate]

def ColumnKey.name : ColumnKey → Text
  | gross => "gross".toList
  | txnOn => "txnOn".toList
  | kind => "kind".toList
  | terminalId => "terminalId".toList
  | vpa => "vpa".toList
  | refNo => "refNo".toList
  | authCode => "authCode".toList
  | cardLast4 => "cardLast4".toList
  | payer => "payer".toList
  | fee => "fee".toList
  | tax => "tax".toList
  | net => "net".toList
  | payoutRef => "payoutRef".toList
  | payoutDate => "payoutDate".toList

/-- How one provider's file reads. -/
structure StatementFormat where
  columns : ColumnKey → Option Text
  /-- The provider's words for each kind. -/
  kindMap : List (SettlementLineKind × List Text)
  dateFormat : Option Text
  negativeIsRefund : Bool

/-! ## Amounts -/

/-- An amount with its sign, which nothing may have as well. -/
structure SignedAmount where
  isNegative : Bool
  abs : Decimal
  deriving DecidableEq

/-- The rupee signs taken out: ₹, INR, and Rs with or without its stop. -/
def withoutCurrency : Text → Text
  | '₹' :: rest => withoutCurrency rest
  | [] => []
  | [char] => [char]
  | first :: second :: rest =>
      if first.toLower = 'r' ∧ second.toLower = 's' then
        match rest with
        | '.' :: later => withoutCurrency later
        | later => withoutCurrency later
      else
        match rest with
        | third :: later =>
            if first.toLower = 'i' ∧ second.toLower = 'n' ∧ third.toLower = 'r' then
              withoutCurrency later
            else first :: withoutCurrency (second :: third :: later)
        | [] => first :: withoutCurrency [second]

/-- Whole digits and, after a point, more of them. -/
def unsignedAmount (token : Text) : Option Decimal :=
  let whole := token.takeWhile isDigit
  if whole = [] then none
  else
    match token.dropWhile isDigit with
    | [] => some (numberOf whole)
    | '.' :: fraction =>
        if fraction ≠ [] ∧ fraction.all isDigit then
          some (numberOf whole + numberOf fraction / 10 ^ fraction.length)
        else none
    | _ => none

def signedAmount : Text → Option SignedAmount
  | '-' :: token => (unsignedAmount token).map (⟨true, ·⟩)
  | '+' :: token => (unsignedAmount token).map (⟨false, ·⟩)
  | token => (unsignedAmount token).map (⟨false, ·⟩)

/-- What brackets or a trailing CR or DR leave, and whether it is negative for them. -/
def unbracketed (token : Text) : Text × Bool :=
  if 2 ≤ token.length ∧ token.head? = some '(' ∧ token.getLast? = some ')' then
    (token.tail.dropLast, true)
  else (token, false)

def unsided (token : Text) : Text × Bool :=
  let side := (token.drop (token.length - 2)).map Char.toLower
  if side = ['c', 'r'] then (token.dropLast.dropLast, false)
  else if side = ['d', 'r'] then (token.dropLast.dropLast, true)
  else (token, false)

/-- "1,234.50", "₹ 1234.5", "(160.00)", "160.00 DR": DR and brackets are negative. -/
def parseAmount (value : Option Text) : Option SignedAmount :=
  value.bind fun text =>
    let token := (withoutCurrency text).filter fun char => !(char = ',' || Text.isSpace char)
    let bracketed := unbracketed token
    let sided := unsided bracketed.1
    (signedAmount sided.1).map fun parsed =>
      if bracketed.2 || sided.2 then { parsed with isNegative := !parsed.isNegative } else parsed

def round2 (value : Decimal) : Decimal := halfUp (1 / 100) value

/-- `toFixed(2)`. -/
def fixed2 (value : Decimal) : Text := Rendering.fixedPoint 2 ⌊value * 100 + 1 / 2⌋

/-! ## Lines -/

/-- One provider line as read. -/
structure ParsedStatementLine where
  /-- The file's line number, the header's 1. -/
  lineNo : ℕ
  kind : SettlementLineKind
  txnOn : Option ℤ
  terminalId : Option Text
  vpa : Option Text
  refNo : Option Text
  authCode : Option Text
  cardLast4 : Option Text
  payer : Option Text
  gross : Decimal
  fee : Decimal
  tax : Decimal
  net : Decimal
  payoutRef : Option Text
  payoutDate : Option Text
  raw : OrderedMap Text Text

structure StatementProblem where
  lineNo : ℕ
  message : Text
  deriving DecidableEq

structure ParsedStatement where
  lines : List ParsedStatementLine
  problems : List StatementProblem

section Parse

variable (cases : Text.CaseMapping) (format : StatementFormat)

/-- The header a column is under. -/
def col (key : ColumnKey) : Option Text :=
  (given ((given (format.columns key)).map fun header => cases.toLowerCase (Text.trim header)))

/-- A cell that is not blank. -/
def cell (cells : OrderedMap Text Text) (key : ColumnKey) : Option Text :=
  (col cases format key).bind fun header =>
    given (some (Text.trim ((cells.get? header).getD [])))

def kindOf (value : Option Text) : Option SettlementLineKind :=
  (given value).bind fun text =>
    let token := cases.toLowerCase (Text.trim text)
    (format.kindMap.find? fun entry =>
      entry.2.any fun word => cases.toLowerCase word = token).map (·.1)

def trimTo (value : Option Text) (max : ℕ) : Option Text := value.map (List.take max)

def quoted (value : Option Text) : Text := '"' :: value.getD [] ++ ['"']

/-- What a row says of its kind; with no kind column its sign tells. -/
def rowKind (cells : OrderedMap Text Text) (gross : SignedAmount) :
    Except Text SettlementLineKind :=
  if (col cases format .kind).isSome then
    match kindOf cases format (cell cases format cells .kind) with
    | some kind => .ok kind
    | none =>
        .error ("kind ".toList ++ quoted (cell cases format cells .kind) ++
          " is in no kindMap list".toList)
  else if gross.isNegative ∧ format.negativeIsRefund then .ok .REFUND
  else .ok .SALE

/-- An amount that may be left out. -/
def optionalAmount (cells : OrderedMap Text Text) (key : ColumnKey) : Except Text Decimal :=
  match cell cases format cells key with
  | none => .ok 0
  | some text =>
      match parseAmount (some text) with
      | some amount => .ok amount.abs
      | none => .error (key.name ++ ' ' :: quoted (some text) ++ " is not an amount".toList)

/-- A net that is stated is the gross less the fee and the tax, in magnitude. -/
def netAgrees (stated : Option SignedAmount) (net : Decimal) : Bool :=
  match stated with
  | none => false
  | some amount => abs (amount.abs - abs net) < 5 / 1000

def checkNet (cells : OrderedMap Text Text) (gross fee tax : Decimal) : Except Text Unit :=
  match cell cases format cells .net with
  | none => .ok ()
  | some text =>
      if netAgrees (parseAmount (some text)) (gross - fee - tax) then .ok ()
      else .error ("net ".toList ++ text ++ " ≠ gross ".toList ++ fixed2 gross ++
        " − fee ".toList ++ fixed2 fee ++ " − tax ".toList ++ fixed2 tax)

/-- A date that may be left out; `otherwise` is the format named where none is given. -/
def optionalDate (cells : OrderedMap Text Text) (key : ColumnKey) (otherwise : Text) :
    Except Text (Option ℤ) :=
  match cell cases format cells key with
  | none => .ok none
  | some text =>
      match parseDateTime text format.dateFormat with
      | some instant => .ok (some instant)
      | none => .error (key.name ++ ' ' :: quoted (some text) ++ " does not read as ".toList ++
          format.dateFormat.getD otherwise)

def cardDigits (cells : OrderedMap Text Text) : Except Text (Option Text) :=
  match cell cases format cells .cardLast4 with
  | none => .ok none
  | some text =>
      let digits := text.filter isDigit
      let last4 := digits.drop (digits.length - 4)
      if last4.length = 4 then .ok (some last4)
      else .error ("cardLast4 ".toList ++ quoted (some text) ++
        " has no four digits at its end".toList)

/-- A row as a line, or what is wrong with it. -/
def parseRow (row : CsvRow) : Except Text ParsedStatementLine := do
  let grossCell := cell cases format row.cells .gross
  let grossRaw ← (parseAmount grossCell).elim
    (.error ("gross ".toList ++ quoted grossCell ++ " is not an amount".toList)) .ok
  let kind ← rowKind cases format row.cells grossRaw
  let fee ← optionalAmount cases format row.cells .fee
  let tax ← optionalAmount cases format row.cells .tax
  let gross := grossRaw.abs
  checkNet cases format row.cells gross fee tax
  let txnOn ← optionalDate cases format row.cells .txnOn "YYYY-MM-DD HH:mm".toList
  let payoutOn ← optionalDate cases format row.cells .payoutDate "YYYY-MM-DD".toList
  let last4 ← cardDigits cases format row.cells
  let textOf := cell cases format row.cells
  return {
    lineNo := row.lineNo
    kind
    txnOn
    terminalId := trimTo (textOf .terminalId) 40
    vpa := trimTo (textOf .vpa) 100
    refNo := trimTo (textOf .refNo) 60
    authCode := trimTo (textOf .authCode) 20
    cardLast4 := last4
    payer := trimTo (textOf .payer) 150
    gross := round2 gross
    fee := round2 fee
    tax := round2 tax
    net := round2 gross - round2 fee - round2 tax
    payoutRef := trimTo (textOf .payoutRef) 60
    payoutDate := payoutOn.map istDate
    raw := row.cells }

/-- The columns the format names that the file has not. -/
def missingColumns (table : CsvTable) : List StatementProblem :=
  COLUMN_KEYS.filterMap fun key =>
    (col cases format key).bind fun header =>
      if header ∈ table.headers then none
      else some ⟨1, "The file has no ".toList ++ quoted (format.columns key) ++
        " column (columns.".toList ++ key.name ++ "); its headers are: ".toList ++
        ", ".toList.intercalate table.headers⟩

/-- One row after the others. -/
def readRow (read : ParsedStatement) (row : CsvRow) : ParsedStatement :=
  match parseRow cases format row with
  | .ok line => { read with lines := read.lines ++ [line] }
  | .error message => { read with problems := read.problems ++ [⟨row.lineNo, message⟩] }

def parseStatementCsv (text : Text) : ParsedStatement :=
  let table := readCsvTable cases.toLowerCase text
  let missing := missingColumns cases format table
  if missing ≠ [] then ⟨[], missing⟩ else table.rows.foldl (readRow cases format) ⟨[], []⟩

end Parse

/-! ## Payouts -/

/-- A payout's lines. -/
structure PayoutGroup where
  payoutRef : Option Text
  payoutDate : Option Text
  lines : List ParsedStatementLine

section Payouts

variable (fallback : Option Text × Option Text)

def payoutRefOf (line : ParsedStatementLine) : Option Text := line.payoutRef.or fallback.1

def payoutDateOf (line : ParsedStatementLine) : Option Text := line.payoutDate.or fallback.2

/-- A payout is its reference, or its date where it has none. -/
def payoutKey (line : ParsedStatementLine) : Text :=
  (payoutRefOf fallback line).getD [] ++ '|' ::
    (if (given (payoutRefOf fallback line)).isSome then []
      else (payoutDateOf fallback line).getD [])

/-- The latest date the lines name is the payout's. -/
def laterDate (held : Option Text) (date : Option Text) : Option Text :=
  match given date with
  | none => held
  | some named =>
      match given held with
      | none => some named
      | some known => if known < named then some named else held

def addToPayout (groups : OrderedMap Text PayoutGroup) (line : ParsedStatementLine) :
    OrderedMap Text PayoutGroup :=
  let key := payoutKey fallback line
  let group := (groups.get? key).getD
    ⟨payoutRefOf fallback line, payoutDateOf fallback line, []⟩
  groups.set key
    { group with
      payoutDate := laterDate group.payoutDate (payoutDateOf fallback line)
      lines := group.lines ++ [line] }

def payoutsOf (lines : List ParsedStatementLine) : OrderedMap Text PayoutGroup :=
  lines.foldl (addToPayout fallback) .empty

def groupByPayout (lines : List ParsedStatementLine) : List PayoutGroup :=
  (payoutsOf fallback lines).values

end Payouts

/-- What some lines come to, a refund or a chargeback taken back. -/
structure SignedTotals where
  gross : Decimal
  fee : Decimal
  tax : Decimal
  net : Decimal

/-- One line after the others. -/
def SignedTotals.add (totals : SignedTotals) (line : ParsedStatementLine) : SignedTotals :=
  { totals with
    gross :=
      if line.kind = .REFUND ∨ line.kind = .CHARGEBACK then totals.gross - line.gross
      else totals.gross + line.gross
    fee := totals.fee + line.fee
    tax := totals.tax + line.tax }

def signedTotals (lines : List ParsedStatementLine) : SignedTotals :=
  let totals := lines.foldl SignedTotals.add ⟨0, 0, 0, 0⟩
  { totals with net := totals.gross - totals.fee - totals.tax }

/-! ## No row of a statement is lost

A row that is not blank becomes one line or one problem, under its own number, and a line whose
row states its net agrees with it.  The lines are then shared out among the payouts, each in one
of them, so that the payouts' totals come to those of the file. -/

open Lib.Fold
open Stock (dataRows parseCsv readCsvTable_rows recordOf)

/-! ## What a line is read from -/

section Rows

variable (cases : Text.CaseMapping) (format : StatementFormat)

/-- The size of the amount in a cell, nothing where it has none. -/
def magnitude (cells : OrderedMap Text Text) (key : ColumnKey) : Decimal :=
  ((parseAmount (cell cases format cells key)).map (·.abs)).getD 0

/-- The net a row states is what its own figures leave, to within half a paisa. -/
def NetStands (cells : OrderedMap Text Text) (text : Text) : Prop :=
  ∃ stated, parseAmount (some text) = some stated ∧
    abs (stated.abs - abs (magnitude cases format cells .gross -
      magnitude cases format cells .fee - magnitude cases format cells .tax)) < 5 / 1000

/-- A line is its row's, with its figures to the paisa. -/
structure ReadFrom (lineNo : ℕ) (cells : OrderedMap Text Text) (line : ParsedStatementLine) :
    Prop where
  lineNo : line.lineNo = lineNo
  raw : line.raw = cells
  gross : line.gross = round2 (magnitude cases format cells .gross)
  fee : line.fee = round2 (magnitude cases format cells .fee)
  tax : line.tax = round2 (magnitude cases format cells .tax)
  net : line.net = line.gross - line.fee - line.tax
  stated : ∀ text, cell cases format cells .net = some text →
    NetStands cases format cells text

variable {cells : OrderedMap Text Text} {row : CsvRow} {table : Stock.CsvTable}

theorem optionalAmount_ok {key : ColumnKey} {amount : Decimal}
    (read : optionalAmount cases format cells key = .ok amount) :
    amount = magnitude cases format cells key := by
  rw [magnitude]
  rw [optionalAmount] at read
  cases stated : cell cases format cells key with
  | none =>
      rw [stated] at read
      exact (Except.ok.inj read).symm
  | some text =>
      rw [stated] at read
      cases parsed : parseAmount (some text) with
      | none => simp [parsed] at read
      | some parsedAmount =>
          simp only [parsed, Except.ok.injEq] at read
          exact read.symm

theorem checkNet_ok {gross fee tax : Decimal} {done : Unit}
    (passed : checkNet cases format cells gross fee tax = .ok done) {text : Text}
    (stated : cell cases format cells .net = some text) :
    ∃ amount, parseAmount (some text) = some amount ∧
      abs (amount.abs - abs (gross - fee - tax)) < 5 / 1000 := by
  rw [checkNet, stated] at passed
  simp only at passed
  split at passed
  next agrees =>
    cases parsed : parseAmount (some text) with
    | none => simp [parsed, netAgrees] at agrees
    | some amount =>
        rw [parsed, netAgrees, decide_eq_true_eq] at agrees
        exact ⟨amount, rfl, agrees⟩
  next => cases passed

/-- An accepted row is its line's. -/
theorem parseRow_ok {line : ParsedStatementLine} (accepted : parseRow cases format row = .ok line) :
    ReadFrom cases format row.lineNo row.cells line := by
  rw [parseRow] at accepted
  obtain ⟨grossRaw, grossRead, accepted⟩ := bind_eq_ok accepted
  obtain ⟨kind, -, accepted⟩ := bind_eq_ok accepted
  obtain ⟨fee, feeRead, accepted⟩ := bind_eq_ok accepted
  obtain ⟨tax, taxRead, accepted⟩ := bind_eq_ok accepted
  obtain ⟨_, netChecked, accepted⟩ := bind_eq_ok accepted
  obtain ⟨txnOn, -, accepted⟩ := bind_eq_ok accepted
  obtain ⟨payoutOn, -, accepted⟩ := bind_eq_ok accepted
  obtain ⟨last4, -, accepted⟩ := bind_eq_ok accepted
  cases accepted
  have grossOf : grossRaw.abs = magnitude cases format row.cells .gross := by
    rw [magnitude]
    cases parsed : parseAmount (cell cases format row.cells .gross) with
    | none => simp [parsed] at grossRead
    | some amount =>
        simp only [parsed, Option.elim_some, Except.ok.injEq] at grossRead
        rw [grossRead]
        rfl
  have feeOf := optionalAmount_ok cases format feeRead
  have taxOf := optionalAmount_ok cases format taxRead
  exact
    { lineNo := rfl
      raw := rfl
      gross := by rw [grossOf]
      fee := by rw [feeOf]
      tax := by rw [taxOf]
      net := rfl
      stated := by
        intro text stated
        rw [NetStands, ← grossOf, ← feeOf, ← taxOf]
        exact checkNet_ok cases format netChecked stated }

/-! ## Every row once -/

/-- The line a row becomes. -/
def lineOf (row : CsvRow) : Option ParsedStatementLine := (parseRow cases format row).toOption

/-- What is reported of a row. -/
def problemOf (row : CsvRow) : Option StatementProblem :=
  match parseRow cases format row with
  | .ok _ => none
  | .error message => some ⟨row.lineNo, message⟩

theorem readRows (rows : List CsvRow) (read : ParsedStatement) :
    rows.foldl (readRow cases format) read =
      ⟨read.lines ++ rows.filterMap (lineOf cases format),
        read.problems ++ rows.filterMap (problemOf cases format)⟩ := by
  induction rows generalizing read with
  | nil => simp
  | cons row rest ih =>
      rw [List.foldl_cons, ih, readRow]
      cases outcome : parseRow cases format row with
      | ok line => simp [lineOf, problemOf, outcome, Except.toOption]
      | error message => simp [lineOf, problemOf, outcome, Except.toOption]

/-- A number is counted among the lines and the problems as often as among the rows. -/
theorem countP_outcomes (rows : List CsvRow) (lineNo : ℕ) :
    (rows.filterMap (lineOf cases format)).countP (·.lineNo = lineNo) +
        (rows.filterMap (problemOf cases format)).countP (·.lineNo = lineNo) =
      rows.countP (·.lineNo = lineNo) := by
  induction rows with
  | nil => rfl
  | cons row rest ih =>
      cases outcome : parseRow cases format row with
      | ok line =>
          have numbered := (parseRow_ok cases format outcome).lineNo
          simp only [lineOf, problemOf, outcome, Except.toOption, List.filterMap_cons,
            List.countP_cons, numbered] at ih ⊢
          omega
      | error message =>
          simp only [lineOf, problemOf, outcome, Except.toOption, List.filterMap_cons,
            List.countP_cons] at ih ⊢
          omega

theorem length_outcomes (rows : List CsvRow) :
    (rows.filterMap (lineOf cases format)).length +
        (rows.filterMap (problemOf cases format)).length = rows.length := by
  induction rows with
  | nil => rfl
  | cons row rest ih =>
      cases outcome : parseRow cases format row with
      | ok line =>
          simp only [lineOf, problemOf, outcome, Except.toOption, List.filterMap_cons,
            List.length_cons] at ih ⊢
          omega
      | error message =>
          simp only [lineOf, problemOf, outcome, Except.toOption, List.filterMap_cons,
            List.length_cons] at ih ⊢
          omega

/-- No two data rows stand in one place. -/
theorem dataRows_nodup (table : List (List Text)) : ((dataRows table).map (·.2)).Nodup := by
  have whole : (table.zipIdx.map Prod.snd).Nodup := by
    rw [List.zipIdx_map_snd]
    exact List.nodup_range'
  rw [dataRows]
  exact (whole.sublist (((List.drop_sublist 1 _).map _))).sublist (List.filter_sublist.map _)

/-- The rows of a text, each with the cells under its headers. -/
def rowsOf (text : Text) : List CsvRow := (readCsvTable cases.toLowerCase text).rows

theorem rowsOf_nodup (text : Text) : ((rowsOf cases text).map (·.lineNo)).Nodup := by
  rw [rowsOf, readCsvTable_rows, List.map_map]
  have shifted := (dataRows_nodup (parseCsv text)).map (Nat.succ_injective)
  rwa [List.map_map] at shifted

/-- Every row that is not blank is one line or one problem, and nothing else is. -/
structure EveryRowOnce (text : Text) (read : ParsedStatement) : Prop where
  rows : (rowsOf cases text).map (·.lineNo) = (dataRows (parseCsv text)).map (·.2 + 1)
  once : ∀ row ∈ rowsOf cases text,
    read.lines.countP (·.lineNo = row.lineNo) + read.problems.countP (·.lineNo = row.lineNo) = 1
  counted : read.lines.length + read.problems.length = (rowsOf cases text).length
  lines : ∀ line ∈ read.lines, ∃ row ∈ rowsOf cases text,
    ReadFrom cases format row.lineNo row.cells line
  problems : ∀ problem ∈ read.problems, ∃ row ∈ rowsOf cases text,
    problem.lineNo = row.lineNo
  /-- A row whose net does not stand is reported. -/
  broken : ∀ row ∈ rowsOf cases text, ∀ stated, cell cases format row.cells .net = some stated →
    ¬ NetStands cases format row.cells stated →
      (∀ line ∈ read.lines, line.lineNo ≠ row.lineNo) ∧
        ∃ problem ∈ read.problems, problem.lineNo = row.lineNo

theorem once_of_nodup {rows : List CsvRow} (nodup : (rows.map (·.lineNo)).Nodup)
    (member : row ∈ rows) : rows.countP (·.lineNo = row.lineNo) = 1 := by
  have counted := List.count_eq_one_of_mem nodup (List.mem_map_of_mem member)
  rw [List.count, List.countP_map] at counted
  rw [← counted]
  apply List.countP_congr
  intro other _
  simp

theorem everyRowOnce (text : Text) : EveryRowOnce cases format text
    ((rowsOf cases text).foldl (readRow cases format) ⟨[], []⟩) := by
  rw [readRows, List.nil_append, List.nil_append]
  have linesOf : ∀ line ∈ (rowsOf cases text).filterMap (lineOf cases format),
      ∃ row ∈ rowsOf cases text, ReadFrom cases format row.lineNo row.cells line := by
    intro line member
    obtain ⟨row, listed, became⟩ := List.mem_filterMap.1 member
    refine ⟨row, listed, parseRow_ok cases format ?_⟩
    rw [lineOf] at became
    cases outcome : parseRow cases format row with
    | ok read =>
        rw [outcome] at became
        exact congrArg Except.ok (Option.some.inj became)
    | error message =>
        rw [outcome] at became
        cases became
  have once : ∀ row ∈ rowsOf cases text, _ := fun row member =>
    (countP_outcomes cases format (rowsOf cases text) row.lineNo).trans
      (once_of_nodup (rowsOf_nodup cases text) member)
  exact
    { rows := by
        rw [rowsOf, readCsvTable_rows, List.map_map]
        rfl
      once := once
      counted := length_outcomes cases format _
      lines := linesOf
      problems := by
        intro problem member
        obtain ⟨row, listed, reported⟩ := List.mem_filterMap.1 member
        refine ⟨row, listed, ?_⟩
        rw [problemOf] at reported
        split at reported
        next => cases reported
        next => rw [← Option.some.inj reported]
      broken := by
        intro row member stated has broken
        have noLine : ∀ line ∈ (rowsOf cases text).filterMap (lineOf cases format),
            line.lineNo ≠ row.lineNo := by
          intro line isLine same
          obtain ⟨other, listed, read⟩ := linesOf line isLine
          have isRow : other = row :=
            List.inj_on_of_nodup_map (rowsOf_nodup cases text) listed member
              (read.lineNo.symm.trans same)
          subst isRow
          exact broken (read.stated stated has)
        refine ⟨noLine, ?_⟩
        have counted := once row member
        have noneCounted : ((rowsOf cases text).filterMap (lineOf cases format)).countP
            (·.lineNo = row.lineNo) = 0 := by
          rw [List.countP_eq_zero]
          intro line isLine
          simpa using noLine line isLine
        rw [noneCounted, Nat.zero_add] at counted
        have positive := counted.symm ▸ Nat.one_pos
        obtain ⟨problem, reported, same⟩ := List.countP_pos_iff.1 positive
        exact ⟨problem, reported, of_decide_eq_true same⟩ }

/-- A file without a column the format names is refused whole, with what it lacks. -/
theorem parseStatementCsv_cases (text : Text) :
    (missingColumns cases format (readCsvTable cases.toLowerCase text) = [] ∧
      EveryRowOnce cases format text (parseStatementCsv cases format text)) ∨
    (missingColumns cases format (readCsvTable cases.toLowerCase text) ≠ [] ∧
      parseStatementCsv cases format text =
        ⟨[], missingColumns cases format (readCsvTable cases.toLowerCase text)⟩) := by
  by_cases complete : missingColumns cases format (readCsvTable cases.toLowerCase text) = []
  · left
    refine ⟨complete, ?_⟩
    simp only [parseStatementCsv, complete, ne_eq, not_true_eq_false, if_false]
    exact everyRowOnce cases format text
  · right
    refine ⟨complete, ?_⟩
    simp only [parseStatementCsv, ne_eq, complete, not_false_eq_true, if_true]

/-- A column that is missed is one the format names and the file has not. -/
theorem mem_missingColumns {problem : StatementProblem} :
    problem ∈ missingColumns cases format table →
      problem.lineNo = 1 ∧ ∃ key header, col cases format key = some header ∧
        header ∉ table.headers := by
  intro member
  obtain ⟨key, -, missed⟩ := List.mem_filterMap.1 member
  obtain ⟨header, named, absent⟩ := Option.bind_eq_some_iff.1 missed
  split at absent
  next => cases absent
  next lacks =>
    rw [← Option.some.inj absent]
    exact ⟨rfl, key, header, named, lacks⟩

theorem missingColumns_eq_nil_iff : missingColumns cases format table = [] ↔
      ∀ key header, col cases format key = some header → header ∈ table.headers := by
  rw [missingColumns, List.filterMap_eq_nil_iff]
  constructor
  · intro complete key header named
    have listed : key ∈ COLUMN_KEYS := by cases key <;> decide
    have found := complete key listed
    rw [named, Option.bind_some] at found
    by_contra absent
    rw [if_neg absent] at found
    cases found
  · intro has key _
    cases named : col cases format key with
    | none => rfl
    | some header => rw [Option.bind_some, if_pos (has key header named)]

end Rows

/-! ## Payouts -/

section Payouts

variable (fallback : Option Text × Option Text)

/-- A payout holds the lines of its key, in order. -/
theorem payoutsOf_lines (lines : List ParsedStatementLine) :
    (payoutsOf fallback lines).mapValues (·.lines) =
      OrderedMap.groupBy (payoutKey fallback) lines := by
  induction lines using List.reverseRecOn with
  | nil => rfl
  | append_singleton earlier line ih =>
      rw [payoutsOf, OrderedMap.groupBy, List.foldl_append, List.foldl_append, List.foldl_cons,
        List.foldl_cons, List.foldl_nil, List.foldl_nil, ← payoutsOf, ← OrderedMap.groupBy,
        addToPayout, OrderedMap.mapValues_set, ih, ← ih, OrderedMap.get?_mapValues]
      cases (payoutsOf fallback earlier).get? (payoutKey fallback line) <;> rfl

theorem groupByPayout_lines (lines : List ParsedStatementLine) :
    (groupByPayout fallback lines).map (·.lines) =
      (OrderedMap.groupBy (payoutKey fallback) lines).values := by
  rw [← payoutsOf_lines, groupByPayout, OrderedMap.values, OrderedMap.values,
    OrderedMap.mapValues, List.map_map, List.map_map]
  rfl

/-- What lines come to is the sum of what each comes to, less what goes back. -/
def signedGross (line : ParsedStatementLine) : Decimal :=
  if line.kind = .REFUND ∨ line.kind = .CHARGEBACK then -line.gross else line.gross

theorem foldl_add (lines : List ParsedStatementLine) (totals : SignedTotals) :
    lines.foldl SignedTotals.add totals =
      { totals with
        gross := totals.gross + (lines.map signedGross).sum
        fee := totals.fee + (lines.map (·.fee)).sum
        tax := totals.tax + (lines.map (·.tax)).sum } := by
  induction lines generalizing totals with
  | nil => simp
  | cons line rest ih =>
      rw [List.foldl_cons, ih, SignedTotals.add]
      simp only [List.map_cons, List.sum_cons, SignedTotals.mk.injEq, and_true]
      refine ⟨?_, add_assoc _ _ _, add_assoc _ _ _⟩
      rw [signedGross]
      split <;> ring

theorem signedTotals_eq (lines : List ParsedStatementLine) :
    signedTotals lines =
      ⟨(lines.map signedGross).sum, (lines.map (·.fee)).sum, (lines.map (·.tax)).sum,
        (lines.map signedGross).sum - (lines.map (·.fee)).sum - (lines.map (·.tax)).sum⟩ := by
  simp [signedTotals, foldl_add]

/-- Each line is in the one payout of its key, and the payouts' totals are their lines' and come
to those of all the lines. -/
structure SharedOut (lines : List ParsedStatementLine) (groups : List PayoutGroup) : Prop where
  keyed : ∃ keys : List Text, keys.Nodup ∧
    (∀ key, key ∈ keys ↔ ∃ line ∈ lines, payoutKey fallback line = key) ∧
    groups.map (·.lines) =
      keys.map fun key => lines.filter fun line => payoutKey fallback line = key
  totals : ∀ group ∈ groups, signedTotals group.lines =
    ⟨(group.lines.map signedGross).sum, (group.lines.map (·.fee)).sum,
      (group.lines.map (·.tax)).sum,
      (group.lines.map signedGross).sum - (group.lines.map (·.fee)).sum -
        (group.lines.map (·.tax)).sum⟩
  gross : (groups.map fun group => (signedTotals group.lines).gross).sum =
    (signedTotals lines).gross
  fee : (groups.map fun group => (signedTotals group.lines).fee).sum = (signedTotals lines).fee
  tax : (groups.map fun group => (signedTotals group.lines).tax).sum = (signedTotals lines).tax
  net : (groups.map fun group => (signedTotals group.lines).net).sum = (signedTotals lines).net

/-- A figure summed payout by payout is its sum over the lines. -/
theorem sum_groups (amount : ParsedStatementLine → Decimal) (lines : List ParsedStatementLine) :
    ((groupByPayout fallback lines).map fun group => (group.lines.map amount).sum).sum =
      (lines.map amount).sum := by
  have grouped := OrderedMap.sum_groupBy (payoutKey fallback) amount lines
  have listed := congrArg (fun groups => (groups.map fun group => (group.map amount).sum).sum)
    (groupByPayout_lines fallback lines)
  rw [OrderedMap.values] at listed
  simp only [List.map_map] at listed
  exact listed.trans grouped

theorem groupByPayout_sharedOut (lines : List ParsedStatementLine) :
    SharedOut fallback lines (groupByPayout fallback lines) := by
  exact
    { keyed := by
        refine ⟨_, OrderedMap.keys_groupBy_nodup (payoutKey fallback) lines, ?_, ?_⟩
        · intro key
          rw [OrderedMap.mem_keys_groupBy, List.mem_map]
        · rw [groupByPayout_lines, OrderedMap.values_groupBy]
      totals := fun group _ => signedTotals_eq group.lines
      gross := by simpa only [signedTotals_eq] using sum_groups fallback signedGross lines
      fee := by simpa only [signedTotals_eq] using sum_groups fallback (·.fee) lines
      tax := by simpa only [signedTotals_eq] using sum_groups fallback (·.tax) lines
      net := by
        simp only [signedTotals_eq, ListSum.sum_map_sub]
        rw [sum_groups, sum_groups, sum_groups] }

end Payouts

/-! ## The statement -/

/-- A statement whose named columns are all there becomes one line or one problem a row; one
that lacks some is refused whole with a problem for the first line.  The lines read are shared
out among the payouts, whatever payout the request names. -/
theorem statement_rows (cases : Text.CaseMapping) (format : StatementFormat) (text : Text)
    (fallback : Option Text × Option Text) :
    ((∀ key header, col cases format key = some header →
        header ∈ (readCsvTable cases.toLowerCase text).headers) →
      EveryRowOnce cases format text (parseStatementCsv cases format text)) ∧
    ((∃ key header, col cases format key = some header ∧
        header ∉ (readCsvTable cases.toLowerCase text).headers) →
      (parseStatementCsv cases format text).lines = [] ∧
        (parseStatementCsv cases format text).problems ≠ [] ∧
        ∀ problem ∈ (parseStatementCsv cases format text).problems, problem.lineNo = 1) ∧
    SharedOut fallback (parseStatementCsv cases format text).lines
      (groupByPayout fallback (parseStatementCsv cases format text).lines) := by
  refine ⟨?_, ?_, groupByPayout_sharedOut fallback _⟩
  · intro complete
    have noneMissed := (missingColumns_eq_nil_iff cases format).2 complete
    cases parseStatementCsv_cases cases format text with
    | inl read => exact read.2
    | inr refused => exact absurd noneMissed refused.1
  · rintro ⟨key, header, named, absent⟩
    cases parseStatementCsv_cases cases format text with
    | inl read =>
        exact absurd ((missingColumns_eq_nil_iff cases format).1 read.1 key header named) absent
    | inr refused =>
        rw [refused.2]
        exact ⟨rfl, refused.1, fun problem member => (mem_missingColumns cases format member).1⟩

/-- A format that names a gross column only. -/
def grossOnly : StatementFormat where
  columns := fun key => if key = .gross then some "gross".toList else none
  kindMap := []
  dateFormat := none
  negativeIsRefund := true

/-- A row of a file without the gross column is neither a line nor a problem of its own. -/
theorem headerless_row_lost :
    let cases : Text.CaseMapping := ⟨id, id⟩
    let text := "amount\n10".toList
    let read := parseStatementCsv cases grossOnly text
    (rowsOf cases text).map (·.lineNo) = [2] ∧ read.lines.countP (·.lineNo = 2) = 0 ∧
      read.problems.countP (·.lineNo = 2) = 0 := by
  decide +kernel

end ErpServer.Settlement
