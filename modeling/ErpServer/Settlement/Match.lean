import ErpServer.Lib.Text
import ErpServer.Receipt.Types

/-!
# Matching a statement

The lines of a provider's statement are matched to the tender rows they settle by three rules,
each stricter one over all lines before the next: the reference, the card's authorisation, and
the amount near the time.  A row is used by one line of a kind.
-/

namespace ErpServer.Settlement

open Lib
open Receipt (Decimal)

abbrev Uuid := ℕ

/-! ## Lines and candidates -/

inductive SettlementLineKind where
  | SALE
  | REFUND
  | CHARGEBACK
  | FEE
  | ADJUSTMENT
  deriving DecidableEq, Repr

inductive SettlementMatchStatus where
  | UNMATCHED
  | SUGGESTED
  | MATCHED
  deriving DecidableEq, Repr

inductive SettlementMatchRule where
  | REF
  | AUTH
  | AMOUNT_TIME
  deriving DecidableEq, Repr

inductive DrCr where
  | DR
  | CR
  deriving DecidableEq, Repr

inductive SettleStatus where
  | NA
  | PENDING
  | PARTIAL
  | SETTLED
  | FAILED
  deriving DecidableEq, Repr

/-- A line still waiting for a tender row.  Instants are milliseconds. -/
structure MatchLine where
  aslId : Uuid
  kind : SettlementLineKind
  tenderId : Option Uuid
  refNo : Option Text
  authCode : Option Text
  cardLast4 : Option Text
  gross : Decimal
  txnOn : Option ℤ
  deriving DecidableEq

/-- A tender row that could be a line's. -/
structure MatchCandidate where
  tdId : Uuid
  tdAccYear : String
  tenderId : Uuid
  drCr : DrCr
  settleStatus : SettleStatus
  refNo : Option Text
  authCode : Option Text
  cardLast4 : Option Text
  amount : Decimal
  /-- The calendar day, counted from the epoch. -/
  docDate : ℤ
  createdOn : ℤ
  deriving DecidableEq

structure MatchVerdict where
  aslId : Uuid
  status : SettlementMatchStatus
  rule : Option SettlementMatchRule
  tdId : Option Uuid
  tdAccYear : Option String
  /-- What the line is over its row. -/
  diff : Decimal
  deriving DecidableEq

/-- The lines and the rows have ids of their own. -/
structure MatchInput where
  lines : List MatchLine
  candidates : List MatchCandidate
  tolerance : Decimal
  windowMinutes : Decimal
  /-- The rows held by lines outside this run, with the kind of those. -/
  taken : List (SettlementLineKind × Uuid)
  lineIds : (lines.map (·.aslId)).Nodup
  candidateIds : (candidates.map (·.tdId)).Nodup

def DAY_MS : ℤ := 86400000

/-- India is 330 minutes ahead. -/
def IST_OFFSET_MS : ℤ := 330 * 60000

/-! ## The tests -/

/-- The kinds with a customer behind them. -/
def isCustomerKind (kind : SettlementLineKind) : Bool :=
  kind = .SALE ∨ kind = .REFUND ∨ kind = .CHARGEBACK

/-- Which rows a line of a kind may settle. -/
def kindTakes (kind : SettlementLineKind) (c : MatchCandidate) : Bool :=
  match kind with
  | .SALE => c.drCr = .DR ∧ (c.settleStatus = .PENDING ∨ c.settleStatus = .PARTIAL)
  | .REFUND => c.drCr = .CR ∧ (c.settleStatus = .PENDING ∨ c.settleStatus = .PARTIAL)
  | .CHARGEBACK => c.drCr = .DR ∧ (c.settleStatus = .SETTLED ∨ c.settleStatus = .PARTIAL)
  | .FEE | .ADJUSTMENT => false

/-- A text that is there and not empty. -/
def given (text : Option Text) : Option Text := text.filter (· ≠ [])

def distance (line : MatchLine) (c : MatchCandidate) : Decimal := |line.gross - c.amount|

/-- The row nearest in amount, then the earlier one. -/
def closest (line : MatchLine) (hits : List MatchCandidate) : Option MatchCandidate :=
  (hits.insertionSort fun a b => distance line a < distance line b ∨
    (distance line a = distance line b ∧ a.createdOn ≤ b.createdOn)).head?

/-- From so many days before the day of the document to so many after it. -/
def withinDays (on docDate days : ℤ) : Bool :=
  let doc := docDate * DAY_MS - IST_OFFSET_MS
  doc - days * DAY_MS ≤ on ∧ on < doc + (days + 1) * DAY_MS

section Rules

variable (cases : Text.CaseMapping)

/-- A reference or a code as it is compared. -/
def normal (text : Text) : Text := cases.toUpperCase (Text.trim text)

def sameRef (input : MatchInput) (line : MatchLine) (ref : Text) (c : MatchCandidate) : Bool :=
  c.refNo.map (normal cases) = some (normal cases ref) ∧
    distance line c ≤ input.tolerance

def sameAuth (line : MatchLine) (auth last4 : Text) (c : MatchCandidate) : Bool :=
  c.authCode.map (normal cases) = some (normal cases auth) ∧ c.cardLast4 = some last4 ∧
    c.amount = line.gross ∧ ∀ on ∈ line.txnOn, withinDays on c.docDate 1

/-- The same amount, made within the window. -/
def sameAmountTime (input : MatchInput) (line : MatchLine) (c : MatchCandidate) : Bool :=
  c.amount = line.gross ∧
    ∀ on ∈ line.txnOn, (|c.createdOn - on| : ℤ) ≤ max 0 input.windowMinutes * 60000

end Rules

/-! ## The run -/

/-- The rows used by a kind, and the verdicts so far. -/
structure MatchRun where
  used : List (SettlementLineKind × Uuid)
  verdicts : OrderedMap Uuid MatchVerdict

namespace MatchRun

def start (input : MatchInput) : MatchRun := ⟨input.taken, .empty⟩

def eligible (run : MatchRun) (line : MatchLine) (c : MatchCandidate) : Bool :=
  some c.tenderId = line.tenderId ∧ (line.kind, c.tdId) ∉ run.used ∧ kindTakes line.kind c

def take (run : MatchRun) (line : MatchLine) (c : MatchCandidate) (rule : SettlementMatchRule)
    (status : SettlementMatchStatus) : MatchRun where
  used := run.used ++ [(line.kind, c.tdId)]
  verdicts := run.verdicts.set line.aslId
    ⟨line.aslId, status, some rule, some c.tdId, some c.tdAccYear, line.gross - c.amount⟩

/-- The nearest of the rows that are free and pass the test. -/
def best (run : MatchRun) (input : MatchInput) (line : MatchLine)
    (test : MatchCandidate → Bool) : Option MatchCandidate :=
  closest line (input.candidates.filter fun c => run.eligible line c && test c)

/-- Match a line to the nearest row that passes the test, if one does. -/
def matchBest (run : MatchRun) (input : MatchInput) (line : MatchLine)
    (rule : SettlementMatchRule) (test : MatchCandidate → Bool) : MatchRun :=
  match run.best input line test with
  | none => run
  | some c => run.take line c rule .MATCHED

section Passes

variable (cases : Text.CaseMapping) (input : MatchInput)

def refLine (run : MatchRun) (line : MatchLine) : MatchRun :=
  match given line.refNo with
  | none => run
  | some ref => run.matchBest input line .REF (sameRef cases input line ref)

def authLine (run : MatchRun) (line : MatchLine) : MatchRun :=
  if run.verdicts.has line.aslId then run
  else
    match given line.authCode, given line.cardLast4 with
    | some auth, some last4 =>
        run.matchBest input line .AUTH (sameAuth cases line auth last4)
    | _, _ => run

/-- The lines the earlier rules left, if they tell their time. -/
def openLines (run : MatchRun) (lines : List MatchLine) : List MatchLine :=
  lines.filter fun line => !run.verdicts.has line.aslId && line.txnOn.isSome

def optionsOf (run : MatchRun) (line : MatchLine) : List MatchCandidate :=
  input.candidates.filter fun c => run.eligible line c && sameAmountTime input line c

/-- In how many of the lists a row is. -/
def claimsOf (run : MatchRun) (openLines : List MatchLine) (tdId : Uuid) : ℕ :=
  (openLines.flatMap fun line => (run.optionsOf input line).map (·.tdId)).count tdId

/-- Suggest the only row of a line when it is in no other line's list. -/
def suggestLine (before : MatchRun) (openLines : List MatchLine) (run : MatchRun)
    (line : MatchLine) : MatchRun :=
  match before.optionsOf input line with
  | [c] =>
      if before.claimsOf input openLines c.tdId = 1 ∧ run.eligible line c = true then
        run.take line c .AMOUNT_TIME .SUGGESTED
      else run
  | _ => run

end Passes

end MatchRun

section MatchLines

variable (cases : Text.CaseMapping) (input : MatchInput)

def customerLines : List MatchLine :=
  input.lines.filter fun line => isCustomerKind line.kind && line.tenderId.isSome

def afterRef : MatchRun := (customerLines input).foldl (MatchRun.refLine cases input) (.start input)

def afterAuth : MatchRun :=
  (customerLines input).foldl (MatchRun.authLine cases input) (afterRef cases input)

def waitingLines : List MatchLine := (afterAuth cases input).openLines (customerLines input)

def afterAmountTime : MatchRun :=
  (waitingLines cases input).foldl
    (MatchRun.suggestLine input (afterAuth cases input) (waitingLines cases input))
    (afterAuth cases input)

def unmatched (aslId : Uuid) : MatchVerdict := ⟨aslId, .UNMATCHED, none, none, none, 0⟩

def matchLines : List MatchVerdict :=
  input.lines.map fun line =>
    ((afterAmountTime cases input).verdicts.get? line.aslId).getD (unmatched line.aslId)

end MatchLines

end ErpServer.Settlement
