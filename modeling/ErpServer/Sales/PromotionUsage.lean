import ErpServer.Lib.UniqueIndex
import ErpServer.Sales.Legs

/-!
# The campaign tally

What each applied scheme gave on a bill, one row for each bill, scheme and direction.  A
cancel writes a mirror row, and the tally is read as a sum.
-/

namespace ErpServer.Sales.Promotion

open Lib
open Receipt (Decimal)

/-- `Math.round(value * f) / f`, a tie going up. -/
def money (scale : ℕ) (value : Decimal) : Decimal := ⌊value * 10 ^ scale + 1 / 2⌋ / 10 ^ scale

/-- A line of a bill, as far as the schemes go. -/
structure SnapshotItem where
  schemeId : Option String
  taxableAmt : Decimal
  qty : Decimal
  schDiscAmt : Decimal
  billSchAmt : Decimal
  isFree : Bool
  freeType : Option String
  deriving DecidableEq

/-- What one scheme gave on a bill. -/
structure PromotionApplied where
  schemeId : String
  baseAmount : Decimal
  baseQty : Decimal
  benefitAmt : Decimal
  freeQty : Decimal
  lineCount : ℕ
  deriving DecidableEq

/-- A bill by its id and its year. -/
structure DocKey where
  docId : String
  accYear : String
  deriving DecidableEq

/-- The content of a bill the tally reads. -/
structure BillContent where
  custId : Option String
  items : List SnapshotItem
  deriving DecidableEq

/-! ## What a bill gives -/

def PromotionApplied.start (schemeId : String) : PromotionApplied := ⟨schemeId, 0, 0, 0, 0, 0⟩

def PromotionApplied.addLine (applied : PromotionApplied) (item : SnapshotItem) :
    PromotionApplied :=
  { applied with
    baseAmount := round2 (applied.baseAmount + item.taxableAmt)
    baseQty := applied.baseQty + item.qty
    benefitAmt := round2 (applied.benefitAmt + item.schDiscAmt + item.billSchAmt)
    freeQty :=
      if item.isFree ∧ item.freeType = some "SCHEME" then applied.freeQty + item.qty
      else applied.freeQty
    lineCount := applied.lineCount + 1 }

def addItem (schemes : OrderedMap String PromotionApplied) (item : SnapshotItem) :
    OrderedMap String PromotionApplied :=
  match item.schemeId with
  | none => schemes
  | some schemeId =>
      -- An empty id is no scheme.
      if schemeId = "" then schemes
      else
        schemes.set schemeId
          (((schemes.get? schemeId).getD (PromotionApplied.start schemeId)).addLine item)

/-- The schemes of a bill, in the order its lines name them. -/
def promoApplied (items : List SnapshotItem) : List PromotionApplied :=
  (items.foldl addItem OrderedMap.empty).values

/-! ## The rows -/

/-- A row of the tally.  Its id is its place. -/
structure PromotionUsage where
  pruPrmId : String
  pruCustId : Option String
  pruSrcDoc : DocKey
  pruBaseAmount : Decimal
  pruBaseQty : Decimal
  pruBenefitAmt : Decimal
  pruFreeQty : Decimal
  pruLineCount : ℕ
  pruIsReversal : Bool
  pruReversalOf : Option ℕ
  pruReversalReason : Option String
  pruIsDeleted : Bool
  deriving DecidableEq

/-- `ux_pru_doc_scheme`: the bill, the scheme and the direction, among live rows. -/
def PromotionUsage.docScheme (row : PromotionUsage) : Option (DocKey × String × Bool) :=
  if row.pruIsDeleted then none else some (row.pruSrcDoc, row.pruPrmId, row.pruIsReversal)

/-- `ck_pru_gave_something`, `ck_pru_sign`, `ck_pru_base`. -/
def PromotionUsage.Storable (row : PromotionUsage) : Prop :=
  (row.pruBenefitAmt ≠ 0 ∨ row.pruFreeQty ≠ 0) ∧
    (if row.pruIsReversal then row.pruBenefitAmt ≤ 0 ∧ row.pruFreeQty ≤ 0
      else 0 ≤ row.pruBenefitAmt ∧ 0 ≤ row.pruFreeQty) ∧
    0 ≤ row.pruBaseAmount ∧ 0 ≤ row.pruBaseQty

instance (row : PromotionUsage) : Decidable row.Storable :=
  inferInstanceAs (Decidable (_ ∧ _ ∧ _ ∧ _))

/-- The row of one scheme of a bill. -/
def usageRow (doc : DocKey) (custId : Option String) (applied : PromotionApplied) :
    PromotionUsage where
  pruPrmId := applied.schemeId
  pruCustId := custId
  pruSrcDoc := doc
  pruBaseAmount := money 2 applied.baseAmount
  pruBaseQty := money 4 applied.baseQty
  pruBenefitAmt := money 2 |applied.benefitAmt|
  pruFreeQty := money 4 |applied.freeQty|
  pruLineCount := applied.lineCount
  pruIsReversal := false
  pruReversalOf := none
  pruReversalReason := none
  pruIsDeleted := false

/-- A usage that gave nothing is not an event. -/
def gave (applied : PromotionApplied) : Bool :=
  applied.benefitAmt ≠ 0 || applied.freeQty ≠ 0

/-- The rows a post proposes. -/
def usageRows (doc : DocKey) (content : BillContent) : List PromotionUsage :=
  ((promoApplied content.items).filter gave).map (usageRow doc content.custId)

/-- Each row is checked before the index is, so a row that rounds to nothing refuses the
statement. -/
def BillContent.Storable (doc : DocKey) (content : BillContent) : Prop :=
  ∀ row ∈ usageRows doc content, row.Storable

instance (doc : DocKey) (content : BillContent) : Decidable (content.Storable doc) :=
  inferInstanceAs (Decidable (∀ row ∈ usageRows doc content, row.Storable))

/-- `record`: `none` where a check refuses. -/
def record (doc : DocKey) (content : BillContent) (usage : List PromotionUsage) :
    Option (List PromotionUsage) :=
  if content.Storable doc then
    some (UniqueIndex.insertEach PromotionUsage.docScheme usage (usageRows doc content))
  else none

/-- The mirror of the row at a place. -/
def mirrorRow (reason : String) (placed : PromotionUsage × ℕ) : PromotionUsage :=
  { placed.1 with
    pruBenefitAmt := -placed.1.pruBenefitAmt
    pruFreeQty := -placed.1.pruFreeQty
    pruIsReversal := true
    pruReversalOf := some placed.2
    pruReversalReason := some reason }

/-- The rows of a bill a reversal reads. -/
def isOriginalOf (doc : DocKey) (row : PromotionUsage) : Bool :=
  row.pruSrcDoc = doc && !row.pruIsReversal && !row.pruIsDeleted

def mirrors (doc : DocKey) (reason : String) (usage : List PromotionUsage) :
    List PromotionUsage :=
  (usage.zipIdx.filter fun placed => isOriginalOf doc placed.1).map (mirrorRow reason)

/-- `reverse`.  A mirror passes every check its original passed. -/
def reverse (doc : DocKey) (reason : String) (usage : List PromotionUsage) :
    List PromotionUsage :=
  UniqueIndex.insertEach PromotionUsage.docScheme usage (mirrors doc reason usage)

/-! ## The caps -/

structure PromotionScheme where
  prmMaxUsesTotal : ℕ
  prmMaxUsesPerCust : ℕ
  prmBudgetAmount : Decimal

structure PromotionCapReport where
  schemeId : String
  uses : ℕ
  custUses : ℕ
  given : Decimal
  maxUses : ℕ
  maxPerCust : ℕ
  budget : Decimal
  usesExceeded : Bool
  custUsesExceeded : Bool
  budgetExceeded : Bool

/-- The live rows of a scheme. -/
def ofScheme (schemeId : String) (usage : List PromotionUsage) : List PromotionUsage :=
  usage.filter fun row => row.pruPrmId = schemeId && !row.pruIsDeleted

def uses (schemeId : String) (usage : List PromotionUsage) : ℕ :=
  ((ofScheme schemeId usage).filter fun row => !row.pruIsReversal).length

/-- No row is of an unnamed customer: nothing equals NULL. -/
def custUses (schemeId : String) (custId : Option String) (usage : List PromotionUsage) : ℕ :=
  ((ofScheme schemeId usage).filter fun row =>
    !row.pruIsReversal && custId.isSome && row.pruCustId = custId).length

def given (schemeId : String) (usage : List PromotionUsage) : Decimal :=
  ((ofScheme schemeId usage).map PromotionUsage.pruBenefitAmt).sum

/-- What the scheme gave away in goods, summed the same way. -/
def givenFree (schemeId : String) (usage : List PromotionUsage) : Decimal :=
  ((ofScheme schemeId usage).map PromotionUsage.pruFreeQty).sum

/-- `caps`.  A cap of zero is no cap, which is also what an unknown scheme has. -/
def caps (scheme : Option PromotionScheme) (schemeId : String) (custId : Option String)
    (usage : List PromotionUsage) : PromotionCapReport :=
  let maxUses := scheme.elim 0 PromotionScheme.prmMaxUsesTotal
  let maxPerCust := scheme.elim 0 PromotionScheme.prmMaxUsesPerCust
  let budget := scheme.elim 0 PromotionScheme.prmBudgetAmount
  { schemeId
    uses := uses schemeId usage
    custUses := custUses schemeId custId usage
    given := given schemeId usage
    maxUses, maxPerCust, budget
    usesExceeded := decide (0 < maxUses ∧ maxUses ≤ uses schemeId usage)
    custUsesExceeded := decide (0 < maxPerCust ∧ maxPerCust ≤ custUses schemeId custId usage)
    budgetExceeded := decide (0 < budget ∧ budget ≤ given schemeId usage) }

/-! ## The bills -/

inductive BillStatus where
  | DRAFT
  | POSTED
  | CANCELLED
  deriving DecidableEq, Repr

structure SaleBill where
  status : BillStatus
  content : BillContent
  deriving DecidableEq

/-- The bills by their key, and the tally. -/
structure Tables where
  bills : OrderedMap DocKey SaleBill
  usage : List PromotionUsage
  deriving DecidableEq

def Tables.empty : Tables := ⟨OrderedMap.empty, []⟩

inductive Move where
  /-- The bill as it stands when it is posted, on its first push or a later one. -/
  | post (doc : DocKey) (content : BillContent)
  | cancel (doc : DocKey) (reason : String)
  | amend (doc : DocKey) (content : BillContent) (editRemark : String)
  deriving DecidableEq

/-- One call, `none` where it is refused. -/
def attempt (tables : Tables) : Move → Option Tables
  | .post doc content =>
      match (tables.bills.get? doc).map SaleBill.status with
      -- A POSTED bill answers with the same response, and a CANCELLED one is refused.
      | some .POSTED => some tables
      | some .CANCELLED => none
      | _ => do
          let usage ← record doc content tables.usage
          pure ⟨tables.bills.set doc ⟨.POSTED, content⟩, usage⟩
  | .cancel doc reason =>
      match tables.bills.get? doc with
      | some ⟨.POSTED, content⟩ =>
          some ⟨tables.bills.set doc ⟨.CANCELLED, content⟩, reverse doc reason tables.usage⟩
      | _ => none
  | .amend doc content editRemark =>
      match tables.bills.get? doc with
      | some ⟨.POSTED, _⟩ => do
          -- The unwind first, then the edited bill is posted again.
          let usage ← record doc content
            (reverse doc ("Amended: " ++ editRemark) tables.usage)
          pure ⟨tables.bills.set doc ⟨.POSTED, content⟩, usage⟩
      | _ => none

/-- A refused call rolls back. -/
def step (tables : Tables) (move : Move) : Tables := (attempt tables move).getD tables

def run (moves : List Move) : Tables := moves.foldl step Tables.empty

end ErpServer.Sales.Promotion
