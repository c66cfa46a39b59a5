import ErpServer.Lib.Apportion
import ErpServer.Lib.OrderedMap
import ErpServer.Lib.Pour

/-!
# Receipt arithmetic

The arithmetic the receipt and the payment share.  A decimal is an exact
rational: the amounts are two-place figures, and a quotient is exact before it is
cut to two places.
-/

namespace ErpServer.Receipt

open Lib

abbrev Decimal := ℚ

def paisa : Decimal := 1 / 100

/-- The figures of two decimal places. -/
abbrev paise : AddSubgroup Decimal := Grid.grid paisa

/-- Money as the database stores it, rounded half up at two places. -/
def money (value : Decimal) : Decimal := Grid.halfUp paisa value

def sum (values : List Decimal) : Decimal := money values.sum

private def twoDigits (count : ℕ) : String :=
  if count < 10 then "0" ++ toString count else toString count

/-- `toFixed(2)`, as the messages print a figure. -/
def toFixed (value : Decimal) : String :=
  let count := ⌊|value| / paisa + 1 / 2⌋.toNat
  (if value < 0 then "-" else "") ++ toString (count / 100) ++ "." ++ twoDigits (count % 100)

/-- Split `total` across `weights` so that the parts sum to exactly `total`: the
shares rounded down, then one paisa at a time to the largest remainders. -/
def distributeProRata (total : Decimal) (weights : List Decimal) : List Decimal :=
  let target := money total
  let weightTotal := sum weights
  if weights.length = 0 ∨ target = 0 ∨ weightTotal = 0 then
    weights.map fun _ => 0
  else
    let shares := Apportion.cutShares paisa target weightTotal weights
    let remainder := target - sum shares
    let order := Apportion.handOrder paisa target weightTotal weights
    Apportion.handOut paisa remainder order shares

/-! ## Two-place figures -/

theorem paisa_pos : 0 < paisa := by norm_num [paisa]

theorem money_mem (value : Decimal) : money value ∈ paise := Grid.halfUp_mem

theorem money_of_mem {value : Decimal} (member : value ∈ paise) : money value = value :=
  Grid.halfUp_of_mem paisa_pos member

/-- Whole rupees are exact. -/
theorem whole_mem (units : ℤ) : (units : Decimal) ∈ paise := by
  refine AddSubgroup.mem_zmultiples_iff.mpr ⟨units * 100, ?_⟩
  rw [paisa, zsmul_eq_mul]
  push_cast
  ring

@[simp] theorem money_zero : money 0 = 0 := Grid.halfUp_zero

@[simp] theorem money_money (value : Decimal) : money (money value) = money value :=
  money_of_mem (money_mem value)

theorem money_nonneg {value : Decimal} (nonneg : 0 ≤ value) : 0 ≤ money value :=
  Grid.halfUp_nonneg paisa_pos nonneg

theorem sum_of_mem {values : List Decimal} (members : ∀ value ∈ values, value ∈ paise) :
    sum values = values.sum := money_of_mem (list_sum_mem members)

theorem sum_mem (values : List Decimal) : sum values ∈ paise := money_mem _

/-- The sum of rounded figures needs no rounding. -/
theorem sum_map_money {α : Type*} (items : List α) (amount : α → Decimal) :
    sum (items.map fun item => money (amount item)) =
      (items.map fun item => money (amount item)).sum := by
  refine sum_of_mem fun value member => ?_
  obtain ⟨item, -, rfl⟩ := List.mem_map.mp member
  exact money_mem _

/-! ## The pro-rata split -/

section DistributeProRata

theorem distributeProRata_length (total : Decimal) (weights : List Decimal) :
    (distributeProRata total weights).length = weights.length := by
  simp only [distributeProRata]
  split
  · simp
  · exact (Apportion.handOut_length ..).trans (by simp [Apportion.cutShares])

variable {total : Decimal} {weights : List Decimal} (totalMem : total ∈ paise)
  (totalNonneg : 0 ≤ total) (fits : total ≤ weights.sum)
  (weightsMem : ∀ weight ∈ weights, weight ∈ paise) (weightsNonneg : ∀ weight ∈ weights, 0 ≤ weight)

include totalMem totalNonneg fits weightsMem weightsNonneg

/-- Either there is nothing to spread, or the split is the apportionment. -/
private theorem distributeProRata_cases :
    total = 0 ∧ distributeProRata total weights = weights.map (fun _ => 0) ∨
      0 < weights.sum ∧
        distributeProRata total weights =
          Apportion.apportion paisa total weights.sum weights := by
  have exactTotal : money total = total := money_of_mem totalMem
  have exactWeights : sum weights = weights.sum := sum_of_mem weightsMem
  have weightsSum : 0 ≤ weights.sum := List.sum_nonneg weightsNonneg
  simp only [distributeProRata, exactTotal, exactWeights]
  split
  next nothing =>
    left
    refine ⟨?_, rfl⟩
    rcases nothing with empty | zero | zero
    · rw [List.length_eq_zero_iff.mp empty] at fits
      exact le_antisymm (by simpa using fits) totalNonneg
    · exact zero
    · exact le_antisymm (fits.trans zero.le) totalNonneg
  next something =>
    right
    simp only [not_or] at something
    refine ⟨lt_of_le_of_ne weightsSum (Ne.symm something.2.2), ?_⟩
    have sharesMem : ∀ share ∈ Apportion.cutShares paisa total weights.sum weights,
        share ∈ paise := by
      intro share member
      obtain ⟨weight, -, rfl⟩ := List.mem_map.mp member
      exact Grid.truncate_mem
    rw [sum_of_mem sharesMem]
    rfl

theorem distributeProRata_sum : (distributeProRata total weights).sum = total := by
  rcases distributeProRata_cases totalMem totalNonneg fits weightsMem weightsNonneg with
    ⟨zero, equal⟩ | ⟨positive, equal⟩
  · rw [equal, zero]
    simp
  · rw [equal]
    exact Apportion.apportion_sum paisa_pos totalNonneg weightsNonneg positive totalMem

theorem distributeProRata_mem :
    ∀ share ∈ distributeProRata total weights, share ∈ paise ∧ 0 ≤ share := by
  rcases distributeProRata_cases totalMem totalNonneg fits weightsMem weightsNonneg with
    ⟨-, equal⟩ | ⟨positive, equal⟩
  · rw [equal]
    intro share member
    obtain ⟨weight, -, rfl⟩ := List.mem_map.mp member
    exact ⟨zero_mem _, le_rfl⟩
  · rw [equal]
    exact Apportion.apportion_mem paisa_pos totalNonneg weightsNonneg positive totalMem

/-- A total that fits the weights fits each of them. -/
theorem distributeProRata_le {index : ℕ} {share : Decimal}
    (found : (distributeProRata total weights)[index]? = some share) :
    ∃ weight, weights[index]? = some weight ∧ share ≤ weight := by
  rcases distributeProRata_cases totalMem totalNonneg fits weightsMem weightsNonneg with
    ⟨-, equal⟩ | ⟨positive, equal⟩
  · rw [equal, List.getElem?_map] at found
    cases atIndex : weights[index]? with
    | none => simp [atIndex] at found
    | some weight =>
        obtain rfl : 0 = share := by simpa [atIndex] using found
        exact ⟨weight, rfl, weightsNonneg weight (List.mem_of_getElem? atIndex)⟩
  · rw [equal] at found
    exact Apportion.apportion_le paisa_pos totalNonneg weightsNonneg positive totalMem fits
      weightsMem found

end DistributeProRata

example : distributeProRata 100 [1, 1, 1] = [33.34, 33.33, 33.33] := by decide +kernel

/-! ## What the allocation engine reads and returns

The vocabularies, the input the services hand the engine, the rows it returns and
the errors it throws.  A field no part of the engine reads is left out: a
credit's bill type, an other line's role and ledger, a tender's own mode. -/

/-- The two sides of an account. -/
inductive DrCr where
  | DR
  | CR
  deriving DecidableEq, Repr

def DrCr.flip : DrCr → DrCr
  | DR => CR
  | CR => DR

theorem DrCr.flip_inj {left right : DrCr} : left.flip = right.flip ↔ left = right := by
  cases left <;> cases right <;> decide

def DrCr.toString : DrCr → String
  | DR => "DR"
  | CR => "CR"

inductive BillAdjType where
  | ALLOCATION
  | ADVANCE_ADJUST
  | NOTE_ADJUST
  | DISCOUNT
  | WRITEOFF
  | ROUND_OFF
  | TRANSFER
  deriving DecidableEq, Repr

inductive BillSettlementMode where
  | CASH
  | CARD
  | UPI
  | WALLET
  | CHEQUE
  | BANK
  | CREDIT_NOTE
  | ADVANCE
  | LOYALTY
  | VOUCHER
  | JOURNAL
  | DISCOUNT
  | WRITEOFF
  | ROUND_OFF
  | MIXED
  | TDS
  | CLAIM
  deriving DecidableEq, Repr

/-- Midnight UTC of a calendar day, as a day number. -/
abbrev Date := ℤ

/-! ## Errors -/

namespace VCH

def UNBALANCED : String := "VCH_UNBALANCED"
def LINE_AMOUNT : String := "VCH_LINE_AMOUNT"
def BILL_OVERSPENT : String := "VCH_BILL_OVERSPENT"

end VCH

namespace ACC

def INVALID : String := "ACC_INVALID"
def BILL_MOVED : String := "ACC_BILL_MOVED"
def CREDIT_MOVED : String := "ACC_CREDIT_MOVED"
def CREDIT_OVERSPENT : String := "ACC_CREDIT_OVERSPENT"
def OTHER_LINE_UNFUNDED : String := "ACC_OTHER_LINE_UNFUNDED"
def WRITEOFF_APPROVER : String := "ACC_WRITEOFF_APPROVER"

end ACC

structure AllocationErrorDetail where
  field : String
  code : String
  message : String
  deriving DecidableEq, Repr

/-- `CONFLICT`: the world moved under the request; `VALIDATION`: it never added up. -/
inductive AllocationErrorKind where
  | CONFLICT
  | VALIDATION
  deriving DecidableEq, Repr

structure AllocationError where
  kind : AllocationErrorKind
  message : String
  details : List AllocationErrorDetail
  deriving DecidableEq, Repr

def conflict {α : Type} (message : String) (details : List AllocationErrorDetail) :
    Except AllocationError α := .error ⟨.CONFLICT, message, details⟩

def invalid {α : Type} (message : String) (details : List AllocationErrorDetail) :
    Except AllocationError α := .error ⟨.VALIDATION, message, details⟩

/-! ## Input -/

/-- Which voucher a row belongs to, before any of them has an id. -/
abbrev VoucherKey := String

def RECEIPT_VOUCHER_KEY : VoucherKey := "RECEIPT"

def pdcVoucherKey (tenderRowNo : ℕ) : VoucherKey := "PDC:" ++ toString tenderRowNo

/-- Money in (the receipt) or money out (the payment). -/
inductive AllocationDirection where
  | IN
  | OUT
  deriving DecidableEq, Repr

/-- A bill as its two-part database key names it. -/
structure BillRef where
  billId : String
  billAccYear : String
  deriving DecidableEq, Repr

/-- The key the engine's own maps use. -/
def BillRef.key (ref : BillRef) : String := ref.billId ++ "|" ++ ref.billAccYear

/-- One bill being settled; `amount` excludes the three reductions. -/
structure AllocationBill where
  billId : String
  billAccYear : String
  docRefno : String
  amount : Decimal
  discount : Decimal
  writeoff : Decimal
  roundoff : Decimal
  pendingAmount : Decimal
  writeoffApprovedBy : Option String
  deriving DecidableEq, Repr

def AllocationBill.ref (bill : AllocationBill) : BillRef := ⟨bill.billId, bill.billAccYear⟩

/-- One credit the party holds, being spent. -/
structure AllocationCredit where
  billId : String
  billAccYear : String
  docRefno : String
  amount : Decimal
  pendingAmount : Decimal
  adjType : BillAdjType
  settlementMode : BillSettlementMode
  deriving DecidableEq, Repr

def AllocationCredit.ref (credit : AllocationCredit) : BillRef :=
  ⟨credit.billId, credit.billAccYear⟩

/-- One other-ledger line, after the service has resolved its ledger. -/
structure AllocationOtherLine where
  lineNo : ℕ
  drCr : DrCr
  amount : Decimal
  settlesBill : Bool
  settlementMode : BillSettlementMode
  isInstrumentSplit : Bool
  approvedBy : Option String
  deriving DecidableEq, Repr

/-- One tender row, after the service has classified it. -/
structure AllocationTender where
  tenderRowNo : ℕ
  amount : Decimal
  isCheque : Bool
  isPostDated : Bool
  instrumentDate : Option Date
  deriving DecidableEq, Repr

/-- Pins one other-ledger line to one bill. -/
structure AllocationPin where
  lineNo : ℕ
  billId : String
  billAccYear : String
  amount : Decimal
  deriving DecidableEq, Repr

def AllocationPin.ref (pin : AllocationPin) : BillRef := ⟨pin.billId, pin.billAccYear⟩

/-- What a receipt allocates. -/
structure AllocationInput where
  receiptDate : Date
  bills : List AllocationBill
  credits : List AllocationCredit
  otherLines : List AllocationOtherLine
  tenders : List AllocationTender
  pins : List AllocationPin
  claimedOnAccount : Decimal
  direction : Option AllocationDirection
  deriving DecidableEq, Repr

/-! ## Output -/

/-- One bill adjustment row, less the ids the service assigns. -/
structure AllocationAdjustment where
  billId : String
  billAccYear : String
  adjType : BillAdjType
  settlementMode : BillSettlementMode
  drCr : DrCr
  amount : Decimal
  adjDate : Date
  isPostDated : Bool
  voucherKey : VoucherKey
  tenderRowNo : Option ℕ
  otherLineNo : Option ℕ
  againstBill : Option BillRef
  approvedBy : Option String
  countsToAdjustAmount : Bool
  remarks : Option String
  deriving DecidableEq, Repr

def AllocationAdjustment.ref (row : AllocationAdjustment) : BillRef :=
  ⟨row.billId, row.billAccYear⟩

/-- A remainder held on account, per voucher. -/
structure AllocationOnAccount where
  voucherKey : VoucherKey
  amount : Decimal
  onDate : Date
  deriving DecidableEq, Repr

/-- The plan of an allocation. -/
structure AllocationResult where
  adjustments : List AllocationAdjustment
  onAccount : List AllocationOnAccount
  totalOnAccount : Decimal
  adjustAmountByVoucher : OrderedMap VoucherKey Decimal
  partyCreditByVoucher : OrderedMap VoucherKey Decimal
  partyLegSide : DrCr
  deriving DecidableEq, Repr

/-! ## Voucher keys -/

theorem pdcVoucherKey_inj {left right : ℕ} : pdcVoucherKey left = pdcVoucherKey right ↔
    left = right := by
  refine ⟨fun equal => ?_, congrArg _⟩
  have digits : Nat.toDigits 10 left = Nat.toDigits 10 right := by
    rw [← Nat.toList_repr, ← Nat.toList_repr]
    exact congrArg String.toList ((String.append_right_inj "PDC:").mp equal)
  rw [← Nat.ofDigitChars_ten_toDigits (n := left), digits, Nat.ofDigitChars_ten_toDigits]

theorem pdcVoucherKey_ne_receipt (tenderRowNo : ℕ) :
    pdcVoucherKey tenderRowNo ≠ RECEIPT_VOUCHER_KEY := by
  intro equal
  have heads := congrArg (fun key => key.toList.head?) equal
  simp [pdcVoucherKey, RECEIPT_VOUCHER_KEY] at heads

end ErpServer.Receipt
