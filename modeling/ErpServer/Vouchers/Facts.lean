import ErpServer.Lib.Text
import ErpServer.Receipt.Rows

/-!
# The facts of a voucher

What a derivation reads of the masters, and the context it reports to: every refusal and
warning is collected, so that all of them are shown together.  The columns' own constraints
are fields: a rate is never negative.
-/

namespace ErpServer.Vouchers

open Lib
open Receipt (Decimal DrCr)

abbrev Uuid := ℕ

/-- A text with something in it counts as given. -/
def given : Option Text → Bool
  | none => false
  | some text => text ≠ []

structure CompanyFacts where
  companyId : Uuid
  stateCode : Text

structure LedgerFacts where
  ledId : Uuid
  name : String
  isActive : Bool
  isDeleted : Bool
  groupName : String
  /-- This ledger's group and every ancestor, nearest first. -/
  groupPath : List Uuid
  groupNames : List Text
  isParty : Bool
  isBillByBill : Bool
  /-- The ledger's own vocabulary. -/
  itcEligibility : Option Text
  isTdsApplicable : Bool
  tdsSection : Option Text
  tdsDeducteeType : Option Text
  pan : Option Text
  gstin : Option Text
  stateCode : Option Text

/-- Cash-in-Hand, Bank Accounts and Bank OD A/c, by their reserved ids. -/
def MONEY_GROUP_IDS : List Uuid :=
  [0x019eee86f34b7e189d7c5bea4d593ba8, 0x019eee86f34b7e278aee2b5930314c8a,
    0x019eee86f34b7d50af11254d259a8440]

def MONEY_GROUPS : List Text :=
  ["cash-in-hand".toList, "bank accounts".toList, "bank od a/c".toList]

variable (cases : Text.CaseMapping)

/-- Under Bank Accounts or Bank OD A/c: an account a cheque or transfer is drawn on. -/
def isBankLedger (ledger : LedgerFacts) : Bool :=
  ledger.groupNames.any fun name =>
    cases.toLowerCase name = "bank accounts".toList ∨ cases.toLowerCase name = "bank od a/c".toList

/-- By the reserved group id first, by name as the fallback. -/
def isMoneyLedger (ledger : LedgerFacts) : Bool :=
  ledger.groupPath.any (fun group => group ∈ MONEY_GROUP_IDS) ||
    ledger.groupNames.any fun name => cases.toLowerCase name ∈ MONEY_GROUPS

/-! ## Rates -/

inductive CessBasis where
  | NONE | PERCENT | PER_UNIT | BOTH
  deriving DecidableEq, Repr

structure TaxRateFacts where
  taxId : Uuid
  name : String
  ratePerc : Decimal
  cessPerc : Decimal
  cessBasis : CessBasis
  isActive : Bool
  ratePerc_nonneg : 0 ≤ ratePerc
  cessPerc_nonneg : 0 ≤ cessPerc

inductive SupplyNature where
  | INTRA | INTER
  deriving DecidableEq, Repr

def SupplyNature.describe : SupplyNature → String
  | .INTRA => "intra"
  | .INTER => "inter"

inductive GstComponent where
  | CGST | SGST | IGST | CESS
  deriving DecidableEq, Repr

def GstComponent.toString : GstComponent → String
  | .CGST => "CGST"
  | .SGST => "SGST"
  | .IGST => "IGST"
  | .CESS => "CESS"

structure ResolvedRoleLedger where
  ledgerId : Uuid
  ledgerName : String
  deriving DecidableEq, Repr

/-- The tax of a line, by component. -/
structure GstAmounts where
  cgst : Decimal
  sgst : Decimal
  igst : Decimal
  cess : Decimal
  deriving DecidableEq, Repr

namespace GstAmounts

def zero : GstAmounts := ⟨0, 0, 0, 0⟩

def plus (left right : GstAmounts) : GstAmounts :=
  ⟨left.cgst + right.cgst, left.sgst + right.sgst, left.igst + right.igst,
    left.cess + right.cess⟩

def total (tax : GstAmounts) : Decimal := tax.cgst + tax.sgst + tax.igst + tax.cess

def get (tax : GstAmounts) : GstComponent → Decimal
  | .CGST => tax.cgst
  | .SGST => tax.sgst
  | .IGST => tax.igst
  | .CESS => tax.cess

end GstAmounts

/-- One rounded figure, then split: the paise rule. -/
def taxOf (nature : SupplyNature) (rate : TaxRateFacts) (amount : Decimal) : GstAmounts :=
  let whole := Receipt.money (amount * rate.ratePerc / 100)
  let cess :=
    if rate.cessBasis = .PERCENT ∨ rate.cessBasis = .BOTH then
      Receipt.money (amount * rate.cessPerc / 100)
    else 0
  match nature with
  | .INTER => ⟨0, 0, whole, cess⟩
  | .INTRA => ⟨Receipt.money (whole / 2), whole - Receipt.money (whole / 2), 0, cess⟩

inductive ItcClass where
  | INPUTS | INPUT_SERVICES | CAPITAL_GOODS | INELIGIBLE
  deriving DecidableEq, Repr

/-- The ledger's vocabulary, as the return has it. -/
def itcClassOf (ledgerItc : Option Text) : Option ItcClass :=
  let word := cases.toUpperCase (ledgerItc.getD [])
  if word = "ELIGIBLE".toList then some .INPUTS
  else if word = "INPUT_SERVICES".toList then some .INPUT_SERVICES
  else if word = "CAPITAL_GOODS".toList then some .CAPITAL_GOODS
  else if word = "INELIGIBLE_17_5".toList ∨ word = "INELIGIBLE_OTHER".toList then
    some .INELIGIBLE
  else none

/-- A code that begins with 99 is a service. -/
def isServiceCode (hsn : Option Text) : Bool := ['9', '9'].isPrefixOf (Text.trim (hsn.getD []))

/-! ## Refusals -/

structure VoucherRefusal (Code : Type) where
  code : Code
  message : String
  field : Option String
  line : Option ℕ
  deriving DecidableEq, Repr

inductive WarningLevel where
  | INFO | WARN
  deriving DecidableEq, Repr

structure VoucherWarning (Code : Type) extends VoucherRefusal Code where
  level : WarningLevel
  overridable : Bool

/-- What one derivation collects. -/
structure VoucherGuardContext (Code : Type) where
  dryRun : Bool
  overrides : List Code
  canOverride : Bool
  refusals : List (VoucherRefusal Code)
  warnings : List (VoucherWarning Code)

namespace VoucherGuardContext

variable {Code : Type} [DecidableEq Code]

/-- Record a refusal. -/
def refuse (ctx : VoucherGuardContext Code) (refusal : VoucherRefusal Code) :
    VoucherGuardContext Code :=
  { ctx with refusals := ctx.refusals ++ [refusal] }

/-- Overridden, an INFO; on a dry run, a WARN; otherwise a refusal too. -/
def warn (ctx : VoucherGuardContext Code) (refusal : VoucherRefusal Code) :
    VoucherGuardContext Code :=
  let accepted := ctx.overrides.contains refusal.code && ctx.canOverride
  let warned := { ctx with
    warnings := ctx.warnings ++ [⟨refusal, if accepted then .INFO else .WARN, true⟩] }
  if accepted || ctx.dryRun then warned else warned.refuse refusal

end VoucherGuardContext

end ErpServer.Vouchers

namespace ErpServer.Vouchers

open Lib
open Receipt (Decimal Figure money money_mem money_nonneg paisa paisa_pos)

/-! ## One rounded figure, then split

The tax of a line is rounded once.  Between states it is all integrated tax; within a state it
is halved, the central half rounded and the state half what is left, so nothing is lost. -/

variable {nature : SupplyNature} {rate : TaxRateFacts} {amount : Decimal}

/-- The tax of a line, rounded to two places. -/
def wholeTax (rate : TaxRateFacts) (amount : Decimal) : Decimal :=
  money (amount * rate.ratePerc / 100)

/-- Half of a figure, rounded, is no more than the figure. -/
theorem money_half_le {whole : Decimal} (figure : Figure whole) : money (whole / 2) ≤ whole := by
  have half : 0 ≤ whole / 2 := div_nonneg figure.nonneg (by norm_num)
  have le : whole / 2 ≤ whole := by linarith [figure.nonneg]
  exact Grid.halfUp_le_of_mem paisa_pos half le figure.exact

theorem wholeTax_figure (nonneg : 0 ≤ amount) : Figure (wholeTax rate amount) :=
  ⟨money_mem _, money_nonneg (div_nonneg (mul_nonneg nonneg rate.ratePerc_nonneg) (by norm_num))⟩

theorem cess_figure (nonneg : 0 ≤ amount) : Figure (taxOf nature rate amount).cess := by
  have percent : Figure (money (amount * rate.cessPerc / 100)) :=
    ⟨money_mem _,
      money_nonneg (div_nonneg (mul_nonneg nonneg rate.cessPerc_nonneg) (by norm_num))⟩
  cases nature with
  | INTRA =>
      simp only [taxOf]
      split
      · exact percent
      · exact ⟨zero_mem _, le_rfl⟩
  | INTER =>
      simp only [taxOf]
      split
      · exact percent
      · exact ⟨zero_mem _, le_rfl⟩

/-- Every component of the tax of an amount is a figure of two places. -/
theorem taxOf_figures (nonneg : 0 ≤ amount) (component : GstComponent) :
    Figure ((taxOf nature rate amount).get component) := by
  have whole := @wholeTax_figure rate amount nonneg
  have none : Figure (0 : Decimal) := ⟨zero_mem _, le_rfl⟩
  have half := money_half_le whole
  have central : Figure (money (wholeTax rate amount / 2)) :=
    ⟨money_mem _, money_nonneg (div_nonneg whole.nonneg (by norm_num))⟩
  have state : Figure (wholeTax rate amount - money (wholeTax rate amount / 2)) :=
    ⟨sub_mem whole.exact central.exact, sub_nonneg.mpr half⟩
  cases component with
  | CESS => exact cess_figure nonneg
  | CGST =>
      cases nature with
      | INTRA => exact central
      | INTER => exact none
  | SGST =>
      cases nature with
      | INTRA => exact state
      | INTER => exact none
  | IGST =>
      cases nature with
      | INTRA => exact none
      | INTER => exact whole

/-- The components other than cess come to the rounded tax. -/
theorem taxOf_split (nature : SupplyNature) (rate : TaxRateFacts) (amount : Decimal) :
    (taxOf nature rate amount).cgst + (taxOf nature rate amount).sgst +
      (taxOf nature rate amount).igst = wholeTax rate amount := by
  cases nature with
  | INTRA =>
      change money (wholeTax rate amount / 2) +
        (wholeTax rate amount - money (wholeTax rate amount / 2)) + 0 = wholeTax rate amount
      ring
  | INTER =>
      change 0 + 0 + wholeTax rate amount = wholeTax rate amount
      ring

/-- The two halves differ by a paisa at most. -/
theorem taxOf_halves (nature : SupplyNature) (rate : TaxRateFacts) (amount : Decimal) :
    |(taxOf nature rate amount).cgst - (taxOf nature rate amount).sgst| ≤ paisa := by
  cases nature with
  | INTRA =>
      have near : |money (wholeTax rate amount / 2) - wholeTax rate amount / 2| ≤ paisa / 2 :=
        Grid.abs_halfUp_sub_le paisa_pos
      change |money (wholeTax rate amount / 2) -
        (wholeTax rate amount - money (wholeTax rate amount / 2))| ≤ paisa
      have twice : money (wholeTax rate amount / 2) -
          (wholeTax rate amount - money (wholeTax rate amount / 2)) =
            2 * (money (wholeTax rate amount / 2) - wholeTax rate amount / 2) := by ring
      rw [twice, abs_mul, abs_of_pos (by norm_num : (0 : Decimal) < 2)]
      linarith
  | INTER =>
      change |(0 : Decimal) - 0| ≤ paisa
      rw [sub_zero, abs_zero]
      exact paisa_pos.le

/-- Within a state there is no integrated tax, between states nothing but it. -/
theorem taxOf_heads (nature : SupplyNature) (rate : TaxRateFacts) (amount : Decimal) :
    match nature with
    | .INTRA => (taxOf nature rate amount).igst = 0
    | .INTER => (taxOf nature rate amount).cgst = 0 ∧ (taxOf nature rate amount).sgst = 0 := by
  cases nature with
  | INTRA => rfl
  | INTER => exact ⟨rfl, rfl⟩

end ErpServer.Vouchers
