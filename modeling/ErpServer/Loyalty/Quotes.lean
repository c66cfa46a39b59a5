import ErpServer.Loyalty.Awards

/-!
# Quotes and redemptions

The preview quotes the terms of the scheme a bill earns on, and the post enforces those
of the scheme it redeems under.  They are the same scheme when the first in rank of those
that cover the bill does both; even then the two compute its cap in different ways.
-/

namespace ErpServer.Loyalty

open Lib
open Receipt (Decimal)

/-! ## Terms -/

/-- What a redemption is quoted. -/
structure RedeemTerms where
  rate : Decimal
  minPoints : Decimal
  maxPoints : Option Decimal
  maxRedeemAmount : Option Decimal
  multiple : Option Decimal
  deriving DecidableEq, Repr

def LoyaltyPreview.terms (quoted : LoyaltyPreview) : RedeemTerms :=
  ⟨quoted.rate, quoted.minPoints, quoted.maxPoints, quoted.maxRedeemAmount, quoted.multiple⟩

/-- The terms a scheme sets for redemptions, with its percentage as a cap; no scheme sets
none. -/
def termsOf (cap : Decimal → Decimal) : Option LoyaltyScheme → RedeemTerms
  | none => ⟨0, 0, none, none, none⟩
  | some scheme =>
      { rate := scheme.redeemValuePerPoint
        minPoints := scheme.minRedeemPoints
        maxPoints := scheme.maxRedeemPoints
        maxRedeemAmount := (scheme.maxRedeemPerc.filter (0 < ·)).map cap
        multiple := scheme.redeemMultiple }

/-- A tender within terms and priced at their rate.  A limit of nothing is no limit. -/
structure Within (terms : RedeemTerms) (tender : LoyaltyTender) : Prop where
  priced : roundNumber (Binary64.nearest tender.amount) = priceOf tender.points terms.rate
  minPoints : terms.minPoints ≤ tender.points
  maxPoints : ∀ most ∈ terms.maxPoints, 0 < most → tender.points ≤ most
  maxRedeemAmount : ∀ most ∈ terms.maxRedeemAmount,
    roundNumber (Binary64.nearest tender.amount) ≤ most
  multiple : ∀ step ∈ terms.multiple, 0 < step → ∃ count : ℤ, tender.points = count * step

/-- A refusal over the rate, the limits or the multiple of the scheme. -/
def RedeemRefusal.overTerms : RedeemRefusal → Bool
  | noRate _ => true
  | wrongAmount _ _ _ _ => true
  | belowMinimum _ _ => true
  | aboveMaximum _ _ => true
  | aboveShare _ _ _ => true
  | notAMultiple _ _ => true
  | _ => false

/-- The till and the post agree: the terms quoted are those of the scheme the redemption
resolves, and no tender within them is refused over them. -/
structure PreviewAgrees (masters : LoyaltyMasters) (bill : LoyaltyBillSource) : Prop where
  quoted : ∀ wallets, (preview masters wallets bill).terms =
    termsOf (redeemCap bill) (resolveScheme masters.schemes bill { forRedeem := true })
  accepted : ∀ books tender opts refusal, opts.scheme = none →
    Within (preview masters books.wallets bill).terms tender →
    redeem masters books bill tender opts = .error (.refused refusal) →
    refusal.overTerms = false

/-- The preview quotes the scheme a bill earns on. -/
theorem preview_terms (masters : LoyaltyMasters) (wallets : Wallets) (bill : LoyaltyBillSource) :
    (preview masters wallets bill).terms =
      termsOf (quotedCap bill) (resolveScheme masters.schemes bill {}) := by
  unfold preview
  cases resolveScheme masters.schemes bill {} with
  | none => rfl
  | some scheme => rfl

/-! ## A tender within the terms -/

section Accepted

variable {bill : LoyaltyBillSource} {tender : LoyaltyTender} {scheme : LoyaltyScheme}
variable (within : Within (termsOf (redeemCap bill) (some scheme)) tender)

include within

/-- A scheme that sets a rate is the one that prices the points. -/
theorem Within.expectedAmount_eq (rated : 0 < scheme.redeemValuePerPoint) :
    expectedAmount tender scheme = roundNumber (Binary64.nearest tender.amount) := by
  have rate : redeemRate tender scheme = scheme.redeemValuePerPoint := if_pos rated
  rw [expectedAmount, rate, within.priced]
  rfl

omit within in
theorem offWhole_of_int (count : ℤ) : offWhole count = 0 := by
  have whole : ⌊(count : Decimal) + 1 / 2⌋ = count := by
    rw [Int.floor_eq_iff]
    constructor <;> linarith
  rw [offWhole, whole, sub_self, abs_zero]

theorem Within.checkMaximum : checkMaximum tender scheme = .ok () := by
  unfold Loyalty.checkMaximum
  cases set : scheme.maxRedeemPoints.filter (0 < ·) with
  | none => rfl
  | some most =>
      rw [Option.filter_eq_some_iff, decide_eq_true_eq] at set
      exact if_neg (not_lt.mpr (within.maxPoints most set.1 set.2))

theorem Within.checkShare (rated : 0 < scheme.redeemValuePerPoint) :
    checkShare bill tender scheme = .ok () := by
  unfold Loyalty.checkShare
  cases set : scheme.maxRedeemPerc.filter (0 < ·) with
  | none => rfl
  | some perc =>
      have quoted : (termsOf (redeemCap bill) (some scheme)).maxRedeemAmount =
          some (redeemCap bill perc) :=
        congrArg (Option.map (redeemCap bill)) set
      have most := within.maxRedeemAmount _ quoted
      rw [← within.expectedAmount_eq rated] at most
      exact if_neg (not_lt.mpr most)

theorem Within.checkMultiple : checkMultiple tender scheme = .ok () := by
  unfold Loyalty.checkMultiple
  cases set : scheme.redeemMultiple.filter (0 < ·) with
  | none => rfl
  | some step =>
      rw [Option.filter_eq_some_iff, decide_eq_true_eq] at set
      have whole : offWhole (tender.points / step) = 0 := by
        obtain ⟨count, points⟩ := within.multiple step set.1 set.2
        rw [points, mul_div_cancel_right₀ _ set.2.ne', offWhole_of_int]
      apply if_neg
      rw [whole]
      norm_num

variable {refusal : RedeemRefusal}

/-- The only limit left is the smallest bill that takes a redemption. -/
theorem Within.checkLimits (rated : 0 < scheme.redeemValuePerPoint)
    (refused : checkLimits bill tender scheme = .error refusal) : refusal.overTerms = false := by
  have minimum : ¬(0 < scheme.minRedeemPoints ∧ tender.points < scheme.minRedeemPoints) := by
    intro below
    exact absurd below.2 (not_lt.mpr within.minPoints)
  unfold Loyalty.checkLimits at refused
  rw [if_neg minimum, within.checkMaximum, within.checkShare rated, within.checkMultiple] at refused
  split at refused
  · cases refused
    rfl
  · cases refused

/-- A scheme in the table that allows a redemption sets a rate, so no tender within its terms
is refused over them. -/
theorem Within.checkTender (rated : ckRedeemRate scheme = true) {elsewhere : ℕ}
    (refused : checkTender bill tender scheme elsewhere = .error refusal) :
    refusal.overTerms = false := by
  unfold Loyalty.checkTender at refused
  split at refused
  · cases refused
    rfl
  case isFalse allowed =>
      have positive : 0 < scheme.redeemValuePerPoint := by
        simpa [ckRedeemRate, allowed] using rated
      split at refused
      · cases refused
        rfl
      · have rate : 0 < redeemRate tender scheme := by
          rw [redeemRate, if_pos positive]
          exact positive
        have amount : ¬roundNumber (Binary64.nearest tender.amount) ≠
            expectedAmount tender scheme :=
          not_not.mpr (within.expectedAmount_eq positive).symm
        dsimp only at refused
        rw [if_neg (not_not.mpr rate), if_neg amount] at refused
        exact within.checkLimits positive refused

end Accepted

variable {bill : LoyaltyBillSource} {scheme : LoyaltyScheme}

/-- Every scheme resolved is a row of the table, with its checks. -/
theorem resolveScheme_rated {schemes : List SchemeRow} {opts : ResolveOptions}
    (resolved : resolveScheme schemes bill opts = some scheme) : ckRedeemRate scheme = true := by
  rw [resolveScheme, Option.map_eq_some_iff] at resolved
  obtain ⟨row, _, rfl⟩ := resolved
  exact row.redeemRate

/-- A tender within the terms of the scheme that is resolved is not refused over them. -/
theorem redeem_accepts {masters : LoyaltyMasters} {books : BranchLedger} {tender : LoyaltyTender}
    {opts : RedeemOptions} {refusal : RedeemRefusal} (unnamed : opts.scheme = none) (within : Within
      (termsOf (redeemCap bill) (resolveScheme masters.schemes bill { forRedeem := true })) tender)
    (refused : redeem masters books bill tender opts = .error (.refused refusal)) :
    refusal.overTerms = false := by
  unfold redeem at refused
  rw [unnamed, Option.getD_none] at refused
  split at refused
  · cases refused
  split at refused
  · cases refused
    rfl
  cases resolved : resolveScheme masters.schemes bill { forRedeem := true } with
  | none =>
      rw [resolved] at refused
      cases refused
      rfl
  | some scheme =>
      rw [resolved] at refused within
      dsimp only at refused
      split at refused
      case h_1 failed =>
          cases refused
          exact within.checkTender (resolveScheme_rated resolved) failed
      case h_2 =>
          split at refused <;> cases refused

/-! ## The scheme quoted and the scheme enforced -/

/-- The schemes that cover a bill when no time is given, in rank. -/
def inForce (schemes : List SchemeRow) (bill : LoyaltyBillSource) : List SchemeRow :=
  (rankedSchemes schemes).filter (SchemeRow.covers bill none)

/-- The first scheme in force both earns and redeems and its percentage makes one cap either
way, or the first that earns and the first that redeems set the same terms. -/
def OneSetOfTerms (bill : LoyaltyBillSource) : List SchemeRow → Prop
  | [] => True
  | first :: rest =>
      match first.type with
      | .BOTH => ∀ perc ∈ first.maxRedeemPerc, 0 < perc → quotedCap bill perc = redeemCap bill perc
      | .EARN =>
          termsOf (quotedCap bill) (some first.toLoyaltyScheme) =
            termsOf (redeemCap bill)
              ((rest.find? fun row => row.type ≠ .EARN).map SchemeRow.toLoyaltyScheme)
      | .REDEEM =>
          termsOf (quotedCap bill)
              ((rest.find? fun row => row.type ≠ .REDEEM).map SchemeRow.toLoyaltyScheme) =
            termsOf (redeemCap bill) (some first.toLoyaltyScheme)

theorem resolve_inForce (schemes : List SchemeRow) (bill : LoyaltyBillSource) (forRedeem : Bool) :
    resolveScheme schemes bill { forRedeem := forRedeem } =
      ((inForce schemes bill).find? fun row =>
        row.type ∈ ({ forRedeem := forRedeem } : ResolveOptions).wantTypes).map
          SchemeRow.toLoyaltyScheme := by
  rw [resolveScheme, inForce, List.find?_filter]
  simp only [Bool.decide_and, Bool.decide_eq_true]

theorem earns_iff (type : LoyaltySchemeType) :
    type ∈ ({} : ResolveOptions).wantTypes ↔ type ≠ .REDEEM := by
  cases type <;> decide

theorem redeems_iff (type : LoyaltySchemeType) :
    type ∈ ({ forRedeem := true } : ResolveOptions).wantTypes ↔ type ≠ .EARN := by
  cases type <;> decide

/-- One scheme sets the same terms both ways where its caps agree. -/
theorem termsOf_inj {left right : Decimal → Decimal} :
    termsOf left (some scheme) = termsOf right (some scheme) ↔
      ∀ perc ∈ scheme.maxRedeemPerc, 0 < perc → left perc = right perc := by
  simp only [termsOf, RedeemTerms.mk.injEq, true_and, and_true]
  cases scheme.maxRedeemPerc with
  | none => simp
  | some perc =>
      by_cases positive : 0 < perc
      · simp [Option.filter, positive]
      · simp [Option.filter, positive]

/-- The two schemes set the same terms exactly when the schemes in force have one set. -/
theorem same_terms_iff (schemes : List SchemeRow) (bill : LoyaltyBillSource) :
    termsOf (quotedCap bill) (resolveScheme schemes bill {}) =
        termsOf (redeemCap bill) (resolveScheme schemes bill { forRedeem := true }) ↔
      OneSetOfTerms bill (inForce schemes bill) := by
  have earning := resolve_inForce schemes bill false
  have redeeming := resolve_inForce schemes bill true
  rw [earning, redeeming]
  simp only [earns_iff, redeems_iff]
  cases inForce schemes bill with
  | nil => exact iff_of_true rfl trivial
  | cons first rest =>
      rw [OneSetOfTerms]
      cases type : first.type with
      | EARN => simp [type]
      | REDEEM => simp [type]
      | BOTH => simp [type, termsOf_inj]

theorem quarter_rated : (!true || decide ((0 : Decimal) < 1 / 4)) = true := by norm_num

theorem half_rated : (!true || decide ((0 : Decimal) < 1 / 2)) = true := by norm_num

/-- A scheme as its row defaults it, but for the value of a point. -/
def plainScheme (code : String) (type : LoyaltySchemeType) (priority : ℕ) (value : Decimal) :
    LoyaltyScheme where
  lscId := code
  code := code
  name := code
  type := type
  priority := priority
  applyOn := .BILL_AMOUNT
  amountType := .NET_AMOUNT
  billType := .ALL
  itemScope := .ALL
  branchScope := .ALL
  custScope := .ALL
  minBillAmount := 0
  maxEarnPoints := some 0
  earnOnDiscounted := true
  earnOnCharges := false
  earnWithRedeem := false
  rounding := .FLOOR
  pointsDecimals := 2
  allowPointRedeem := true
  redeemValuePerPoint := value
  minRedeemPoints := 0
  maxRedeemPoints := some 0
  maxRedeemPerc := some 100
  redeemMinBillAmount := 0
  redeemMultiple := some 0
  startDate := none
  endDate := none
  poolMode := .COMPANY
  allowCrossBranchRedeem := true

def plainRow (scheme : LoyaltyScheme) (rated : ckRedeemRate scheme = true) : SchemeRow where
  toLoyaltyScheme := scheme
  lscCompId := "company"
  lscStatus := .APPROVED
  lscIsActive := true
  lscIsDeleted := false
  lscValidFromTime := none
  lscValidToTime := none
  lscValidWeekdays := none
  lscCreatedOn := 0
  branches := []
  parties := []
  redeemRate := rated

/-- The house scheme earns and redeems; the festive one only earns, and ranks first. -/
def festiveMasters : LoyaltyMasters where
  schemes :=
    [plainRow (plainScheme "HOUSE" .BOTH 1 (1 / 2)) half_rated,
      plainRow (plainScheme "FESTIVE" .EARN 5 (1 / 4)) quarter_rated]
  items := []
  slabs := []

def festiveBill : LoyaltyBillSource where
  docId := "bill"
  accYear := "2026-27"
  companyId := "company"
  branchId := "branch"
  custId := "customer"
  docDate := 20700
  docType := .SALE_BILL
  billType := some .CASH
  memberId := some "member"
  chargesAmt := 0
  redeemedAmount := 0
  custGroupId := none
  lines := [⟨1, "item", 1, 500, 500, 500, false, true, none, none, none, none⟩]

/-- A hundred points at the quarter the preview quotes. -/
def festiveTender : LoyaltyTender where
  tenderId := "tender"
  tenderAccYear := "2026-27"
  points := 100
  amount := 25

def noLedger : BranchLedger := ⟨⟨[], []⟩, fun _ => "branch"⟩

/-- Ten per cent of a bill of 21.75 is quoted as a paisa more than may be settled. -/
example :
    let bill := { festiveBill with
      lines := [⟨1, "item", 1, 87 / 4, 87 / 4, 87 / 4, false, true, none, none, none, none⟩] }
    quotedCap bill 10 = 218 / 100 ∧ redeemCap bill 10 = 217 / 100 := by
  decide +kernel

end ErpServer.Loyalty
