import ErpServer.Lib.ListSum
import ErpServer.Loyalty.Awards

/-!
# The snapshots of the lines

A scheme that awards line by line leaves line figures that sum to the award.  An award of
the whole bill is spread over a base the charges and the redeemed money have moved, and
the line figures sum to it only when these leave the base at what the lines total.
-/

namespace ErpServer.Loyalty

open Lib
open Receipt (Decimal)

/-- The line figures are no less than nothing and sum to the award, up to half of the
fourth place for each line. -/
structure Closes (computed : ComputedEarn) : Prop where
  nonneg : ∀ line ∈ computed.lines, 0 ≤ line.points
  total : |(computed.lines.map LoyaltyLinePoints.points).sum - computed.points| ≤
    computed.lines.length * (1 / 20000)

/-! ## Bringing the snapshots to the award -/

section Snapshot

variable {raw : Decimal} (points : Decimal) (lines : List LoyaltyLinePoints)

theorem sum_rescale (k : Decimal) :
    ((lines.map (LoyaltyLinePoints.rescale k)).map LoyaltyLinePoints.points) =
      (lines.map fun line => line.points * k).map round4 := by
  rw [List.map_map, List.map_map]
  rfl

theorem length_snapshotLines : (snapshotLines raw points lines).length = lines.length := by
  unfold snapshotLines
  split
  · exact List.length_map _
  · rfl

/-- The snapshots sum to the same part of the award as the lines of what was reckoned. -/
theorem snapshotLines_near (positive : 0 < raw) :
    |((snapshotLines raw points lines).map LoyaltyLinePoints.points).sum -
        points * ((lines.map LoyaltyLinePoints.points).sum / raw)| ≤
      lines.length * (1 / 20000) := by
  unfold snapshotLines
  split
  · have near := Grid.abs_sum_halfUp_sub_le (by norm_num : (0 : Decimal) < 1 / 10000)
      (lines.map fun line => line.points * (points / raw))
    have scaled : (lines.map fun line => line.points * (points / raw)).sum =
        points * ((lines.map LoyaltyLinePoints.points).sum / raw) := by
      rw [List.sum_map_mul_right]
      ring
    rw [List.length_map, scaled] at near
    rw [sum_rescale]
    calc _ ≤ (lines.length : Decimal) * (1 / 10000 / 2) := near
      _ = lines.length * (1 / 20000) := by norm_num
  case isFalse same =>
      have equal : points = raw := by
        by_contra other
        exact same ⟨positive, other⟩
      rw [equal, mul_div_cancel₀ _ positive.ne', sub_self, abs_zero]
      positivity

theorem snapshotLines_nonneg (awarded : 0 ≤ points) (nonneg : ∀ line ∈ lines, 0 ≤ line.points) :
    ∀ line ∈ snapshotLines raw points lines, 0 ≤ line.points := by
  intro line member
  unfold snapshotLines at member
  split at member
  case isTrue scaled =>
      rw [List.mem_map] at member
      obtain ⟨origin, originMember, rfl⟩ := member
      have share : 0 ≤ origin.points * (points / raw) :=
        mul_nonneg (nonneg origin originMember) (div_nonneg awarded scaled.1.le)
      exact Grid.halfUp_nonneg (by norm_num) share
  case isFalse => exact nonneg line member

/-- What awards no less than nothing for a line leaves a figure that rounds to it. -/
theorem neg_le_of_snapshotLines (positive : 0 < raw)
    (nonneg : ∀ line ∈ snapshotLines raw points lines, 0 ≤ line.points) :
    ∀ line ∈ lines, -(1 / 20000) ≤ points * (line.points / raw) := by
  intro line member
  unfold snapshotLines at nonneg
  split at nonneg
  · have rounded : 0 ≤ round4 (line.points * (points / raw)) :=
      nonneg _ (List.mem_map_of_mem member)
    have near : |round4 (line.points * (points / raw)) - line.points * (points / raw)| ≤
        1 / 10000 / 2 := Grid.abs_halfUp_sub_le (by norm_num)
    rw [abs_le] at near
    have bound := near.2
    calc -(1 / 20000) ≤ line.points * (points / raw) := by linarith
      _ = points * (line.points / raw) := by ring
  case isFalse same =>
      have equal : points = raw := by
        by_contra other
        exact same ⟨positive, other⟩
      rw [equal, mul_div_cancel₀ _ positive.ne']
      have own := nonneg line member
      linarith

/-- Lines that sum to what was reckoned close. -/
theorem snapshotLines_close {computed : ComputedEarn}
    (snapshot : computed.lines = snapshotLines raw computed.points lines) (positive : 0 < raw)
    (awarded : 0 ≤ computed.points) (nonneg : ∀ line ∈ lines, 0 ≤ line.points)
    (total : (lines.map LoyaltyLinePoints.points).sum = raw) : Closes computed := by
  constructor
  · rw [snapshot]
    exact snapshotLines_nonneg computed.points lines awarded nonneg
  · have near := snapshotLines_near computed.points lines positive
    rw [total, div_self positive.ne', mul_one] at near
    rwa [snapshot, length_snapshotLines]

end Snapshot

/-! ## What computes an award -/

section Award

variable {scheme : LoyaltyScheme}

theorem scale_pos (decimals : ℤ) : (0 : Decimal) < 10 ^ (max 0 decimals).toNat := by positivity

variable {raw : Decimal}

/-- Nothing is awarded unless something was reckoned. -/
theorem pos_of_roundPoints {method : LoyaltyRounding} {decimals : ℤ}
    (awarded : 0 < roundPoints raw method decimals) : 0 < raw := by
  have scale := scale_pos decimals
  by_contra nonpos
  have scaled : raw * 10 ^ (max 0 decimals).toNat ≤ 0 :=
    mul_nonpos_of_nonpos_of_nonneg (not_lt.mp nonpos) scale.le
  have whole (count : ℤ) (bound : count ≤ 0) :
      (count : Decimal) / 10 ^ (max 0 decimals).toNat ≤ 0 :=
    div_nonpos_of_nonpos_of_nonneg (by exact_mod_cast bound) scale.le
  apply absurd awarded
  rw [not_lt]
  cases method with
  | FLOOR => exact whole _ (Int.floor_nonpos scaled)
  | CEIL => exact whole _ (Int.ceil_le.mpr (by exact_mod_cast scaled))
  | NONE => exact not_lt.mp nonpos
  | ROUND =>
      apply whole
      have below : ⌊raw * 10 ^ (max 0 decimals).toNat + 1 / 2⌋ < 1 := by
        rw [Int.floor_lt]
        push_cast
        linarith
      omega

theorem pos_of_awardedPoints (awarded : 0 < awardedPoints scheme raw) : 0 < raw := by
  unfold awardedPoints at awarded
  dsimp only at awarded
  split at awarded
  · exact pos_of_roundPoints (lt_min_iff.mp awarded).1
  · exact pos_of_roundPoints awarded

variable {itemRules : List ItemRule} {slabs : List Slab} {bill : LoyaltyBillSource}

/-- An award above nothing comes out of priced lines. -/
theorem computeEarn_of_pos (awarded : 0 < (computeEarn scheme itemRules slabs bill).points) :
    ∃ awards, rawAwards scheme itemRules slabs bill (bill.lines.filter (earns scheme itemRules)) =
        .ok awards ∧ 0 < awards.raw ∧
      (computeEarn scheme itemRules slabs bill).points = awardedPoints scheme awards.raw ∧
      (computeEarn scheme itemRules slabs bill).lines =
        snapshotLines awards.raw (awardedPoints scheme awards.raw) awards.lines := by
  unfold computeEarn at awarded ⊢
  dsimp only at awarded ⊢
  split at awarded
  · exact absurd awarded (lt_irrefl _)
  split at awarded
  · exact absurd awarded (lt_irrefl _)
  case isFalse.isFalse some_line reached =>
      rw [if_neg some_line, if_neg reached]
      cases priced : rawAwards scheme itemRules slabs bill
          (bill.lines.filter (earns scheme itemRules)) with
      | error reason =>
          rw [priced] at awarded
          exact absurd awarded (lt_irrefl _)
      | ok awards =>
          rw [priced] at awarded
          exact ⟨awards, rfl, pos_of_awardedPoints awarded, rfl, rfl⟩

end Award

/-! ## Line by line -/

/-- What the loop keeps: every line earned something, and together they make the award. -/
structure Summed (awards : LineAwards) : Prop where
  positive : ∀ line ∈ awards.lines, 0 < line.points
  total : (awards.lines.map LoyaltyLinePoints.points).sum = awards.raw

variable {soFar : LineAwards}

theorem awardLine_summed (scheme : LoyaltyScheme) (itemRules : List ItemRule) (slabs : List Slab)
    (summed : Summed soFar) (line : LoyaltyBillLine) :
    Summed (awardLine scheme itemRules slabs soFar line) := by
  unfold awardLine
  dsimp only
  split
  case isTrue earned =>
      constructor
      · intro snapshot member
        rcases List.mem_append.mp member with earlier | own
        · exact summed.positive snapshot earlier
        · rw [List.mem_singleton.mp own]
          exact earned
      · change ((soFar.lines ++ [_]).map LoyaltyLinePoints.points).sum = soFar.raw + _
        rw [List.map_append, List.sum_append, summed.total, List.map_singleton,
          List.sum_singleton]
        rfl
  case isFalse => exact ⟨summed.positive, summed.total⟩

theorem foldl_awardLine_summed (scheme : LoyaltyScheme) (itemRules : List ItemRule)
    (slabs : List Slab) (lines : List LoyaltyBillLine) (summed : Summed soFar) :
    Summed (lines.foldl (awardLine scheme itemRules slabs) soFar) := by
  induction lines generalizing soFar with
  | nil => exact summed
  | cons line rest ih => exact ih (awardLine_summed scheme itemRules slabs summed line)

/-! ## An award spread over the lines -/

section Spread

variable (scheme : LoyaltyScheme) (bill : LoyaltyBillSource) (eligible : List LoyaltyBillLine)

/-- What the lines stand for together. -/
def measured : Decimal := (eligible.map (measureOf scheme)).sum

/-- What an award of the bill is spread by. -/
def spreadBase : Decimal :=
  if byAmount scheme then baseAmountOf scheme bill eligible
  else (eligible.map LoyaltyBillLine.qty).sum

/-- The charges earned on, less the redeemed money taken out. -/
def adjustment : Decimal :=
  (if scheme.earnOnCharges then bill.chargesAmt else 0) -
    (if scheme.earnWithRedeem then 0 else bill.redeemedAmount)

/-- The lines stand for something each, and the charges and the redeemed money leave an amount
at what they total. -/
structure SpreadsWhole : Prop where
  positive : 0 < measured scheme eligible
  nonneg : ∀ line ∈ eligible, 0 ≤ measureOf scheme line
  kept : byAmount scheme = true →
    round2 (measured scheme eligible + adjustment scheme bill) = measured scheme eligible

/-- The part of an award a line is given. -/
def shareOf (base : Decimal) (line : LoyaltyBillLine) : Decimal :=
  if 0 < base then measureOf scheme line / base else 0

variable {scheme bill eligible}

theorem sum_shareOf {base : Decimal} (positive : 0 < base) :
    (eligible.map (shareOf scheme base)).sum = measured scheme eligible / base := by
  have same : shareOf scheme base = fun line => measureOf scheme line * base⁻¹ := by
    funext line
    rw [shareOf, if_pos positive, div_eq_mul_inv]
  rw [same, List.sum_map_mul_right, measured, div_eq_mul_inv]

theorem round2_nonpos {value : Decimal} (nonpos : value ≤ 0) : round2 value ≤ 0 := by
  have mirrored : 0 ≤ round2 (-value) :=
    Grid.halfUp_nonneg (by norm_num) (neg_nonneg.mpr nonpos)
  have negated : round2 (-value) = -round2 value := Grid.halfUp_neg
  linarith

/-- The base of a positive total is the total exactly when the adjustment leaves it so. -/
theorem baseAmountOf_eq_iff (amounts : byAmount scheme = true)
    (positive : 0 < measured scheme eligible) :
    baseAmountOf scheme bill eligible = measured scheme eligible ↔
      round2 (measured scheme eligible + adjustment scheme bill) = measured scheme eligible := by
  have same : measureOf scheme = amountOf scheme := by
    funext line
    exact if_pos amounts
  have base : baseAmountOf scheme bill eligible =
      round2 (if scheme.earnWithRedeem then measured scheme eligible + adjustment scheme bill
        else max 0 (measured scheme eligible + adjustment scheme bill)) := by
    unfold baseAmountOf measured adjustment
    rw [if_pos amounts, same]
    cases scheme.earnOnCharges <;> cases scheme.earnWithRedeem <;>
      simp [sub_eq_add_neg, add_assoc]
  rw [base]
  split
  · rfl
  · rcases le_total 0 (measured scheme eligible + adjustment scheme bill) with nonneg | nonpos
    · rw [max_eq_right nonneg]
    · have nothing : round2 0 = 0 := Grid.halfUp_zero
      have below := round2_nonpos nonpos
      rw [max_eq_left nonpos, nothing]
      constructor <;> intro equal <;> linarith

theorem spreadBase_eq_iff (positive : 0 < measured scheme eligible) :
    spreadBase scheme bill eligible = measured scheme eligible ↔
      (byAmount scheme = true →
        round2 (measured scheme eligible + adjustment scheme bill) =
          measured scheme eligible) := by
  unfold spreadBase
  split
  case isTrue amounts =>
      rw [baseAmountOf_eq_iff amounts positive]
      exact ⟨fun equal _ => equal, fun equal => equal amounts⟩
  case isFalse quantities =>
      have same : measureOf scheme = LoyaltyBillLine.qty := by
        funext line
        exact if_neg quantities
      rw [measured, same]
      exact iff_of_true rfl fun amounts => absurd amounts quantities

/-- The shares make a whole, none below nothing, exactly when the lines spread whole. -/
theorem spreadsWhole_iff :
    SpreadsWhole scheme bill eligible ↔
      (eligible.map (shareOf scheme (spreadBase scheme bill eligible))).sum = 1 ∧
        ∀ line ∈ eligible, 0 ≤ shareOf scheme (spreadBase scheme bill eligible) line := by
  constructor
  · intro whole
    have base := (spreadBase_eq_iff whole.positive).mpr whole.kept
    rw [base]
    constructor
    · rw [sum_shareOf whole.positive, div_self whole.positive.ne']
    · intro line member
      rw [shareOf, if_pos whole.positive]
      exact div_nonneg (whole.nonneg line member) whole.positive.le
  · intro ⟨total, nonneg⟩
    have positive : 0 < spreadBase scheme bill eligible := by
      by_contra nonpos
      have nothing : shareOf scheme (spreadBase scheme bill eligible) = fun _ => 0 := by
        funext line
        exact if_neg nonpos
      rw [nothing] at total
      simp at total
    rw [sum_shareOf positive, div_eq_one_iff_eq positive.ne'] at total
    constructor
    · rw [total]
      exact positive
    · intro line member
      have share := nonneg line member
      rw [shareOf, if_pos positive, le_div_iff₀ positive, zero_mul] at share
      exact share
    · exact (spreadBase_eq_iff (total ▸ positive)).mp total.symm

theorem points_spreadLine (raw base : Decimal) :
    ((eligible.map (spreadLine scheme raw base)).map LoyaltyLinePoints.points) =
      eligible.map fun line => raw * shareOf scheme base line := by
  rw [List.map_map]
  rfl

end Spread

/-! ## One award -/

section Closing

variable {scheme : LoyaltyScheme} {itemRules : List ItemRule} {slabs : List Slab}
variable {bill : LoyaltyBillSource}

/-- An award reckoned line by line closes. -/
theorem closes_of_perLine (lineByLine : perLine scheme = true)
    (awarded : 0 < (computeEarn scheme itemRules slabs bill).points) :
    Closes (computeEarn scheme itemRules slabs bill) := by
  obtain ⟨awards, priced, positive, points, lines⟩ := computeEarn_of_pos awarded
  rw [rawAwards, if_pos lineByLine] at priced
  cases priced
  have started : Summed {} := ⟨fun _ member => (List.not_mem_nil member).elim, rfl⟩
  have summed := foldl_awardLine_summed scheme itemRules slabs
    (bill.lines.filter (earns scheme itemRules)) started
  rw [← points] at lines
  exact snapshotLines_close _ lines positive awarded.le
    (fun line member => (summed.positive line member).le) summed.total

/-- An award of the whole bill is spread over the lines that earn. -/
theorem rawAwards_spread (whole : ¬perLine scheme = true) {eligible : List LoyaltyBillLine}
    {awards : LineAwards} (priced : rawAwards scheme itemRules slabs bill eligible = .ok awards) :
    awards.lines.map LoyaltyLinePoints.points =
      eligible.map fun line => awards.raw * shareOf scheme (spreadBase scheme bill eligible) line := by
  rw [rawAwards, if_neg whole] at priced
  dsimp only at priced
  split at priced
  · cases priced
  · cases priced
    exact points_spreadLine _ _

theorem closes_of_spreadsWhole
    (whole : SpreadsWhole scheme bill (bill.lines.filter (earns scheme itemRules)))
    (awarded : 0 < (computeEarn scheme itemRules slabs bill).points) :
    Closes (computeEarn scheme itemRules slabs bill) := by
  by_cases lineByLine : perLine scheme = true
  · exact closes_of_perLine lineByLine awarded
  obtain ⟨awards, priced, positive, points, lines⟩ := computeEarn_of_pos awarded
  have spread := rawAwards_spread lineByLine priced
  obtain ⟨total, nonneg⟩ := spreadsWhole_iff.mp whole
  rw [← points] at lines
  apply snapshotLines_close awards.lines lines positive awarded.le
  · intro line member
    have figure := List.mem_map_of_mem (f := LoyaltyLinePoints.points) member
    rw [spread, List.mem_map] at figure
    obtain ⟨origin, originMember, equal⟩ := figure
    rw [← equal]
    exact mul_nonneg positive.le (nonneg origin originMember)
  · rw [spread, List.sum_map_mul_left, total, mul_one]

/-- Line figures that close leave no more between the shares and the whole than rounding
hides. -/
theorem near_of_closes (whole : ¬perLine scheme = true)
    (awarded : 0 < (computeEarn scheme itemRules slabs bill).points)
    (closes : Closes (computeEarn scheme itemRules slabs bill)) :
    let eligible := bill.lines.filter (earns scheme itemRules)
    let points := (computeEarn scheme itemRules slabs bill).points
    let share := shareOf scheme (spreadBase scheme bill eligible)
    (∀ line ∈ eligible, -(1 / 20000) ≤ points * share line) ∧
      |points * (eligible.map share).sum - points| ≤ eligible.length * (1 / 10000) := by
  intro eligible points share
  obtain ⟨awards, priced, positive, awardedEq, lines⟩ := computeEarn_of_pos awarded
  have spread : awards.lines.map LoyaltyLinePoints.points =
      eligible.map fun line => awards.raw * share line := rawAwards_spread whole priced
  have length : awards.lines.length = eligible.length := by
    have lengths := congrArg List.length spread
    rwa [List.length_map, List.length_map] at lengths
  rw [← awardedEq] at lines
  constructor
  · intro line member
    have figure : awards.raw * share line ∈ awards.lines.map LoyaltyLinePoints.points := by
      rw [spread]
      exact List.mem_map_of_mem member
    obtain ⟨snapshot, snapshotMember, equal⟩ := List.mem_map.mp figure
    have bound := neg_le_of_snapshotLines points awards.lines positive (lines ▸ closes.nonneg) snapshot
      snapshotMember
    rwa [equal, mul_div_cancel_left₀ _ positive.ne'] at bound
  · have near := snapshotLines_near points awards.lines positive
    have total := closes.total
    rw [spread, List.sum_map_mul_left, mul_div_cancel_left₀ _ positive.ne', length] at near
    rw [lines, length_snapshotLines, length] at total
    change |_ - points| ≤ _ at total
    rw [abs_le] at near total ⊢
    constructor <;> linarith [near.1, near.2, total.1, total.2]

end Closing

/-! ## Whatever the scheme awards -/

/-- What prices an award of the bill, and rounds and caps it. -/
structure AwardTerms where
  slabs : List Slab
  rounding : LoyaltyRounding
  pointsDecimals : ℤ
  maxEarnPoints : Option Decimal

def LoyaltyScheme.awarding (scheme : LoyaltyScheme) (terms : AwardTerms) : LoyaltyScheme :=
  { scheme with
    rounding := terms.rounding
    pointsDecimals := terms.pointsDecimals
    maxEarnPoints := terms.maxEarnPoints }

def earnedUnder (scheme : LoyaltyScheme) (itemRules : List ItemRule) (bill : LoyaltyBillSource)
    (terms : AwardTerms) : ComputedEarn :=
  computeEarn (scheme.awarding terms) itemRules terms.slabs bill

/-- One slab that awards the same to every base, neither rounded nor capped. -/
def flatTerms (points : Decimal) : AwardTerms where
  slabs := [⟨"flat", none, none, none, none, some points, none, none⟩]
  rounding := .NONE
  pointsDecimals := 0
  maxEarnPoints := none

section Terms

variable {scheme : LoyaltyScheme} {itemRules : List ItemRule} {bill : LoyaltyBillSource}

theorem earns_awarding (terms : AwardTerms) : earns (scheme.awarding terms) = earns scheme := rfl

theorem shareOf_awarding (terms : AwardTerms) :
    shareOf (scheme.awarding terms) = shareOf scheme := rfl

theorem spreadBase_awarding (terms : AwardTerms) :
    spreadBase (scheme.awarding terms) = spreadBase scheme := rfl

theorem SpreadsWhole.awarding {eligible : List LoyaltyBillLine}
    (whole : SpreadsWhole scheme bill eligible) (terms : AwardTerms) :
    SpreadsWhole (scheme.awarding terms) bill eligible :=
  ⟨whole.positive, whole.nonneg, whole.kept⟩

/-- A base below the minimum earns nothing. -/
theorem earnedUnder_below
    (below : baseAmountOf scheme bill (bill.lines.filter (earns scheme itemRules)) <
      scheme.minBillAmount) (terms : AwardTerms) :
    (earnedUnder scheme itemRules bill terms).points = 0 := by
  have below' : baseAmountOf (scheme.awarding terms) bill
      (bill.lines.filter (earns (scheme.awarding terms) itemRules)) <
        (scheme.awarding terms).minBillAmount := below
  rw [earnedUnder, computeEarn]
  dsimp only
  rw [if_pos below']
  split <;> rfl

variable {points : Decimal}

theorem award_flat {base : Decimal} (positive : 0 < points) :
    award base none (some points) none none = points := by
  simp [award, Option.filter, positive]

theorem rawAwards_flat (whole : ¬perLine scheme = true) (positive : 0 < points)
    (eligible : List LoyaltyBillLine) :
    rawAwards (scheme.awarding (flatTerms points)) itemRules (flatTerms points).slabs bill
        eligible =
      .ok ⟨points, eligible.map (spreadLine scheme points (spreadBase scheme bill eligible)),
        some "flat", none⟩ := by
  have whole' : ¬perLine (scheme.awarding (flatTerms points)) = true := whole
  have matched (base : Decimal) : matchSlab base (flatTerms points).slabs none =
      some ⟨"flat", none, none, none, none, some points, none, none⟩ := rfl
  rw [rawAwards, if_neg whole']
  dsimp only
  rw [matched]
  dsimp only [Slab.award]
  rw [award_flat positive]
  rfl

/-- A flat award is handed out as it is. -/
theorem earnedUnder_flat (whole : ¬perLine scheme = true)
    (some_line : bill.lines.filter (earns scheme itemRules) ≠ [])
    (reached : ¬baseAmountOf scheme bill (bill.lines.filter (earns scheme itemRules)) <
      scheme.minBillAmount) (positive : 0 < points) :
    (earnedUnder scheme itemRules bill (flatTerms points)).points = points ∧
      (earnedUnder scheme itemRules bill (flatTerms points)).lines =
        (bill.lines.filter (earns scheme itemRules)).map (spreadLine scheme points
          (spreadBase scheme bill (bill.lines.filter (earns scheme itemRules)))) := by
  have some_line' : ¬bill.lines.filter (earns (scheme.awarding (flatTerms points)) itemRules) = [] :=
    some_line
  have reached' : ¬baseAmountOf (scheme.awarding (flatTerms points)) bill
      (bill.lines.filter (earns (scheme.awarding (flatTerms points)) itemRules)) <
        (scheme.awarding (flatTerms points)).minBillAmount := reached
  have handed : awardedPoints (scheme.awarding (flatTerms points)) points = points := rfl
  have kept (lines : List LoyaltyLinePoints) : snapshotLines points points lines = lines :=
    if_neg fun scaled => scaled.2 rfl
  rw [earnedUnder, computeEarn]
  dsimp only
  rw [if_neg some_line', if_neg reached', rawAwards_flat whole positive]
  dsimp only
  rw [handed, kept]
  exact ⟨rfl, rfl⟩

/-- Shares that close under every award make a whole, none below nothing. -/
theorem spreadsWhole_of_closes (whole : ¬perLine scheme = true)
    (some_line : bill.lines.filter (earns scheme itemRules) ≠ [])
    (reached : ¬baseAmountOf scheme bill (bill.lines.filter (earns scheme itemRules)) <
      scheme.minBillAmount)
    (closes : ∀ terms, 0 < (earnedUnder scheme itemRules bill terms).points →
      Closes (earnedUnder scheme itemRules bill terms)) :
    SpreadsWhole scheme bill (bill.lines.filter (earns scheme itemRules)) := by
  have flat (points : Decimal) (positive : 0 < points) :=
    earnedUnder_flat whole some_line reached positive
  have closed (points : Decimal) (positive : 0 < points) :
      Closes (earnedUnder scheme itemRules bill (flatTerms points)) := by
    apply closes
    rw [(flat points positive).1]
    exact positive
  rw [spreadsWhole_iff]
  generalize bill.lines.filter (earns scheme itemRules) = eligible at flat some_line reached ⊢
  generalize spreadBase scheme bill eligible = base at flat ⊢
  constructor
  · -- An award large enough shows any gap between the shares and the whole.
    by_contra apart
    have gap : 0 < |(eligible.map (shareOf scheme base)).sum - 1| :=
      abs_pos.mpr (sub_ne_zero.mpr apart)
    have large : 0 < (eligible.length + 1) / |(eligible.map (shareOf scheme base)).sum - 1| := by
      positivity
    have total := (closed _ large).total
    rw [(flat _ large).1, (flat _ large).2, points_spreadLine, List.length_map,
      List.sum_map_mul_left, ← mul_sub_one, abs_mul, abs_of_pos large,
      div_mul_cancel₀ _ gap.ne'] at total
    have count : (0 : Decimal) ≤ eligible.length := Nat.cast_nonneg _
    linarith
  · intro line member
    have nonneg := (closed 1 one_pos).nonneg
    rw [(flat 1 one_pos).2] at nonneg
    have figure := nonneg _ (List.mem_map_of_mem member)
    change 0 ≤ 1 * shareOf scheme base line at figure
    rwa [one_mul] at figure

/-- The line figures close whatever is awarded exactly when the award is reckoned line by
line, or spread over what the lines total; and the figures of one award that close leave no
more between the shares and the whole than rounding hides. -/
theorem snapshots_close_iff (scheme : LoyaltyScheme) (itemRules : List ItemRule)
    (bill : LoyaltyBillSource) :
    let eligible := bill.lines.filter (earns scheme itemRules)
    ((∀ terms, 0 < (earnedUnder scheme itemRules bill terms).points →
        Closes (earnedUnder scheme itemRules bill terms)) ↔
      perLine scheme = true ∨ eligible = [] ∨
        baseAmountOf scheme bill eligible < scheme.minBillAmount ∨
        SpreadsWhole scheme bill eligible) ∧
    ∀ terms, 0 < (earnedUnder scheme itemRules bill terms).points →
      Closes (earnedUnder scheme itemRules bill terms) →
      perLine scheme = true ∨
        (∀ line ∈ eligible, -(1 / 20000) ≤ (earnedUnder scheme itemRules bill terms).points *
          shareOf scheme (spreadBase scheme bill eligible) line) ∧
        |(earnedUnder scheme itemRules bill terms).points *
            (eligible.map (shareOf scheme (spreadBase scheme bill eligible))).sum -
          (earnedUnder scheme itemRules bill terms).points| ≤ eligible.length * (1 / 10000) := by
  intro eligible
  refine ⟨⟨?_, ?_⟩, ?_⟩
  · intro closes
    by_cases lineByLine : perLine scheme = true
    · exact .inl lineByLine
    by_cases some_line : eligible = []
    · exact .inr (.inl some_line)
    by_cases reached : baseAmountOf scheme bill eligible < scheme.minBillAmount
    · exact .inr (.inr (.inl reached))
    exact .inr (.inr (.inr (spreadsWhole_of_closes lineByLine some_line reached closes)))
  · rintro (lineByLine | none_eligible | below | whole) terms awarded
    · exact closes_of_perLine lineByLine awarded
    · have nothing : earnedUnder scheme itemRules bill terms = .none .noEligibleLine :=
        if_pos none_eligible
      rw [nothing] at awarded
      exact absurd awarded (lt_irrefl _)
    · rw [earnedUnder_below below] at awarded
      exact absurd awarded (lt_irrefl _)
    · exact closes_of_spreadsWhole (whole.awarding terms) awarded
  · intro terms awarded closes
    by_cases lineByLine : perLine scheme = true
    · exact .inl lineByLine
    · have lineByLine' : ¬perLine (scheme.awarding terms) = true := lineByLine
      have near := near_of_closes lineByLine' awarded closes
      rw [earns_awarding, shareOf_awarding, spreadBase_awarding] at near
      exact .inr near

end Terms

/-! ## Charges that earn, spread over lines that do not carry them -/

/-- One point for each rupee of the bill, its charges included. -/
def chargedScheme : LoyaltyScheme where
  lscId := "HOUSE"
  code := "HOUSE"
  name := "House"
  type := .BOTH
  priority := 1
  applyOn := .BILL_AMOUNT
  amountType := .NET_AMOUNT
  billType := .ALL
  itemScope := .ALL
  branchScope := .ALL
  custScope := .ALL
  minBillAmount := 0
  maxEarnPoints := some 0
  earnOnDiscounted := true
  earnOnCharges := true
  earnWithRedeem := false
  rounding := .FLOOR
  pointsDecimals := 2
  allowPointRedeem := false
  redeemValuePerPoint := 0
  minRedeemPoints := 0
  maxRedeemPoints := some 0
  maxRedeemPerc := some 100
  redeemMinBillAmount := 0
  redeemMultiple := some 0
  startDate := none
  endDate := none
  poolMode := .COMPANY
  allowCrossBranchRedeem := true

def rupeeTerms : AwardTerms where
  slabs := [⟨"rupee", none, some 0, none, some 1, some 1, some 1, some 0⟩]
  rounding := .FLOOR
  pointsDecimals := 2
  maxEarnPoints := some 0

/-- Goods of 900 and a delivery charge of 100. -/
def chargedBill : LoyaltyBillSource where
  docId := "bill"
  accYear := "2026-27"
  companyId := "company"
  branchId := "branch"
  custId := "customer"
  docDate := 20700
  docType := .SALE_BILL
  billType := some .CASH
  memberId := some "member"
  chargesAmt := 100
  redeemedAmount := 0
  custGroupId := none
  lines := [⟨1, "item", 1, 900, 900, 900, false, true, none, none, none, none⟩]

/-- The bill earns 1000 points, its only line 900 of them. -/
theorem chargedBill_short :
    (earnedUnder chargedScheme [] chargedBill rupeeTerms).points = 1000 ∧
      (earnedUnder chargedScheme [] chargedBill rupeeTerms).lines = [⟨1, 900, 900⟩] ∧
      ¬Closes (earnedUnder chargedScheme [] chargedBill rupeeTerms) := by
  have points : (earnedUnder chargedScheme [] chargedBill rupeeTerms).points = 1000 := by
    decide +kernel
  have lines : (earnedUnder chargedScheme [] chargedBill rupeeTerms).lines = [⟨1, 900, 900⟩] := by
    decide +kernel
  refine ⟨points, lines, ?_⟩
  intro closes
  have total := closes.total
  rw [points, lines] at total
  norm_num at total

end ErpServer.Loyalty
