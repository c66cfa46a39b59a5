import ErpServer.Stock.RevaluedSplits

/-!
# Stock that is revalued and stock that is there

The share of a line is cut to what is on hand line by line, against a figure that no line
of the document uses up.  What a document puts into stock is therefore spread over stock
that is there exactly when its lines find it: each line wholly on hand or not at all, and
all of them together no more than is on hand.
-/

namespace ErpServer.Stock

open Lib
open Receipt (Decimal paisa)

/-! ## What is promised -/

/-- The quantity the document's differences are put over at one place. -/
def shareAt (basis : RevaluationBasis) (lines : List CostRevaluationLine) (place : Place) :
    Decimal :=
  (((revaluationRows basis lines).filter fun row =>
    basis.placeOf row.line.itemId row.lotId = place).map (·.share)).sum

/-- No stock that is not there is revalued. -/
structure RevaluesOnlyStock (masters : StockMasters) (src : CostRevaluationSource)
    (lines : List CostRevaluationLine) (tables : StockTables) : Prop where
  shares : ∀ place, shareAt (revaluationBasis masters src tables) lines place ≤
    max 0 ((revaluationBasis masters src tables).onHand place)
  values : ∀ line ∈ lines, ∃ value,
    (revalueOnHand masters src lines tables).2.get? line.lineId = some value ∧
      0 ≤ value * line.delta ∧ |value| ≤ |line.delta|
  splits : ∀ before line after parts, lines = before ++ line :: after → IsSplit line parts →
    ((before ++ parts ++ after).map (·.lineId)).Nodup →
      |revaluedValue (revalueOnHand masters src (before ++ parts ++ after) tables).1 -
          revaluedValue (revalueOnHand masters src lines tables).1| ≤
        rowRounding (revaluationBasis masters src tables) (line :: parts)

/-! ## Lines that find their stock -/

namespace Portion

/-- The part of a line's difference that is the portion's, not rounded. -/
def part (line : CostRevaluationLine) (portion : Portion) : Decimal :=
  line.delta * portion.inQty / line.inBaseQty

/-- The fraction of a paisa in the portion's part. -/
def fraction (line : CostRevaluationLine) (portion : Portion) : Decimal :=
  Int.fract (|portion.part line| / paisa)

end Portion

/-- The quantity the lines brought in to one place, in portions worth half a paisa or more. -/
def broughtTo (basis : RevaluationBasis) (lines : List CostRevaluationLine) (place : Place) :
    Decimal :=
  (lines.map fun line => (((groups basis line).filter fun portion =>
    basis.placeOf line.itemId portion.lotId = place &&
      decide (paisa / 2 ≤ |portion.part line|)).map (·.inQty)).sum).sum

/-- The lines of a document find the stock they brought in. -/
structure FindStock (basis : RevaluationBasis) (lines : List CostRevaluationLine) : Prop where
  whole : ∀ line ∈ lines, AllThere basis line ∨ NoneThere basis line
  together : ∀ place, 0 < basis.onHand place → broughtTo basis lines place ≤ basis.onHand place
  fractions : ∀ line ∈ lines, AllThere basis line →
    ((groups basis line).countP fun portion => 1 / 2 ≤ portion.fraction line : ℕ) ≤
      ((groups basis line).map (·.fraction line)).sum

variable {basis : RevaluationBasis} {line : CostRevaluationLine}
  {lines : List CostRevaluationLine} {place : Place}

/-- Nothing is brought to a place none of the portions is put at. -/
theorem broughtTo_eq_zero (elsewhere : ∀ line ∈ lines, ∀ portion ∈ groups basis line,
    basis.placeOf line.itemId portion.lotId ≠ place) : broughtTo basis lines place = 0 := by
  apply List.sum_eq_zero
  intro total member
  obtain ⟨line, lineMem, rfl⟩ := List.mem_map.mp member
  have none : ((groups basis line).filter fun portion =>
      basis.placeOf line.itemId portion.lotId = place &&
        decide (paisa / 2 ≤ |portion.part line|)) = [] := by
    rw [List.filter_eq_nil_iff]
    intro portion portionMem
    simp [elsewhere line lineMem portion portionMem]
  rw [none]
  rfl

/-! ## The shares -/

theorem placed_of_mem {portion : Portion} (member : portion ∈ groups basis line)
    (placed : basis.placeOf line.itemId portion.lotId = place) :
    portion.onHand = basis.onHand place := by
  rw [← placed]
  exact (portion_of_mem member).2.2

/-- The rows of one line at one place. -/
private theorem shareAt_line (line : CostRevaluationLine) (place : Place) :
    (((lineRows basis line).filter fun row =>
      basis.placeOf row.line.itemId row.lotId = place).map (·.share)).sum =
    if line.isLive then
      (((groups basis line).filter fun portion =>
        !portion.isSkipped line && decide (basis.placeOf line.itemId portion.lotId = place)).map
          (·.share)).sum
    else 0 := by
  unfold lineRows
  split
  · rw [List.filter_map, List.map_map, List.filter_filter]
    congr 2
    apply List.filter_congr
    intro portion _
    rw [Bool.and_comm]
    rfl
  · rfl

/-- A line that is wholly on hand or not at all has its whole quantity in its rows. -/
theorem share_line (whole : AllThere basis line ∨ NoneThere basis line)
    (onHand : 0 < basis.onHand place) :
    (((lineRows basis line).filter fun row =>
      basis.placeOf row.line.itemId row.lotId = place).map (·.share)).sum =
    (((groups basis line).filter fun portion =>
      basis.placeOf line.itemId portion.lotId = place &&
        decide (paisa / 2 ≤ |portion.part line|)).map (·.inQty)).sum := by
  have unit : (0 : Decimal) < paisa := by norm_num [paisa]
  rw [shareAt_line]
  cases live : line.isLive with
  | false =>
      rw [if_neg (by simp)]
      symm
      apply List.sum_eq_zero
      intro qty member
      obtain ⟨portion, portionMem, rfl⟩ := List.mem_map.mp member
      obtain ⟨inside, kept⟩ := List.mem_filter.mp portionMem
      have worth : paisa / 2 ≤ |portion.part line| := by
        simpa using (Bool.and_eq_true_iff.mp kept).2
      have noDelta : line.delta = 0 := by
        have lotted : line.lots ≠ [] := by
          intro unlotted
          rw [groups_of_noLots unlotted] at inside
          cases inside
        exact delta_of_not_live lotted live
      rw [Portion.part, noDelta, zero_mul, zero_div, abs_zero] at worth
      linarith
  | true =>
      rw [if_pos rfl]
      have there (portion : Portion) (member : portion ∈ groups basis line)
          (placed : basis.placeOf line.itemId portion.lotId = place) :
          portion.share = portion.inQty ∧ 0 < portion.onHand := by
        have stocked : 0 < portion.onHand := by
          rw [placed_of_mem member placed]
          exact onHand
        cases whole with
        | inl all => exact ⟨min_eq_left (all portion member), stocked⟩
        | inr none => exact absurd (none portion member) (not_le.mpr stocked)
      have kept : ((groups basis line).filter fun portion => !portion.isSkipped line &&
            decide (basis.placeOf line.itemId portion.lotId = place)) =
          (groups basis line).filter fun portion =>
            basis.placeOf line.itemId portion.lotId = place &&
              decide (paisa / 2 ≤ |portion.part line|) := by
        apply List.filter_congr
        intro portion member
        by_cases placed : basis.placeOf line.itemId portion.lotId = place
        · obtain ⟨full, stocked⟩ := there portion member placed
          have rounded : decide (portion.value line = 0) =
              !decide (paisa / 2 ≤ |portion.part line|) := by
            rw [← decide_not, decide_eq_decide, Portion.value, full, not_le]
            exact Grid.halfUp_eq_zero_iff unit
          rw [Portion.isSkipped, rounded]
          simp [placed, stocked]
        · simp [placed]
      rw [kept]
      congr 1
      apply List.map_congr_left
      intro portion member
      obtain ⟨inside, worth⟩ := List.mem_filter.mp member
      exact (there portion inside (by simpa using (Bool.and_eq_true_iff.mp worth).1)).1

theorem shareAt_eq_sum (lines : List CostRevaluationLine) (place : Place) :
    shareAt basis lines place = (lines.map fun line =>
      (((lineRows basis line).filter fun row =>
        basis.placeOf row.line.itemId row.lotId = place).map (·.share)).sum).sum := by
  unfold shareAt revaluationRows
  induction lines with
  | nil => rfl
  | cons line rest ih =>
      rw [List.flatMap_cons, List.filter_append, List.map_append, List.sum_append, ih,
        List.map_cons, List.sum_cons]

/-- Where something is on hand, lines that are whole put their differences over all they
brought in. -/
theorem shareAt_eq_broughtTo (whole : ∀ line ∈ lines, AllThere basis line ∨ NoneThere basis line)
    (onHand : 0 < basis.onHand place) :
    shareAt basis lines place = broughtTo basis lines place := by
  rw [shareAt_eq_sum, broughtTo]
  congr 1
  apply List.map_congr_left
  intro line member
  exact share_line (whole line member) onHand

/-- Nothing is put over a place with nothing on hand. -/
theorem shareAt_eq_zero (lines : List CostRevaluationLine) (none : basis.onHand place ≤ 0) :
    shareAt basis lines place = 0 := by
  rw [shareAt_eq_sum]
  apply List.sum_eq_zero
  intro total member
  obtain ⟨line, _, rfl⟩ := List.mem_map.mp member
  rw [shareAt_line]
  split
  · apply List.sum_eq_zero
    intro share shareMem
    obtain ⟨portion, portionMem, rfl⟩ := List.mem_map.mp shareMem
    obtain ⟨inside, kept⟩ := List.mem_filter.mp portionMem
    obtain ⟨notSkipped, placed⟩ := Bool.and_eq_true_iff.mp kept
    have stocked := placed_of_mem inside (of_decide_eq_true placed)
    simp [Portion.isSkipped, stocked, not_lt.mpr none] at notSkipped
  · rfl

/-! ## The values -/

/-- A line that is wholly on hand keeps within its difference exactly when no more of its
portions round up than the fractions they carry. -/
theorem abs_lineValue_le_iff (there : AllThere basis line) :
    |lineValue basis line| ≤ |line.delta| ↔
      ((groups basis line).countP fun portion => 1 / 2 ≤ portion.fraction line : ℕ) ≤
        ((groups basis line).map (·.fraction line)).sum := by
  by_cases unlotted : line.lots = []
  · rw [lineValue_of_noLots unlotted, groups_of_noLots unlotted]
    simp
  · have quantity := CostRevaluationLine.inBaseQty_pos unlotted
    have parts (portion : Portion) (member : portion ∈ groups basis line) :
        |line.delta| * portion.there / line.inBaseQty = |portion.part line| := by
      have positive := (portion_of_mem member).1
      rw [Portion.there_of_le positive (there portion member), Portion.part, abs_div, abs_mul,
        abs_of_pos positive, abs_of_pos quantity]
    have total : ((groups basis line).map fun portion => |portion.part line|).sum =
        |line.delta| := by
      have each : (groups basis line).map (fun portion => |portion.part line|) =
          (groups basis line).map fun portion => |line.delta| / line.inBaseQty * portion.inQty := by
        apply List.map_congr_left
        intro portion member
        rw [← parts portion member,
          Portion.there_of_le (portion_of_mem member).1 (there portion member)]
        ring
      rw [each, List.sum_map_mul_left, sum_inQty unlotted, div_mul_cancel₀ _ quantity.ne']
    have valued : |lineValue basis line| = (((groups basis line).map fun portion =>
        |portion.part line|).map (Grid.halfUp paisa)).sum := by
      rw [(lineValue_signed basis line).2, List.map_map]
      congr 1
      apply List.map_congr_left
      intro portion member
      rw [parts portion member]
      rfl
    have rounded := Grid.sum_halfUp_le_iff (show (0 : Decimal) < paisa by norm_num [paisa])
      ((groups basis line).map fun portion => |portion.part line|) (by
        intro figure member
        obtain ⟨portion, _, rfl⟩ := List.mem_map.mp member
        exact abs_nonneg _)
    rw [← valued, total, List.countP_map, List.map_map] at rounded
    exact rounded

/-! ## The two sides -/

section Document

variable (masters : StockMasters) (src : CostRevaluationSource) (tables : StockTables)

/-- What splitting one line changes is what the parts put into stock for the line. -/
theorem revaluedValue_split (before after parts : List CostRevaluationLine)
    (line : CostRevaluationLine) :
    revaluedValue (revalueOnHand masters src (before ++ parts ++ after) tables).1 -
        revaluedValue (revalueOnHand masters src (before ++ line :: after) tables).1 =
      (parts.map (lineValue (revaluationBasis masters src tables))).sum -
        lineValue (revaluationBasis masters src tables) line := by
  rw [revaluedValue_revalueOnHand, revaluedValue_revalueOnHand]
  simp only [List.map_append, List.sum_append, List.map_cons, List.sum_cons]
  ring

/-- A document whose splits change no more than the rounding has every line wholly on hand
or not at all. -/
theorem RevaluesOnlyStock.whole (sound : RevaluesOnlyStock masters src lines tables)
    (distinct : (lines.map (·.lineId)).Nodup) (line : CostRevaluationLine) (member : line ∈ lines) :
    AllThere (revaluationBasis masters src tables) line ∨
      NoneThere (revaluationBasis masters src tables) line := by
  by_contra partly
  push Not at partly
  obtain ⟨weight, nonneg, within, uneven⟩ := exists_uneven partly.1 partly.2
  obtain ⟨before, after, rfl⟩ := List.append_of_mem member
  let fresh := ((before ++ line :: after).map (·.lineId)).sum + 1
  have unused (other : CostRevaluationLine) (otherMem : other ∈ before ++ line :: after) :
      other.lineId ≠ fresh := by
    have bound : other.lineId ≤ ((before ++ line :: after).map (·.lineId)).sum :=
      List.single_le_sum (fun _ _ => Nat.zero_le _) _ (List.mem_map_of_mem otherMem)
    exact (Nat.lt_succ_of_le bound).ne
  obtain ⟨delta, beyond⟩ := not_bounded_of_uneven line fresh fun delta =>
    ⟨(uneven line.lineId delta).1, (uneven line.lineId delta).2.1,
      (uneven fresh (line.delta - delta)).2.2⟩
  have lotted : line.lots ≠ [] := by
    intro unlotted
    apply partly.1
    intro portion portionMem
    rw [groups_of_noLots unlotted] at portionMem
    cases portionMem
  have secondLotted : (line.scaled (fun lotId => 1 - weight lotId) fresh
      (line.delta - delta)).lots ≠ [] := by
    intro unlotted
    apply (uneven fresh (line.delta - delta)).2.2
    intro portion portionMem
    rw [groups_of_noLots unlotted] at portionMem
    cases portionMem
  have split := CostRevaluationLine.scaled_split nonneg within lotted fresh delta
    (CostRevaluationLine.inBaseQty_pos (uneven line.lineId delta).1)
    (CostRevaluationLine.inBaseQty_pos secondLotted)
  have apart : ((before ++ [line.scaled weight line.lineId delta,
      line.scaled (fun lotId => 1 - weight lotId) fresh (line.delta - delta)] ++ after).map
        (·.lineId)).Nodup := by
    have shuffled : ((before ++ [line.scaled weight line.lineId delta,
        line.scaled (fun lotId => 1 - weight lotId) fresh (line.delta - delta)] ++ after).map
          (·.lineId)).Perm (fresh :: (before ++ line :: after).map (·.lineId)) := by
      have moved : ((before.map (·.lineId) ++ [line.lineId]) ++ fresh :: after.map (·.lineId)).Perm
          (fresh :: ((before.map (·.lineId) ++ [line.lineId]) ++ after.map (·.lineId))) :=
        List.perm_middle
      simpa [CostRevaluationLine.scaled] using moved
    rw [shuffled.nodup_iff, List.nodup_cons]
    constructor
    · intro taken
      obtain ⟨other, otherMem, same⟩ := List.mem_map.mp taken
      exact unused other otherMem same
    · exact distinct
  have bound := sound.splits before line after _ rfl split apart
  rw [revaluedValue_split] at bound
  simp only [List.map_cons, List.map_nil, List.sum_cons, List.sum_nil, add_zero] at bound
  exact absurd bound (not_le.mpr beyond)

/-- A document revalues only stock that is there exactly when its lines find their stock. -/
theorem revaluesOnlyStock_iff (lines : List CostRevaluationLine)
    (distinct : (lines.map (·.lineId)).Nodup) :
    RevaluesOnlyStock masters src lines tables ↔
      FindStock (revaluationBasis masters src tables) lines := by
  constructor
  · intro sound
    have whole := sound.whole masters src tables distinct
    constructor
    · exact whole
    · intro place stocked
      have shared := sound.shares place
      rw [shareAt_eq_broughtTo whole stocked, max_eq_right stocked.le] at shared
      exact shared
    · intro line member there
      obtain ⟨value, told, -, within⟩ := sound.values line member
      rw [get?_revalueOnHand masters src tables distinct member] at told
      rw [← Option.some.inj told] at within
      exact (abs_lineValue_le_iff there).mp within
  · intro found
    constructor
    · intro place
      rcases lt_or_ge 0 ((revaluationBasis masters src tables).onHand place) with stocked | none
      · rw [shareAt_eq_broughtTo found.whole stocked, max_eq_right stocked.le]
        exact found.together place stocked
      · rw [shareAt_eq_zero lines none]
        exact le_max_left _ _
    · intro line member
      refine ⟨lineValue (revaluationBasis masters src tables) line,
        get?_revalueOnHand masters src tables distinct member,
        (lineValue_signed _ line).1, ?_⟩
      cases found.whole line member with
      | inl there => exact (abs_lineValue_le_iff there).mpr (found.fractions line member there)
      | inr none =>
          rw [lineValue_of_noneThere none, abs_zero]
          exact abs_nonneg _
    · intro before line after parts listed split apart
      subst listed
      rw [revaluedValue_split]
      exact split_lineValue split (found.whole line (by simp))

end Document

/-! ## Twelve on hand -/

theorem pieces_pos (lotId count : ℕ) :
    ∀ lot ∈ [(lotId, (count + 1 : Decimal))], 0 < lot.2 := by
  intro lot member
  rw [List.mem_singleton.mp member]
  positivity

theorem pieces_sum (lotId count : ℕ) (_ : [(lotId, (count + 1 : Decimal))] ≠ []) :
    ([(lotId, (count + 1 : Decimal))].map Prod.snd).sum = count + 1 := by simp

/-- A line that came in as one lot, one piece more than counted. -/
def piecesLine (lineId count : ℕ) (delta : Decimal) : CostRevaluationLine where
  lineId
  itemId := 46
  inBaseQty := count + 1
  delta
  lots := [(501, count + 1)]
  lots_pos := pieces_pos 501 count
  lots_sum := pieces_sum 501 count

def plainMasters : StockMasters where
  policy _ _ _ _ := StockTrackPolicy.noPolicy
  itemTaxPerc _ _ := none
  lotIdentityUuid _ _ _ := 0

def twelveOnHand : StockTables :=
  { StockTables.empty with
    balances := ⟨[(⟨31, 32, 33, 46, 501, .SALEABLE⟩, { StockBalance.opened with inQty := 12 })]⟩ }

def billOfMay : CostRevaluationSource := ⟨31, 32, 20000⟩

/-- A line of two lots, three pieces and four, that keep their own costs. -/
def twoLots : CostRevaluationLine where
  lineId := 3
  itemId := 47
  inBaseQty := 7
  delta := 70
  lots := [(601, 3), (602, 4)]
  lots_pos := by decide +kernel
  lots_sum := by decide +kernel

/-- Item 47 keeps the cost of every lot. -/
def lotMasters : StockMasters :=
  { plainMasters with
    policy := fun _ _ itemId _ =>
      if itemId = 47 then { StockTrackPolicy.noPolicy with trackBatch := true }
      else StockTrackPolicy.noPolicy }

def shelved : StockTables :=
  { StockTables.empty with
    balances := ⟨[(⟨31, 32, 33, 46, 501, .SALEABLE⟩, { StockBalance.opened with inQty := 12 }),
      (⟨31, 32, 33, 47, 601, .SALEABLE⟩, { StockBalance.opened with inQty := 3 }),
      (⟨31, 32, 33, 47, 602, .SALEABLE⟩, { StockBalance.opened with inQty := 9 })]⟩ }

/-- Five and six of the twelve, and a line whose two lots are there. -/
theorem fiveAndSix_revalued :
    RevaluesOnlyStock lotMasters billOfMay [piecesLine 1 4 50, piecesLine 2 5 60, twoLots]
      shelved := by
  apply (revaluesOnlyStock_iff lotMasters billOfMay shelved
    [piecesLine 1 4 50, piecesLine 2 5 60, twoLots] (by decide)).mpr
  constructor
  · intro line member
    left
    revert line
    unfold AllThere
    decide +kernel
  · intro place stocked
    have known : ∀ place ∈ [Place.item 46, .lot 601, .lot 602],
        broughtTo (revaluationBasis lotMasters billOfMay shelved)
            [piecesLine 1 4 50, piecesLine 2 5 60, twoLots] place ≤
          (revaluationBasis lotMasters billOfMay shelved).onHand place := by decide +kernel
    have placed : ∀ line ∈ [piecesLine 1 4 50, piecesLine 2 5 60, twoLots],
        ∀ portion ∈ groups (revaluationBasis lotMasters billOfMay shelved) line,
          (revaluationBasis lotMasters billOfMay shelved).placeOf line.itemId portion.lotId ∈
            [Place.item 46, .lot 601, .lot 602] := by decide +kernel
    by_cases listed : place ∈ [Place.item 46, .lot 601, .lot 602]
    · exact known place listed
    · rw [broughtTo_eq_zero]
      · exact stocked.le
      · intro line lineMem portion portionMem here
        exact listed (here ▸ placed line lineMem portion portionMem)
  · intro line member there
    clear there
    revert line
    decide +kernel

/-- Two lines of ten are put over twenty of the twelve, and put more into stock than the
one line of twenty they are in place of. -/
theorem twoLines_revalued :
    shareAt (revaluationBasis plainMasters billOfMay twelveOnHand)
        [piecesLine 1 9 100, piecesLine 2 9 100] (.item 46) = 20 ∧
      (revaluationBasis plainMasters billOfMay twelveOnHand).onHand (.item 46) = 12 ∧
      revaluedValue (revalueOnHand plainMasters billOfMay [piecesLine 1 19 200]
        twelveOnHand).1 = 120 ∧
      revaluedValue (revalueOnHand plainMasters billOfMay
        [piecesLine 1 9 100, piecesLine 2 9 100] twelveOnHand).1 = 200 ∧
      ¬RevaluesOnlyStock plainMasters billOfMay [piecesLine 1 9 100, piecesLine 2 9 100]
        twelveOnHand := by
  have shared : shareAt (revaluationBasis plainMasters billOfMay twelveOnHand)
      [piecesLine 1 9 100, piecesLine 2 9 100] (.item 46) = 20 := by decide +kernel
  have onHand : (revaluationBasis plainMasters billOfMay twelveOnHand).onHand (.item 46) = 12 := by
    decide +kernel
  refine ⟨shared, onHand, by decide +kernel, by decide +kernel, ?_⟩
  intro sound
  have within := sound.shares (.item 46)
  rw [shared, onHand] at within
  norm_num at within

end ErpServer.Stock
