import ErpServer.Stock.Lots
import ErpServer.Lib.ListSum

/-!
# A bill priced off its receipt

The difference between a bill and the receipt that brought its goods in goes onto what is
still on hand: by item where the item has one average, by lot where each lot keeps its own
cost.  The rest is the caller's to book as a price variance.
-/

namespace ErpServer.Stock

open Lib
open Receipt (Decimal)

/-! ## What is revalued -/

/-- A line of the bill.  The lots are those its quantity came in as. -/
structure CostRevaluationLine where
  lineId : Uuid
  itemId : Uuid
  inBaseQty : Decimal
  delta : Decimal
  lots : List (Uuid × Decimal)
  lots_pos : ∀ lot ∈ lots, 0 < lot.2
  lots_sum : lots ≠ [] → (lots.map Prod.snd).sum = inBaseQty
  deriving DecidableEq

structure CostRevaluationSource where
  companyId : Uuid
  branchId : Uuid
  docDate : Date
  deriving DecidableEq, Repr

/-- A line that has anything to put into stock. -/
def CostRevaluationLine.isLive (line : CostRevaluationLine) : Bool :=
  line.delta ≠ 0 && 0 < line.inBaseQty && !line.lots.isEmpty

/-! ## What it is put over -/

/-- What a delta is put over: the stock of an item, or of one lot. -/
inductive Place where
  | item (itemId : Uuid)
  | lot (lotId : Uuid)
  deriving DecidableEq, Repr

/-- The valuation of each item, and what is on hand of each item and each lot. -/
structure RevaluationBasis where
  method : Uuid → StockValuationMethod
  itemOnHand : Uuid → Decimal
  lotOnHand : Uuid → Decimal

def revaluationBasis (masters : StockMasters) (src : CostRevaluationSource)
    (tables : StockTables) : RevaluationBasis where
  method itemId := valuationOn masters src.docDate ⟨src.companyId, src.branchId, itemId⟩
  itemOnHand itemId := tables.balances.total
    (fun holding => holding.item = ⟨src.companyId, src.branchId, itemId⟩) (·.onHandQty)
  lotOnHand lotId := tables.balances.total
    (fun holding => holding.companyId = src.companyId && holding.branchId = src.branchId &&
      holding.lotId = lotId) (·.onHandQty)

namespace RevaluationBasis

def placeOf (basis : RevaluationBasis) (itemId lotId : Uuid) : Place :=
  match basis.method itemId with
  | .LOT_ACTUAL => .lot lotId
  | .WAVG => .item itemId

def onHand (basis : RevaluationBasis) : Place → Decimal
  | .item itemId => basis.itemOnHand itemId
  | .lot lotId => basis.lotOnHand lotId

end RevaluationBasis

/-- One of the quantities a line is taken apart into, and what is on hand of it. -/
structure Portion where
  lotId : Uuid
  inQty : Decimal
  onHand : Decimal
  deriving DecidableEq, Repr

/-- A quantity a lot, or the whole quantity under the first of the lots. -/
def groups (basis : RevaluationBasis) (line : CostRevaluationLine) : List Portion :=
  match basis.method line.itemId with
  | .LOT_ACTUAL =>
      (OrderedMap.empty.accumulate line.lots).entries.map fun lot =>
        ⟨lot.1, lot.2, basis.lotOnHand lot.1⟩
  | .WAVG =>
      (line.lots.head?.map fun lot =>
        ⟨lot.1, line.inBaseQty, basis.itemOnHand line.itemId⟩).toList

namespace Portion

def share (portion : Portion) : Decimal := min portion.inQty portion.onHand

/-- The part of a line's delta that goes onto the portion, rounded. -/
def value (line : CostRevaluationLine) (portion : Portion) : Decimal :=
  round2 (line.delta * portion.share / line.inBaseQty)

/-- A portion that is skipped: none of it is on hand, or its value rounds to nothing. -/
def isSkipped (line : CostRevaluationLine) (portion : Portion) : Bool :=
  !(decide (0 < portion.onHand)) || portion.value line = 0

end Portion

/-! ## The rows -/

structure RevaluationRow where
  line : CostRevaluationLine
  lotId : Uuid
  share : Decimal
  value : Decimal
  onHand : Decimal
  deriving DecidableEq

def revaluationRow (line : CostRevaluationLine) (portion : Portion) : RevaluationRow :=
  ⟨line, portion.lotId, portion.share, portion.value line, portion.onHand⟩

/-- The rows one line puts into stock. -/
def lineRows (basis : RevaluationBasis) (line : CostRevaluationLine) : List RevaluationRow :=
  if line.isLive then
    ((groups basis line).filter fun portion => !portion.isSkipped line).map (revaluationRow line)
  else []

def revaluationRows (basis : RevaluationBasis) (lines : List CostRevaluationLine) :
    List RevaluationRow :=
  lines.flatMap (lineRows basis)

/-- What went into stock, by line. -/
def intoStock (lines : List CostRevaluationLine) (rows : List RevaluationRow) :
    OrderedMap Uuid Decimal :=
  (OrderedMap.ofList (lines.map fun line => (line.lineId, 0))).accumulate
    (rows.map fun row => (row.line.lineId, row.value))

def RevaluationRow.lot (src : CostRevaluationSource) (row : RevaluationRow) : LotScope :=
  ⟨src.companyId, src.branchId, row.line.itemId, row.lotId⟩

/-- `stock_cost_revaluation`, with and without tax alike. -/
def RevaluationRow.stored (src : CostRevaluationSource) (row : RevaluationRow) :
    StockCostRevaluation :=
  ⟨row.lot src, row.value, row.value⟩

/-- The derived figures of what the rows touched. -/
def rebuildAfterRevaluation (basis : RevaluationBasis) (touched : List LotScope)
    (tables : StockTables) : StockTables :=
  let items := (touched.map LotScope.item).dedup
  let lots := touched.filter fun lot => basis.method lot.itemId = .LOT_ACTUAL
  let balances := rebuildLotCosts tables.ledger tables.revaluations lots tables.balances
  let itemCosts := rebuildItemCosts tables.ledger tables.revaluations items tables.itemCosts
  let balances := stampItemAverage itemCosts
    (items.filter fun item => basis.method item.itemId = .WAVG) balances
  { tables with balances, itemCosts }

def revalueOnHand (masters : StockMasters) (src : CostRevaluationSource)
    (lines : List CostRevaluationLine) (tables : StockTables) :
    StockTables × OrderedMap Uuid Decimal :=
  let basis := revaluationBasis masters src tables
  let rows := revaluationRows basis lines
  let out := intoStock lines rows
  if rows.isEmpty then (tables, out)
  else
    (rebuildAfterRevaluation basis (rows.map (·.lot src))
      { tables with revaluations := tables.revaluations ++ rows.map (·.stored src) }, out)

/-! ## The portions of a revalued line

What a line puts into stock is read off its portions: the quantity at each place, the part
of it that is there, and the value that part is given. -/

open Receipt (paisa)

variable {basis : RevaluationBasis} {line : CostRevaluationLine}

/-! ## The quantity at a place -/

namespace CostRevaluationLine

/-- The quantity of all the lots together. -/
def lotQty (line : CostRevaluationLine) : Decimal := (line.lots.map Prod.snd).sum

theorem lotQty_nonneg (line : CostRevaluationLine) : 0 ≤ line.lotQty := by
  apply List.sum_nonneg
  intro qty member
  obtain ⟨lot, lotMem, rfl⟩ := List.mem_map.mp member
  exact (line.lots_pos lot lotMem).le

theorem lotQty_pos (lotted : line.lots ≠ []) : 0 < line.lotQty := by
  cases lots : line.lots with
  | nil => exact absurd lots lotted
  | cons lot rest =>
      have first := line.lots_pos lot (by rw [lots]; exact List.mem_cons_self)
      have later : 0 ≤ (rest.map Prod.snd).sum := by
        apply List.sum_nonneg
        intro qty member
        obtain ⟨other, otherMem, rfl⟩ := List.mem_map.mp member
        exact (line.lots_pos other (by rw [lots]; exact List.mem_cons_of_mem _ otherMem)).le
      rw [lotQty, lots, List.map_cons, List.sum_cons]
      linarith

theorem inBaseQty_pos (lotted : line.lots ≠ []) : 0 < line.inBaseQty := by
  rw [← line.lots_sum lotted]
  exact lotQty_pos lotted

end CostRevaluationLine

/-- The quantity a line brought in to one place. -/
def quantityAt (basis : RevaluationBasis) (line : CostRevaluationLine) (place : Place) : Decimal :=
  match basis.method line.itemId, place with
  | .LOT_ACTUAL, .lot lotId => OrderedMap.totalOf lotId line.lots
  | .LOT_ACTUAL, .item _ => 0
  | .WAVG, .item itemId => if itemId = line.itemId then line.lotQty else 0
  | .WAVG, .lot _ => 0

theorem totalOf_nonneg (line : CostRevaluationLine) (lotId : Uuid) :
    0 ≤ OrderedMap.totalOf lotId line.lots := by
  apply List.sum_nonneg
  intro qty member
  obtain ⟨lot, lotMem, rfl⟩ := List.mem_map.mp member
  exact (line.lots_pos lot (List.mem_of_mem_filter lotMem)).le

theorem totalOf_pos {lotId : Uuid} (named : lotId ∈ line.lots.map Prod.fst) :
    0 < OrderedMap.totalOf lotId line.lots := by
  obtain ⟨lot, lotMem, rfl⟩ := List.mem_map.mp named
  have posted : lot ∈ line.lots.filter fun other => other.1 = lot.1 :=
    List.mem_filter.mpr ⟨lotMem, decide_eq_true rfl⟩
  have one : lot.2 ≤ OrderedMap.totalOf lot.1 line.lots := by
    apply List.single_le_sum _ _ (List.mem_map_of_mem posted)
    intro qty member
    obtain ⟨other, otherMem, rfl⟩ := List.mem_map.mp member
    exact (line.lots_pos other (List.mem_of_mem_filter otherMem)).le
  exact (line.lots_pos lot lotMem).trans_le one

theorem quantityAt_nonneg (basis : RevaluationBasis) (line : CostRevaluationLine) (place : Place) :
    0 ≤ quantityAt basis line place := by
  unfold quantityAt
  split
  · exact totalOf_nonneg line _
  · exact le_rfl
  · split
    · exact line.lotQty_nonneg
    · exact le_rfl
  · exact le_rfl

/-! ## The portions -/

theorem groups_of_noLots (unlotted : line.lots = []) : groups basis line = [] := by
  unfold groups
  rw [unlotted]
  cases basis.method line.itemId <;> rfl

variable {portion : Portion}

/-- A portion is what the line brought in to the portion's place, and what is on hand there. -/
theorem portion_of_mem (member : portion ∈ groups basis line) : 0 < portion.inQty ∧
      portion.inQty = quantityAt basis line (basis.placeOf line.itemId portion.lotId) ∧
      portion.onHand = basis.onHand (basis.placeOf line.itemId portion.lotId) := by
  unfold groups at member
  cases method : basis.method line.itemId with
  | LOT_ACTUAL =>
      simp only [method, List.mem_map] at member
      obtain ⟨lot, lotMem, rfl⟩ := member
      obtain ⟨named, total⟩ := OrderedMap.mem_entries_accumulate.mp lotMem
      simp only [RevaluationBasis.placeOf, method, quantityAt, RevaluationBasis.onHand]
      rw [total]
      exact ⟨totalOf_pos named, rfl, trivial⟩
  | WAVG =>
      simp only [method, Option.mem_toList, Option.map_eq_some_iff] at member
      obtain ⟨lot, first, rfl⟩ := member
      have lotted : line.lots ≠ [] := by
        intro unlotted
        rw [unlotted] at first
        cases first
      simp only [RevaluationBasis.placeOf, method, quantityAt, RevaluationBasis.onHand, if_true]
      exact ⟨CostRevaluationLine.inBaseQty_pos lotted, (line.lots_sum lotted).symm, trivial⟩

theorem exists_portion {place : Place} (brought : 0 < quantityAt basis line place) :
    ∃ portion ∈ groups basis line, basis.placeOf line.itemId portion.lotId = place := by
  unfold quantityAt at brought
  split at brought
  · case h_1 lotId method =>
      have named : lotId ∈ line.lots.map Prod.fst := by
        by_contra unnamed
        have nothing : line.lots.filter (fun lot => lot.1 = lotId) = [] := by
          apply List.filter_eq_nil_iff.mpr
          intro lot lotMem same
          exact unnamed (List.mem_map.mpr ⟨lot, lotMem, of_decide_eq_true same⟩)
        rw [OrderedMap.totalOf, nothing] at brought
        exact lt_irrefl _ brought
      have entry : (lotId, OrderedMap.totalOf lotId line.lots) ∈
          ((OrderedMap.empty : OrderedMap Uuid Decimal).accumulate line.lots).entries :=
        OrderedMap.mem_entries_accumulate.mpr ⟨named, rfl⟩
      refine ⟨⟨lotId, OrderedMap.totalOf lotId line.lots, basis.lotOnHand lotId⟩, ?_, ?_⟩
      · simp only [groups, method]
        exact List.mem_map_of_mem entry
      · simp only [RevaluationBasis.placeOf, method]
  · exact absurd brought (lt_irrefl _)
  · case h_3 itemId method =>
      split at brought
      · case isTrue same =>
          subst same
          cases lots : line.lots with
          | nil =>
              rw [CostRevaluationLine.lotQty, lots] at brought
              exact absurd brought (lt_irrefl _)
          | cons lot rest =>
              refine ⟨⟨lot.1, line.inBaseQty, basis.itemOnHand line.itemId⟩, ?_, ?_⟩
              · simp [groups, method, lots]
              · simp only [RevaluationBasis.placeOf, method]
      · exact absurd brought (lt_irrefl _)
  · exact absurd brought (lt_irrefl _)

/-- The portions are the line's quantity, taken apart. -/
theorem sum_inQty (lotted : line.lots ≠ []) :
    ((groups basis line).map (·.inQty)).sum = line.inBaseQty := by
  unfold groups
  cases method : basis.method line.itemId with
  | LOT_ACTUAL =>
      have total := OrderedMap.sum_entries_accumulate
        (OrderedMap.empty : OrderedMap Uuid Decimal) line.lots
      simp only [List.map_map]
      refine Eq.trans ?_ (total.trans ?_)
      · rfl
      · rw [line.lots_sum lotted]
        exact zero_add _
  | WAVG =>
      cases lots : line.lots with
      | nil => exact absurd lots lotted
      | cons lot rest => simp

/-! ## What is there of them -/

/-- Every portion of the line is on hand in full. -/
def AllThere (basis : RevaluationBasis) (line : CostRevaluationLine) : Prop :=
  ∀ portion ∈ groups basis line, portion.inQty ≤ portion.onHand

/-- None of the line is on hand. -/
def NoneThere (basis : RevaluationBasis) (line : CostRevaluationLine) : Prop :=
  ∀ portion ∈ groups basis line, portion.onHand ≤ 0

theorem allThere_iff : AllThere basis line ↔
    ∀ place, 0 < quantityAt basis line place →
      quantityAt basis line place ≤ basis.onHand place := by
  constructor
  · intro there place brought
    obtain ⟨portion, member, rfl⟩ := exists_portion brought
    obtain ⟨-, quantity, onHand⟩ := portion_of_mem member
    rw [← quantity, ← onHand]
    exact there portion member
  · intro there portion member
    obtain ⟨positive, quantity, onHand⟩ := portion_of_mem member
    rw [quantity] at positive ⊢
    rw [onHand]
    exact there _ positive

theorem noneThere_iff : NoneThere basis line ↔
    ∀ place, 0 < quantityAt basis line place → basis.onHand place ≤ 0 := by
  constructor
  · intro none place brought
    obtain ⟨portion, member, rfl⟩ := exists_portion brought
    obtain ⟨-, -, onHand⟩ := portion_of_mem member
    rw [← onHand]
    exact none portion member
  · intro none portion member
    obtain ⟨positive, quantity, onHand⟩ := portion_of_mem member
    rw [quantity] at positive
    rw [onHand]
    exact none _ positive

/-- The part of a portion that is on hand. -/
def Portion.there (portion : Portion) : Decimal :=
  if 0 < portion.onHand then portion.share else 0

theorem Portion.there_nonneg (positive : 0 < portion.inQty) : 0 ≤ portion.there := by
  unfold Portion.there
  split
  · case isTrue onHand => exact le_min positive.le onHand.le
  · exact le_rfl

theorem Portion.there_le (positive : 0 < portion.inQty) : portion.there ≤ portion.inQty := by
  unfold Portion.there
  split
  · exact min_le_left _ _
  · exact positive.le

theorem Portion.there_of_le (positive : 0 < portion.inQty) (within : portion.inQty ≤ portion.onHand) :
    portion.there = portion.inQty := by
  rw [Portion.there, if_pos (positive.trans_le within)]
  exact min_eq_left within

theorem Portion.there_lt (positive : 0 < portion.inQty) (beyond : portion.onHand < portion.inQty) :
    portion.there < portion.inQty := by
  unfold Portion.there
  split
  · exact (min_le_right _ _).trans_lt beyond
  · exact positive

/-- The part of a line's quantity that is on hand. -/
def coverage (basis : RevaluationBasis) (line : CostRevaluationLine) : Decimal :=
  ((groups basis line).map (·.there)).sum / line.inBaseQty

theorem coverage_of_allThere (lotted : line.lots ≠ []) (there : AllThere basis line) :
    coverage basis line = 1 := by
  have each : (groups basis line).map (·.there) = (groups basis line).map (·.inQty) :=
    List.map_congr_left fun portion member =>
      Portion.there_of_le (portion_of_mem member).1 (there portion member)
  rw [coverage, each, sum_inQty lotted, div_self (CostRevaluationLine.inBaseQty_pos lotted).ne']

theorem coverage_lt_one (short : ¬AllThere basis line) : coverage basis line < 1 := by
  unfold AllThere at short
  push Not at short
  obtain ⟨portion, member, beyond⟩ := short
  have lotted : line.lots ≠ [] := by
    intro unlotted
    rw [groups_of_noLots unlotted] at member
    cases member
  have less : ((groups basis line).map (·.there)).sum < ((groups basis line).map (·.inQty)).sum :=
    List.sum_lt_sum _ _
      (fun other otherMem => Portion.there_le (portion_of_mem otherMem).1)
      ⟨portion, member, Portion.there_lt (portion_of_mem member).1 beyond⟩
  rw [sum_inQty lotted] at less
  rw [coverage, div_lt_one (CostRevaluationLine.inBaseQty_pos lotted)]
  exact less

/-! ## The value -/

/-- What a line puts into stock. -/
def lineValue (basis : RevaluationBasis) (line : CostRevaluationLine) : Decimal :=
  ((groups basis line).map fun portion =>
    round2 (line.delta * portion.there / line.inBaseQty)).sum

theorem lineValue_of_noLots (unlotted : line.lots = []) : lineValue basis line = 0 := by
  rw [lineValue, groups_of_noLots unlotted]
  rfl

theorem lineValue_of_noneThere (none : NoneThere basis line) : lineValue basis line = 0 := by
  apply List.sum_eq_zero
  intro value member
  obtain ⟨portion, portionMem, rfl⟩ := List.mem_map.mp member
  have nothing : portion.there = 0 := if_neg (not_lt.mpr (none portion portionMem))
  rw [nothing, mul_zero, zero_div]
  exact Grid.halfUp_zero

/-- The value is the part of the difference that is covered, to half a paisa a portion. -/
theorem abs_lineValue_sub_le (basis : RevaluationBasis) (line : CostRevaluationLine) :
    |lineValue basis line - line.delta * coverage basis line| ≤
      (groups basis line).length * (paisa / 2) := by
  have rounded := Grid.abs_sum_halfUp_sub_le (show (0 : Decimal) < paisa by norm_num [paisa])
    ((groups basis line).map fun portion => line.delta * portion.there / line.inBaseQty)
  have covered : ((groups basis line).map fun portion =>
      line.delta * portion.there / line.inBaseQty).sum = line.delta * coverage basis line := by
    simp only [mul_div_right_comm, List.sum_map_mul_left, coverage]
    ring
  rw [covered, List.map_map, List.length_map] at rounded
  exact rounded

/-- The value never goes against the difference, and its size is that of the parts of the
difference's size. -/
theorem lineValue_signed (basis : RevaluationBasis) (line : CostRevaluationLine) :
    0 ≤ lineValue basis line * line.delta ∧
      |lineValue basis line| = ((groups basis line).map fun portion =>
        round2 (|line.delta| * portion.there / line.inBaseQty)).sum := by
  have sized : 0 ≤ ((groups basis line).map fun portion =>
      round2 (|line.delta| * portion.there / line.inBaseQty)).sum := by
    apply List.sum_nonneg
    intro value member
    obtain ⟨portion, portionMem, rfl⟩ := List.mem_map.mp member
    have lotted : line.lots ≠ [] := by
      intro unlotted
      rw [groups_of_noLots unlotted] at portionMem
      cases portionMem
    have quantity := CostRevaluationLine.inBaseQty_pos lotted
    have there := Portion.there_nonneg (portion_of_mem portionMem).1
    exact Grid.halfUp_nonneg (by norm_num [paisa])
      (div_nonneg (mul_nonneg (abs_nonneg _) there) quantity.le)
  rcases le_total 0 line.delta with nonneg | nonpos
  · rw [abs_of_nonneg nonneg] at sized ⊢
    exact ⟨mul_nonneg sized nonneg, abs_of_nonneg sized⟩
  · have mirrored : lineValue basis line = -((groups basis line).map fun portion =>
        round2 (|line.delta| * portion.there / line.inBaseQty)).sum := by
      rw [← ListSum.sum_map_neg, lineValue]
      congr 1
      apply List.map_congr_left
      intro portion _
      have turned : line.delta * portion.there / line.inBaseQty =
          -(|line.delta| * portion.there / line.inBaseQty) := by
        rw [abs_of_nonpos nonpos]
        ring
      rw [turned]
      exact Grid.halfUp_neg
    constructor
    · rw [mirrored]
      exact mul_nonneg_of_nonpos_of_nonpos (neg_nonpos.mpr sized) nonpos
    · rw [mirrored, abs_neg, abs_of_nonneg sized]

/-! ## The rows -/

theorem delta_of_not_live (lotted : line.lots ≠ []) (notLive : line.isLive = false) :
    line.delta = 0 := by
  have quantity := CostRevaluationLine.inBaseQty_pos lotted
  have some : line.lots.isEmpty = false := by
    cases lots : line.lots with
    | nil => exact absurd lots lotted
    | cons lot rest => rfl
  simpa [CostRevaluationLine.isLive, quantity, some] using notLive

/-- A line that is not live has nothing to put into stock. -/
theorem lineValue_of_not_live (notLive : line.isLive = false) : lineValue basis line = 0 := by
  by_cases unlotted : line.lots = []
  · exact lineValue_of_noLots unlotted
  · apply List.sum_eq_zero
    intro value member
    obtain ⟨portion, portionMem, rfl⟩ := List.mem_map.mp member
    rw [delta_of_not_live unlotted notLive, zero_mul, zero_div]
    exact Grid.halfUp_zero

theorem sum_lineRows (basis : RevaluationBasis) (line : CostRevaluationLine) :
    ((lineRows basis line).map (·.value)).sum = lineValue basis line := by
  unfold lineRows
  cases live : line.isLive with
  | false =>
      rw [lineValue_of_not_live live]
      rfl
  | true =>
      rw [if_pos rfl, List.map_map]
      have counted : ((groups basis line).filter fun portion => !portion.isSkipped line).map
          ((·.value) ∘ revaluationRow line) =
          ((groups basis line).filter fun portion => !portion.isSkipped line).map fun portion =>
            round2 (line.delta * portion.there / line.inBaseQty) := by
        apply List.map_congr_left
        intro portion member
        have kept := (List.mem_filter.mp member).2
        have onHand : 0 < portion.onHand := by
          by_contra none
          simp [Portion.isSkipped, none] at kept
        simp only [Function.comp_apply, revaluationRow, Portion.value, Portion.there, if_pos onHand]
      rw [counted, lineValue]
      apply ListSum.sum_filter_of_zero
      intro portion _ skipped
      rw [Bool.not_eq_false', Portion.isSkipped, Bool.or_eq_true] at skipped
      cases skipped with
      | inl none =>
          have nothing : portion.there = 0 := if_neg (by simpa using none)
          rw [nothing, mul_zero, zero_div]
          exact Grid.halfUp_zero
      | inr rounded =>
          unfold Portion.there
          split
          · exact of_decide_eq_true rounded
          · rw [mul_zero, zero_div]
            exact Grid.halfUp_zero

theorem sum_revaluationRows (basis : RevaluationBasis) (lines : List CostRevaluationLine) :
    ((revaluationRows basis lines).map (·.value)).sum = (lines.map (lineValue basis)).sum := by
  unfold revaluationRows
  induction lines with
  | nil => rfl
  | cons line rest ih =>
      rw [List.flatMap_cons, List.map_append, List.sum_append, ih, sum_lineRows]
      rfl

theorem line_of_mem_lineRows {row : RevaluationRow} (member : row ∈ lineRows basis line) :
    row.line = line := by
  unfold lineRows at member
  split at member
  · obtain ⟨portion, _, rfl⟩ := List.mem_map.mp member
    rfl
  · cases member

/-- The rows a line is told of are its own. -/
theorem totalOf_rows (basis : RevaluationBasis) (lines : List CostRevaluationLine)
    (lineId : Uuid) :
    OrderedMap.totalOf lineId
        ((revaluationRows basis lines).map fun row => (row.line.lineId, row.value)) =
      (lines.map fun line => if line.lineId = lineId then lineValue basis line else 0).sum := by
  induction lines with
  | nil => rfl
  | cons line rest ih =>
      have own : OrderedMap.totalOf lineId
          ((lineRows basis line).map fun row => (row.line.lineId, row.value)) =
            if line.lineId = lineId then lineValue basis line else 0 := by
        have keyed : (lineRows basis line).map (fun row => (row.line.lineId, row.value)) =
            (lineRows basis line).map fun row => (line.lineId, row.value) := by
          apply List.map_congr_left
          intro row member
          rw [line_of_mem_lineRows member]
        rw [keyed, OrderedMap.totalOf, List.filter_map, List.map_map, ← sum_lineRows]
        by_cases same : line.lineId = lineId
        · simp [same, Function.comp_def]
        · simp [same, Function.comp_def]
      have split : revaluationRows basis (line :: rest) =
          lineRows basis line ++ revaluationRows basis rest := List.flatMap_cons
      rw [split, List.map_append, OrderedMap.totalOf_append, own, ih, List.map_cons,
        List.sum_cons]

/-- The value the revaluations so far have put into stock. -/
def revaluedValue (tables : StockTables) : Decimal := (tables.revaluations.map (·.value)).sum

section Run

variable (masters : StockMasters) (src : CostRevaluationSource) (tables : StockTables)

/-- What a document puts into stock is what its lines put into stock. -/
theorem revaluedValue_revalueOnHand (lines : List CostRevaluationLine) :
    revaluedValue (revalueOnHand masters src lines tables).1 =
      revaluedValue tables +
        (lines.map (lineValue (revaluationBasis masters src tables))).sum := by
  rw [← sum_revaluationRows]
  unfold revalueOnHand
  simp only
  split
  · case isTrue none =>
      rw [List.isEmpty_iff.mp none]
      simp
  · simp only [revaluedValue, rebuildAfterRevaluation, List.map_append, List.sum_append,
      List.map_map]
    rfl

/-- Each line is told what it put into stock. -/
theorem get?_revalueOnHand {lines : List CostRevaluationLine}
    (distinct : (lines.map (·.lineId)).Nodup) (member : line ∈ lines) :
    (revalueOnHand masters src lines tables).2.get? line.lineId =
      some (lineValue (revaluationBasis masters src tables) line) := by
  have told : (revalueOnHand masters src lines tables).2 =
      intoStock lines (revaluationRows (revaluationBasis masters src tables) lines) := by
    unfold revalueOnHand
    simp only
    split <;> rfl
  rw [told, intoStock, OrderedMap.get?_accumulate]
  have opened : (OrderedMap.ofList (lines.map fun other => (other.lineId, (0 : Decimal)))).get?
      line.lineId = some 0 := by
    have present : line.lineId ∈
        (OrderedMap.ofList (lines.map fun other => (other.lineId, (0 : Decimal)))).keys := by
      rw [OrderedMap.mem_keys_ofList]
      simpa using ⟨line, member, rfl⟩
    obtain ⟨value, found⟩ := (OrderedMap.mem_keys_iff _ _).mp present
    have listed := OrderedMap.mem_of_get?_ofList found
    obtain ⟨other, _, equal⟩ := List.mem_map.mp listed
    rw [found, ← (Prod.mk.inj equal).2]
  rw [opened, Option.isSome_some, if_pos (Or.inl rfl), Option.getD_some, zero_add]
  rw [totalOf_rows, ListSum.sum_key distinct _ member]

end Run

end ErpServer.Stock
