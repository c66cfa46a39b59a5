import ErpServer.Stock.Revaluation

/-!
# A revalued line in parts

A line that is wholly on hand, or not at all, puts the same value into stock however it is
split, but for the rounding.  A line that is there in part does not: a part that is there
takes as much of the difference as it is given.
-/

namespace ErpServer.Stock

open Lib
open Receipt (Decimal paisa)

/-- Several lines in the place of one: the same item, quantity, difference and lots. -/
structure IsSplit (line : CostRevaluationLine) (parts : List CostRevaluationLine) : Prop where
  item : ∀ part ∈ parts, part.itemId = line.itemId
  brings : ∀ part ∈ parts, 0 < part.inBaseQty
  inBaseQty : (parts.map (·.inBaseQty)).sum = line.inBaseQty
  delta : (parts.map (·.delta)).sum = line.delta
  lots : ∀ lotId, (parts.map fun part => OrderedMap.totalOf lotId part.lots).sum =
    OrderedMap.totalOf lotId line.lots

/-- Half a paisa for every portion the lines are taken apart into. -/
def rowRounding (basis : RevaluationBasis) (lines : List CostRevaluationLine) : Decimal :=
  (lines.map fun line => ((groups basis line).length : Decimal) * (paisa / 2)).sum

variable {basis : RevaluationBasis} {line : CostRevaluationLine}
  {parts : List CostRevaluationLine}

/-! ## Splitting a line -/

theorem IsSplit.lotQty_eq (split : IsSplit line parts) :
    (parts.map (·.lotQty)).sum = line.lotQty := by
  have together : ((parts.flatMap (·.lots)).map Prod.snd).sum = (parts.map (·.lotQty)).sum := by
    rw [List.map_flatMap, List.flatMap_def, List.sum_flatten, List.map_map]
    rfl
  rw [← together]
  apply OrderedMap.sum_eq_of_totalOf
  intro lotId
  rw [OrderedMap.totalOf_flatMap]
  exact split.lots lotId

/-- The parts bring in together, at every place, what the line brought in. -/
theorem IsSplit.quantityAt_eq (split : IsSplit line parts) (place : Place) :
    (parts.map fun part => quantityAt basis part place).sum = quantityAt basis line place := by
  have method : ∀ part ∈ parts, basis.method part.itemId = basis.method line.itemId :=
    fun part member => by rw [split.item part member]
  cases valued : basis.method line.itemId with
  | LOT_ACTUAL =>
      cases place with
      | lot lotId =>
          have each : (parts.map fun part => quantityAt basis part (.lot lotId)) =
              parts.map fun part => OrderedMap.totalOf lotId part.lots :=
            List.map_congr_left fun part member => by
              simp only [quantityAt, method part member, valued]
          rw [each, split.lots]
          simp only [quantityAt, valued]
      | item itemId =>
          have each : (parts.map fun part => quantityAt basis part (.item itemId)) =
              parts.map fun _ => 0 :=
            List.map_congr_left fun part member => by
              simp only [quantityAt, method part member, valued]
          rw [each]
          simp [quantityAt, valued]
  | WAVG =>
      cases place with
      | lot lotId =>
          have each : (parts.map fun part => quantityAt basis part (.lot lotId)) =
              parts.map fun _ => 0 :=
            List.map_congr_left fun part member => by
              simp only [quantityAt, method part member, valued]
          rw [each]
          simp [quantityAt, valued]
      | item itemId =>
          have each : (parts.map fun part => quantityAt basis part (.item itemId)) =
              parts.map fun part => if itemId = line.itemId then part.lotQty else 0 :=
            List.map_congr_left fun part member => by
              simp only [quantityAt, valued, split.item part member]
          rw [each]
          by_cases own : itemId = line.itemId
          · simp only [quantityAt, valued, own, if_true]
            exact split.lotQty_eq
          · simp [quantityAt, valued, own]

variable {part : CostRevaluationLine}

theorem IsSplit.part_le (split : IsSplit line parts) (member : part ∈ parts) (place : Place) :
    quantityAt basis part place ≤ quantityAt basis line place := by
  rw [← split.quantityAt_eq place]
  apply List.single_le_sum
  · intro qty qtyMem
    obtain ⟨other, _, rfl⟩ := List.mem_map.mp qtyMem
    exact quantityAt_nonneg basis other place
  · exact List.mem_map_of_mem member

theorem IsSplit.allThere (split : IsSplit line parts) (there : AllThere basis line)
    (member : part ∈ parts) : AllThere basis part := by
  rw [allThere_iff] at there ⊢
  intro place brought
  have within : quantityAt basis part place ≤ quantityAt basis line place :=
    split.part_le member place
  exact within.trans (there place (brought.trans_le within))

theorem IsSplit.noneThere (split : IsSplit line parts) (none : NoneThere basis line)
    (member : part ∈ parts) : NoneThere basis part := by
  rw [noneThere_iff] at none ⊢
  intro place brought
  exact none place (brought.trans_le (split.part_le member place))

/-- The parts of a line with lots have lots. -/
theorem IsSplit.lotted (split : IsSplit line parts) (lotted : line.lots ≠ [])
    (member : part ∈ parts) : part.lots ≠ [] := by
  intro unlotted
  have bound (other : CostRevaluationLine) (otherMem : other ∈ parts) :
      other.lotQty ≤ other.inBaseQty := by
    by_cases noLots : other.lots = []
    · rw [CostRevaluationLine.lotQty, noLots]
      exact (split.brings other otherMem).le
    · exact (other.lots_sum noLots).le
  have less : (parts.map (·.lotQty)).sum < (parts.map (·.inBaseQty)).sum := by
    apply List.sum_lt_sum _ _ bound ⟨part, member, _⟩
    rw [CostRevaluationLine.lotQty, unlotted]
    exact split.brings part member
  rw [split.lotQty_eq, split.inBaseQty, ← line.lots_sum lotted] at less
  exact lt_irrefl _ less

/-- A line without lots has no parts with lots. -/
theorem IsSplit.unlotted (split : IsSplit line parts) (unlotted : line.lots = [])
    (member : part ∈ parts) : part.lots = [] := by
  by_contra lotted
  have positive : 0 < part.lotQty := CostRevaluationLine.lotQty_pos lotted
  have one : part.lotQty ≤ (parts.map (·.lotQty)).sum := by
    apply List.single_le_sum
    · intro qty qtyMem
      obtain ⟨other, _, rfl⟩ := List.mem_map.mp qtyMem
      exact other.lotQty_nonneg
    · exact List.mem_map_of_mem member
  have none : line.lotQty = 0 := by
    rw [CostRevaluationLine.lotQty, unlotted]
    rfl
  rw [split.lotQty_eq, none] at one
  exact absurd positive (not_lt.mpr one)

/-- A line that is wholly on hand puts its whole difference into stock, but for the
rounding. -/
theorem abs_lineValue_sub_delta_le (lotted : line.lots ≠ []) (there : AllThere basis line) :
    |lineValue basis line - line.delta| ≤ (groups basis line).length * (paisa / 2) := by
  have near := abs_lineValue_sub_le basis line
  rwa [coverage_of_allThere lotted there, mul_one] at near

theorem abs_sum_lineValue_le (lines : List CostRevaluationLine)
    (lotted : ∀ line ∈ lines, line.lots ≠ []) (there : ∀ line ∈ lines, AllThere basis line) :
    |(lines.map (lineValue basis)).sum - (lines.map (·.delta)).sum| ≤ rowRounding basis lines := by
  induction lines with
  | nil => simp [rowRounding]
  | cons line rest ih =>
      have later := ih (fun other member => lotted other (List.mem_cons_of_mem _ member))
        fun other member => there other (List.mem_cons_of_mem _ member)
      have here := abs_lineValue_sub_delta_le (lotted line List.mem_cons_self)
        (there line List.mem_cons_self)
      unfold rowRounding at later ⊢
      rw [List.map_cons, List.sum_cons, List.map_cons, List.sum_cons, List.map_cons,
        List.sum_cons, add_sub_add_comm]
      exact (abs_add_le _ _).trans (add_le_add here later)

theorem rowRounding_nonneg (basis : RevaluationBasis) (lines : List CostRevaluationLine) :
    0 ≤ rowRounding basis lines := by
  apply List.sum_nonneg
  intro rounding member
  obtain ⟨line, _, rfl⟩ := List.mem_map.mp member
  exact mul_nonneg (Nat.cast_nonneg _) (by norm_num [paisa])

/-- Splitting a line that is wholly on hand, or not at all, changes what it puts into stock
by the rounding. -/
theorem split_lineValue (split : IsSplit line parts)
    (whole : AllThere basis line ∨ NoneThere basis line) :
    |(parts.map (lineValue basis)).sum - lineValue basis line| ≤
      rowRounding basis (line :: parts) := by
  have nothing (none : ∀ part ∈ parts, lineValue basis part = 0)
      (same : lineValue basis line = 0) :
      |(parts.map (lineValue basis)).sum - lineValue basis line| ≤
        rowRounding basis (line :: parts) := by
    have zero : (parts.map (lineValue basis)).sum = 0 := by
      apply List.sum_eq_zero
      intro value member
      obtain ⟨part, partMem, rfl⟩ := List.mem_map.mp member
      exact none part partMem
    rw [zero, same, sub_zero, abs_zero]
    exact rowRounding_nonneg basis _
  by_cases unlotted : line.lots = []
  · exact nothing (fun part member => lineValue_of_noLots (split.unlotted unlotted member))
      (lineValue_of_noLots unlotted)
  · cases whole with
    | inl there =>
        have near := abs_lineValue_sub_delta_le unlotted there
        have nearParts := abs_sum_lineValue_le parts
          (fun part member => split.lotted unlotted member)
          fun part member => split.allThere there member
        have total : rowRounding basis (line :: parts) =
            (groups basis line).length * (paisa / 2) + rowRounding basis parts := by
          rw [rowRounding, List.map_cons, List.sum_cons, ← rowRounding]
        rw [split.delta] at nearParts
        rw [total]
        calc |(parts.map (lineValue basis)).sum - lineValue basis line|
            ≤ |(parts.map (lineValue basis)).sum - line.delta| +
                |line.delta - lineValue basis line| := abs_sub_le _ _ _
          _ ≤ rowRounding basis parts + (groups basis line).length * (paisa / 2) := by
              rw [abs_sub_comm line.delta]
              exact add_le_add nearParts near
          _ = (groups basis line).length * (paisa / 2) + rowRounding basis parts := add_comm _ _
    | inr none =>
        exact nothing (fun part member => lineValue_of_noneThere (split.noneThere none member))
          (lineValue_of_noneThere none)

/-! ## Splitting a line that is partly there -/

namespace CostRevaluationLine

/-- A part of a line: so much of each of its lots, with a difference of its own. -/
def scaled (line : CostRevaluationLine) (weight : Uuid → Decimal) (lineId : Uuid)
    (delta : Decimal) : CostRevaluationLine where
  lineId := lineId
  itemId := line.itemId
  inBaseQty := (((line.lots.filter fun lot => 0 < weight lot.1).map fun lot =>
    (lot.1, weight lot.1 * lot.2)).map Prod.snd).sum
  delta := delta
  lots := (line.lots.filter fun lot => 0 < weight lot.1).map fun lot =>
    (lot.1, weight lot.1 * lot.2)
  lots_pos := by
    intro lot member
    obtain ⟨whole, wholeMem, rfl⟩ := List.mem_map.mp member
    obtain ⟨inside, weighed⟩ := List.mem_filter.mp wholeMem
    exact mul_pos (of_decide_eq_true weighed) (line.lots_pos whole inside)
  lots_sum := fun _ => rfl

variable {weight : Uuid → Decimal}

theorem totalOf_scaled (nonneg : ∀ lotId, 0 ≤ weight lotId) (line : CostRevaluationLine)
    (lineId : Uuid) (delta : Decimal) (lotId : Uuid) :
    OrderedMap.totalOf lotId (line.scaled weight lineId delta).lots =
      weight lotId * OrderedMap.totalOf lotId line.lots := by
  unfold scaled
  simp only
  induction line.lots with
  | nil => simp
  | cons lot rest ih =>
      rw [OrderedMap.totalOf_cons, mul_add, ← ih]
      by_cases weighed : 0 < weight lot.1
      · simp only [List.filter_cons, weighed, decide_true, if_true, List.map_cons,
          OrderedMap.totalOf_cons]
        by_cases same : lot.1 = lotId
        · simp [same]
        · simp [same]
      · have none : weight lot.1 = 0 := le_antisymm (not_lt.mp weighed) (nonneg lot.1)
        simp only [List.filter_cons, weighed, decide_false, Bool.false_eq_true, if_false]
        by_cases same : lot.1 = lotId
        · subst same
          simp [none]
        · simp [same]

/-- Two weights that make one between them split a line in two. -/
theorem scaled_split (nonneg : ∀ lotId, 0 ≤ weight lotId) (within : ∀ lotId, weight lotId ≤ 1)
    (lotted : line.lots ≠ []) (lineId : Uuid) (delta : Decimal)
    (first : 0 < (line.scaled weight line.lineId delta).inBaseQty)
    (second : 0 < (line.scaled (fun lotId => 1 - weight lotId) lineId
      (line.delta - delta)).inBaseQty) : IsSplit line [line.scaled weight line.lineId delta,
      line.scaled (fun lotId => 1 - weight lotId) lineId (line.delta - delta)] := by
  have totals (lotId : Uuid) :
      OrderedMap.totalOf lotId (line.scaled weight line.lineId delta).lots + OrderedMap.totalOf lotId (line.scaled (fun lotId => 1 - weight lotId) lineId
        (line.delta - delta)).lots = OrderedMap.totalOf lotId line.lots := by
    rw [totalOf_scaled nonneg, totalOf_scaled fun lotId => sub_nonneg.mpr (within lotId)]
    ring
  constructor
  · intro part member
    simp only [List.mem_cons, List.not_mem_nil, or_false] at member
    cases member with
    | inl same => rw [same]; rfl
    | inr same => rw [same]; rfl
  · intro part member
    simp only [List.mem_cons, List.not_mem_nil, or_false] at member
    cases member with
    | inl same => rw [same]; exact first
    | inr same => rw [same]; exact second
  · have joined : (((line.scaled weight line.lineId delta).lots ++
        (line.scaled (fun lotId => 1 - weight lotId) lineId
          (line.delta - delta)).lots).map Prod.snd).sum = (line.lots.map Prod.snd).sum := by
      apply OrderedMap.sum_eq_of_totalOf
      intro lotId
      rw [OrderedMap.totalOf_append]
      exact totals lotId
    rw [List.map_append, List.sum_append, line.lots_sum lotted] at joined
    simpa [scaled] using joined
  · simp [scaled]
  · intro lotId
    simpa using totals lotId

end CostRevaluationLine

/-! ## A line that is partly there -/

/-- So much of a quantity that it is on hand, and that what is left of a quantity that was
not on hand still is not. -/
theorem exists_weight {quantity onHand : Decimal} (brought : 0 < quantity) (stocked : 0 < onHand) :
    ∃ weight, 0 < weight ∧ weight < 1 ∧ weight * quantity ≤ onHand ∧
      (onHand < quantity → onHand < (1 - weight) * quantity) := by
  by_cases within : quantity ≤ onHand
  · refine ⟨1 / 2, by norm_num, by norm_num, by linarith, ?_⟩
    intro beyond
    exact absurd within (not_le.mpr beyond)
  · have short : 0 < quantity - onHand := sub_pos.mpr (not_le.mp within)
    have least : 0 < min onHand (quantity - onHand) := lt_min stocked short
    have taken : min onHand (quantity - onHand) / 2 / quantity * quantity =
        min onHand (quantity - onHand) / 2 := div_mul_cancel₀ _ brought.ne'
    have onHandBound := min_le_left onHand (quantity - onHand)
    have shortBound := min_le_right onHand (quantity - onHand)
    refine ⟨min onHand (quantity - onHand) / 2 / quantity, by positivity, ?_, ?_, ?_⟩
    · rw [div_lt_one brought]
      linarith
    · rw [taken]
      linarith
    · intro beyond
      rw [sub_mul, one_mul, taken]
      linarith

variable {weight : Uuid → Decimal}

theorem lotQty_scaled (nonneg : ∀ lotId, 0 ≤ weight lotId) (lineId : Uuid) (delta : Decimal) :
    (line.scaled weight lineId delta).lotQty =
      (line.lots.map fun lot => weight lot.1 * lot.2).sum := by
  unfold CostRevaluationLine.lotQty CostRevaluationLine.scaled
  simp only [List.map_map]
  apply ListSum.sum_filter_of_zero
  intro lot _ unweighed
  have none : weight lot.1 = 0 :=
    le_antisymm (not_lt.mp (of_decide_eq_false unweighed)) (nonneg lot.1)
  simp [none]

theorem quantityAt_scaled {weight : Place → Decimal} (nonneg : ∀ place, 0 ≤ weight place)
    (lineId : Uuid) (delta : Decimal) (place : Place) :
    quantityAt basis
        (line.scaled (fun lotId => weight (basis.placeOf line.itemId lotId)) lineId delta) place =
      weight place * quantityAt basis line place := by
  have item (weights : Uuid → Decimal) : (line.scaled weights lineId delta).itemId = line.itemId :=
    rfl
  cases method : basis.method line.itemId with
  | LOT_ACTUAL =>
      cases place with
      | lot lotId =>
          simp only [quantityAt, item, method]
          rw [CostRevaluationLine.totalOf_scaled fun lotId => nonneg _]
          simp only [RevaluationBasis.placeOf, method]
      | item itemId => simp [quantityAt, item, method]
  | WAVG =>
      cases place with
      | lot lotId => simp [quantityAt, item, method]
      | item itemId =>
          simp only [quantityAt, item, method]
          by_cases own : itemId = line.itemId
          · rw [if_pos own, if_pos own, lotQty_scaled fun lotId => nonneg _, own]
            simp only [RevaluationBasis.placeOf, method, List.sum_map_mul_left]
            rfl
          · rw [if_neg own, if_neg own, mul_zero]

/-- A line that is there in part splits into a part that is there and one that is not. -/
theorem exists_uneven (short : ¬AllThere basis line) (some : ¬NoneThere basis line) :
    ∃ weight : Uuid → Decimal, (∀ lotId, 0 ≤ weight lotId) ∧ (∀ lotId, weight lotId ≤ 1) ∧
      ∀ lineId delta, (line.scaled weight lineId delta).lots ≠ [] ∧
        AllThere basis (line.scaled weight lineId delta) ∧
        ¬AllThere basis (line.scaled (fun lotId => 1 - weight lotId) lineId delta) := by
  rw [allThere_iff] at short
  rw [noneThere_iff] at some
  push Not at short some
  obtain ⟨beyond, beyondBrought, beyondShort⟩ := short
  obtain ⟨there, thereBrought, stocked⟩ := some
  obtain ⟨taken, takenPos, takenLess, within, left⟩ := exists_weight thereBrought stocked
  let weight : Place → Decimal := fun place => if place = there then taken else 0
  have nonneg (place : Place) : 0 ≤ weight place := by
    simp only [weight]
    split
    · exact takenPos.le
    · exact le_rfl
  have atMost (place : Place) : weight place ≤ 1 := by
    simp only [weight]
    split
    · exact takenLess.le
    · exact zero_le_one
  refine ⟨fun lotId => weight (basis.placeOf line.itemId lotId), fun lotId => nonneg _,
    fun lotId => atMost _, ?_⟩
  intro lineId delta
  have first (place : Place) : quantityAt basis
      (line.scaled (fun lotId => weight (basis.placeOf line.itemId lotId)) lineId delta) place =
        weight place * quantityAt basis line place :=
    quantityAt_scaled nonneg lineId delta place
  have second (place : Place) : quantityAt basis
      (line.scaled (fun lotId => 1 - weight (basis.placeOf line.itemId lotId)) lineId delta)
        place = (1 - weight place) * quantityAt basis line place :=
    quantityAt_scaled (fun place => sub_nonneg.mpr (atMost place)) lineId delta place
  refine ⟨?_, ?_, ?_⟩
  · intro unlotted
    have taking : 0 < taken * quantityAt basis line there := mul_pos takenPos thereBrought
    have quantity := first there
    simp only [weight, if_true] at quantity
    rw [← quantity] at taking
    obtain ⟨portion, member, -⟩ := exists_portion taking
    rw [groups_of_noLots unlotted] at member
    cases member
  · rw [allThere_iff]
    intro place brought
    rw [first place] at brought ⊢
    by_cases same : place = there
    · subst same
      simpa [weight] using within
    · simp [weight, same] at brought
  · rw [allThere_iff]
    intro all
    have remains : basis.onHand beyond < (1 - weight beyond) * quantityAt basis line beyond := by
      by_cases same : beyond = there
      · subst same
        simpa [weight] using left beyondShort
      · simpa [weight, same] using beyondShort
    have positive : 0 < (1 - weight beyond) * quantityAt basis line beyond := by
      apply mul_pos _ beyondBrought
      simp only [weight]
      split
      · linarith
      · norm_num
    have bound := all beyond
    rw [second beyond] at bound
    exact absurd (bound positive) (not_le.mpr remains)

variable (line) in
/-- No bound holds for every way of splitting a line that is there in part. -/
theorem not_bounded_of_uneven (lineId : Uuid)
    (uneven : ∀ delta, (line.scaled weight line.lineId delta).lots ≠ [] ∧
      AllThere basis (line.scaled weight line.lineId delta) ∧
      ¬AllThere basis (line.scaled (fun lotId => 1 - weight lotId) lineId (line.delta - delta))) :
    ∃ delta, rowRounding basis [line, line.scaled weight line.lineId delta,
        line.scaled (fun lotId => 1 - weight lotId) lineId (line.delta - delta)] <
      |lineValue basis (line.scaled weight line.lineId delta) +
          lineValue basis (line.scaled (fun lotId => 1 - weight lotId) lineId
            (line.delta - delta)) - lineValue basis line| := by
  let first : Decimal → CostRevaluationLine := fun delta => line.scaled weight line.lineId delta
  let second : Decimal → CostRevaluationLine := fun delta =>
    line.scaled (fun lotId => 1 - weight lotId) lineId (line.delta - delta)
  -- neither the portions nor the part that is there depends on the difference
  let covered := coverage basis (second 0)
  let rounding := rowRounding basis [line, first 0, second 0]
  have nearFirst (delta : Decimal) : |lineValue basis (first delta) - delta| ≤
      (groups basis (first 0)).length * (paisa / 2) :=
    abs_lineValue_sub_delta_le (uneven delta).1 (uneven delta).2.1
  have nearSecond (delta : Decimal) :
      |lineValue basis (second delta) - (line.delta - delta) * covered| ≤
        (groups basis (second 0)).length * (paisa / 2) :=
    abs_lineValue_sub_le basis (second delta)
  have less : 0 < 1 - covered := sub_pos.mpr (coverage_lt_one (uneven 0).2.2)
  let slack := rounding + (groups basis (first 0)).length * (paisa / 2) +
    (groups basis (second 0)).length * (paisa / 2) + lineValue basis line - line.delta * covered
  let delta := (slack + 1) / (1 - covered)
  refine ⟨delta, ?_⟩
  have reached : delta * (1 - covered) = slack + 1 := div_mul_cancel₀ _ less.ne'
  have firstBound := (abs_le.mp (nearFirst delta)).1
  have secondBound := (abs_le.mp (nearSecond delta)).1
  have gap : rounding < lineValue basis (first delta) + lineValue basis (second delta) -
      lineValue basis line := by
    have spread : (line.delta - delta) * covered =
        line.delta * covered - delta + delta * (1 - covered) := by ring
    simp only [slack] at reached
    linarith
  exact gap.trans_le (le_abs_self _)

end ErpServer.Stock
