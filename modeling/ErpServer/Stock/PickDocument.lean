import ErpServer.Lib.ListSum
import ErpServer.Stock.PickShares

/-!
# The pick over a whole document

Every line of a document walks the same balances alone.  What the lines take of a lot
together, and when that overdraws one lot while another still has something left.
-/

namespace ErpServer.Stock

open Lib
open Receipt (Decimal)

section Document

variable (masters : StockMasters) (tables : StockTables) (voucher : StockVoucher)

/-! ## What the lines take -/

def goesOut (line : StockVoucherItem) : Bool := lineDirection voucher line = some .OUT

/-- The place of a lot on the shelf a line issues from. -/
def placeAt (line : StockVoucherItem) (lotId : Uuid) : Holding :=
  ⟨voucher.companyId, voucher.branchId, line.godownId, line.itemId, lotId, line.bucket⟩

/-- The place a line issues from: of the lot it names, or the one its identity keys to. -/
def placeOf (line : StockVoucherItem) : Option Holding :=
  (line.lotId <|> (lotOfLine tables.lots voucher.companyId line
    (lotIdentityKey (policyOf masters voucher line) line)).map Prod.fst).map (placeAt voucher line)

def availableAt (holding : Holding) : Decimal :=
  ((tables.balances.get? holding).map StockBalance.availableQty).getD 0

/-- The splits written for a line, which is its own only split where no lot is picked. -/
def splitsOf (line : StockVoucherItem) : List StockVoucherItem :=
  match pickLine masters tables voucher line with
  | .ok splits => splits
  | .error _ => []

/-- What the splits of one line take of a place. -/
def takenBy (line : StockVoucherItem) (holding : Holding) : Decimal :=
  (((splitsOf masters tables voucher line).filter fun split =>
    placeOf masters tables voucher split = some holding).map quantity).sum

/-- What the outward lines of the document take of a place together. -/
def takenAt (holding : Holding) : Decimal :=
  ((voucher.items.filter (goesOut voucher)).map fun line =>
    takenBy masters tables voucher line holding).sum

/-- The pick is the greedy one over the whole document: the splits of every picked line are
all of it in its strategy's order, and no lot one of them issues from is taken beyond what
it has while another lot of the line has something left. -/
structure PicksGreedily : Prop where
  splits : ∀ line ∈ voucher.items, isPicked masters tables voucher line = true →
    SplitsWell line (pickableLots masters tables voucher line)
      (splitsOf masters tables voucher line) ∧
    (pickableLots masters tables voucher line).Pairwise fun earlier later =>
      sortsBefore (pickOrder (policyOf masters voucher line).issueStrategy earlier)
        (pickOrder (policyOf masters voucher line).issueStrategy later) = true
  shared : ∀ line ∈ voucher.items, isPicked masters tables voucher line = true →
    ∀ split ∈ splitsOf masters tables voucher line, ∀ holding,
      placeOf masters tables voucher split = some holding →
      availableAt tables holding < takenAt masters tables voucher holding →
      ∀ lot ∈ pickableLots masters tables voucher line,
        availableAt tables (placeAt voucher line lot.lotId) ≤
          takenAt masters tables voucher (placeAt voucher line lot.lotId)

/-- What a line asks of its lots: in the order of its strategy where they are picked. -/
def demandOf (line : StockVoucherItem) : Draw.Demand Holding Decimal where
  need := quantity line
  stores :=
    if isPicked masters tables voucher line then
      (pickableLots masters tables voucher line).map fun lot => placeAt voucher line lot.lotId
    else (placeOf masters tables voucher line).toList

/-- The demands of the outward lines. -/
def demands : List (Draw.Demand Holding Decimal) :=
  (voucher.items.filter (goesOut voucher)).map (demandOf masters tables voucher)

variable {masters tables voucher}

/-! ## The lots of a line -/

variable (voucher) in
theorem placeAt_injective (line : StockVoucherItem) :
    Function.Injective (placeAt voucher line) := by
  intro left right equal
  exact congrArg Holding.lotId equal

theorem map_filterMap_sublist {α β γ : Type} (entries : List (γ × α)) (pick : γ × α → Option β)
    (key : β → γ) (keeps : ∀ entry item, pick entry = some item → key item = entry.1) :
    ((entries.filterMap pick).map key).Sublist (entries.map Prod.fst) := by
  induction entries with
  | nil => exact .slnil
  | cons entry rest ih =>
      cases picked : pick entry with
      | none =>
          rw [List.filterMap_cons_none picked]
          exact ih.cons _
      | some item =>
          rw [List.filterMap_cons_some picked, List.map_cons, keeps entry item picked]
          exact ih.cons_cons _

variable {line : StockVoucherItem}

variable {lot : PickableLot} {splits : List StockVoucherItem}

/-- A lot that may be picked has a balance with something available. -/
theorem pickable_entry (member : lot ∈ pickableLots masters tables voucher line) :
    (placeAt voucher line lot.lotId, lot.balance) ∈ tables.balances.entries ∧
      0 < lot.balance.availableQty := by
  rw [pickableLots, List.mem_insertionSort, List.mem_filterMap] at member
  obtain ⟨⟨holding, balance⟩, entry, picked⟩ := member
  split at picked
  case isFalse => cases picked
  case isTrue shelf =>
      obtain ⟨company, branch, godown, item, bucket, available⟩ := shelf
      dsimp only at company branch godown item bucket available picked
      split at picked
      case h_2 => cases picked
      case h_1 =>
          split at picked
          case isFalse => cases picked
          case isTrue =>
              cases picked
              have place : placeAt voucher line holding.lotId = holding := by
                rw [placeAt, ← company, ← branch, ← godown, ← item, ← bucket]
              rw [place]
              exact ⟨entry, available⟩

variable (masters voucher) in
theorem pickable_nodup (unique : tables.balances.keys.Nodup) (line : StockVoucherItem) :
    ((pickableLots masters tables voucher line).map fun lot => lot.lotId).Nodup := by
  have places : ((pickableLots masters tables voucher line).map
      fun lot => placeAt voucher line lot.lotId).Nodup := by
    rw [pickableLots]
    apply (((List.perm_insertionSort _ _).map _).nodup_iff).mpr
    apply (map_filterMap_sublist tables.balances.entries _ _ ?_).nodup unique
    intro entry lot picked
    split at picked
    case isFalse => cases picked
    case isTrue shelf =>
        obtain ⟨company, branch, godown, item, bucket, _⟩ := shelf
        split at picked
        case h_2 => cases picked
        case h_1 =>
            split at picked
            case isFalse => cases picked
            case isTrue =>
                cases picked
                rw [placeAt, ← company, ← branch, ← godown, ← item, ← bucket]
  have composed : (pickableLots masters tables voucher line).map
      (fun lot => placeAt voucher line lot.lotId) =
        ((pickableLots masters tables voucher line).map fun lot => lot.lotId).map
          (placeAt voucher line) := by
    rw [List.map_map]
    rfl
  rw [composed] at places
  exact places.of_map _

theorem pickable_sorted (line : StockVoucherItem) :
    (pickableLots masters tables voucher line).Pairwise fun earlier later =>
      sortsBefore (pickOrder (policyOf masters voucher line).issueStrategy earlier)
        (pickOrder (policyOf masters voucher line).issueStrategy later) = true := by
  have total : Std.Total fun left right : PickableLot =>
      sortsBefore (pickOrder (policyOf masters voucher line).issueStrategy left)
        (pickOrder (policyOf masters voucher line).issueStrategy right) = true :=
    ⟨fun _ _ => sortsBefore_total _ _⟩
  have trans : IsTrans PickableLot fun left right =>
      sortsBefore (pickOrder (policyOf masters voucher line).issueStrategy left)
        (pickOrder (policyOf masters voucher line).issueStrategy right) = true :=
    ⟨fun _ _ _ => sortsBefore_trans⟩
  exact List.pairwise_insertionSort _ _

theorem pickable_available (unique : tables.balances.keys.Nodup)
    (member : lot ∈ pickableLots masters tables voucher line) :
    availableAt tables (placeAt voucher line lot.lotId) = lot.balance.availableQty := by
  rw [availableAt, OrderedMap.get?_of_mem unique (pickable_entry member).1]
  rfl

/-! ## The splits of one line -/

theorem pickLine_unpicked (unpicked : ¬isPicked masters tables voucher line = true) :
    pickLine masters tables voucher line = .ok [line] := by
  have refused : (!isPicked masters tables voucher line) = true := by simpa using unpicked
  exact if_pos refused

theorem pickLine_picked (picked : isPicked masters tables voucher line = true)
    (succeeds : pickLine masters tables voucher line = .ok splits) :
    pickableLots masters tables voucher line ≠ [] ∧
      ∃ nextSplitNo, splits = numberSplits nextSplitNo (splitLines line line.freeBaseQty
        (takeFrom (quantity line) (pickableLots masters tables voucher line))) := by
  have passes : ¬(!isPicked masters tables voucher line) = true := by simpa using picked
  unfold pickLine at succeeds
  change (if (!isPicked masters tables voucher line) = true then _ else _) = _ at succeeds
  rw [if_neg passes] at succeeds
  split at succeeds
  · cases succeeds
  split at succeeds
  · cases succeeds
  case h_2 some_lot =>
      cases succeeds
      exact ⟨some_lot, _, rfl⟩

/-- No line of a document that was picked is in error. -/
theorem pickLine_succeeds {lines : List StockVoucherItem}
    (succeeds : pickIssueLots masters tables voucher = .ok lines) (member : line ∈ voucher.items) :
    ∃ splits, pickLine masters tables voucher line = .ok splits := by
  unfold pickIssueLots at succeeds
  dsimp only at succeeds
  split at succeeds
  case isTrue => cases succeeds
  split at succeeds
  case isTrue => cases succeeds
  case isFalse none_failed =>
      cases picked : pickLine masters tables voucher line with
      | ok splits => exact ⟨splits, rfl⟩
      | error problem =>
          exfalso
          apply none_failed
          apply List.ne_nil_of_mem (a := problem)
          rw [List.mem_filterMap]
          exact ⟨_, List.mem_map_of_mem member, by rw [picked]⟩

theorem splitLines_shelf (line : StockVoucherItem) (freeLeft : Decimal)
    (takes : List (StockLot × Uuid × Decimal)) :
    ∀ split ∈ splitLines line freeLeft takes,
      placeAt voucher split = placeAt voucher line ∧ split.lotId.isSome := by
  induction takes generalizing freeLeft with
  | nil => simp [splitLines]
  | cons take rest ih =>
      intro split member
      rw [splitLines] at member
      rcases List.mem_cons.mp member with here | further
      · rw [here]
        exact ⟨rfl, rfl⟩
      · exact ih _ split further

theorem numberSplits_shelf (nextSplitNo : ℕ)
    (shelf : ∀ split ∈ splits, placeAt voucher split = placeAt voucher line ∧ split.lotId.isSome) :
    ∀ split ∈ numberSplits nextSplitNo splits,
      placeAt voucher split = placeAt voucher line ∧ split.lotId.isSome := by
  cases splits with
  | nil => exact shelf
  | cons first rest =>
      intro split member
      rw [numberSplits] at member
      rcases List.mem_cons.mp member with here | further
      · rw [here]
        exact shelf first (List.mem_cons_self ..)
      · rw [List.mem_map] at further
        obtain ⟨⟨origin, splitNo⟩, originMem, rfl⟩ := further
        exact shelf origin (List.mem_cons_of_mem _ (List.fst_mem_of_mem_zipIdx originMem))

section Line

variable {line : StockVoucherItem} (unique : tables.balances.keys.Nodup)
  (magnitudes : 0 ≤ line.baseQty ∧ 0 ≤ line.freeBaseQty)
  (succeeds : ∃ splits, pickLine masters tables voucher line = .ok splits)

include unique magnitudes succeeds

omit unique magnitudes in
/-- The splits of a picked line issue from its shelf, as the walk takes. -/
theorem splitsOf_picked (picked : isPicked masters tables voucher line = true) :
    pickableLots masters tables voucher line ≠ [] ∧
      (∃ nextSplitNo, splitsOf masters tables voucher line = numberSplits nextSplitNo
        (splitLines line line.freeBaseQty
          (takeFrom (quantity line) (pickableLots masters tables voucher line)))) ∧
      ∀ split ∈ splitsOf masters tables voucher line,
        placeOf masters tables voucher split = split.lotId.map (placeAt voucher line) := by
  obtain ⟨splits, result⟩ := succeeds
  obtain ⟨some_lot, nextSplitNo, equal⟩ := pickLine_picked picked result
  have splitsEq : splitsOf masters tables voucher line = splits := by
    rw [splitsOf, result]
  refine ⟨some_lot, ⟨nextSplitNo, splitsEq.trans equal⟩, ?_⟩
  intro split member
  rw [splitsEq, equal] at member
  have shelf : placeAt voucher split = placeAt voucher line ∧ split.lotId.isSome :=
    numberSplits_shelf nextSplitNo (splitLines_shelf line _ _) split member
  obtain ⟨lotId, named⟩ := Option.isSome_iff_exists.mp shelf.2
  rw [placeOf, shelf.1, named]
  rfl

omit unique magnitudes succeeds in
theorem positive_of_picked (picked : isPicked masters tables voucher line = true) :
    0 < quantity line := by
  unfold isPicked at picked
  rw [Bool.and_eq_true, decide_eq_true_eq] at picked
  exact picked.2

omit unique in
/-- The splits of a picked line are all of it, in its strategy's order. -/
theorem splitsWell_of_picked (picked : isPicked masters tables voucher line = true) :
    SplitsWell line (pickableLots masters tables voucher line)
      (splitsOf masters tables voucher line) := by
  obtain ⟨some_lot, ⟨nextSplitNo, splits⟩, _⟩ := splitsOf_picked succeeds picked
  have available : ∀ lot ∈ pickableLots masters tables voucher line,
      0 < lot.balance.availableQty := fun lot member => (pickable_entry member).2
  obtain ⟨full, last, unused, rest, walked⟩ :=
    takeFrom_walked (positive_of_picked picked) some_lot available
  rw [splits]
  exact splitsWell_of_walked magnitudes available nextSplitNo walked

omit unique magnitudes in
/-- The lot and the quantity of each split, as the walk takes them. -/
theorem pairs_of_picked (picked : isPicked masters tables voucher line = true) :
    (splitsOf masters tables voucher line).map (fun split => (split.lotId, quantity split)) =
      (takeFrom (quantity line) (pickableLots masters tables voucher line)).map
        fun take => (some take.2.1, take.2.2) := by
  obtain ⟨_, ⟨nextSplitNo, splits⟩, _⟩ := splitsOf_picked succeeds picked
  have figures := numberSplits_figures nextSplitNo (splitLines line line.freeBaseQty
    (takeFrom (quantity line) (pickableLots masters tables voucher line)))
  have pairs := splitLines_quantity line line.freeBaseQty
    (takeFrom (quantity line) (pickableLots masters tables voucher line))
  have projected := congrArg (List.map fun figure : Option Uuid × Decimal × Decimal =>
    (figure.1, figure.2.1 + figure.2.2)) figures
  rw [List.map_map, List.map_map] at projected
  rw [splits]
  exact projected.trans pairs

omit magnitudes in
theorem takenBy_picked (picked : isPicked masters tables voucher line = true)
    (holding : Holding) :
    takenBy masters tables voucher line holding =
      Draw.drawn (availableAt tables) (quantity line)
        ((pickableLots masters tables voucher line).map fun lot => placeAt voucher line lot.lotId)
        holding := by
  have places := (splitsOf_picked succeeds picked).2.2
  have pairs := pairs_of_picked succeeds picked
  have drawn := sum_takeFrom (placeAt_injective voucher line)
    (fun lot member => pickable_available unique member)
    (fun lot member => (pickable_entry member).2) (positive_of_picked picked).le
    (pickable_nodup masters voucher unique line) holding
  rw [← drawn, takenBy]
  -- Both are read off the pairs of a lot and a quantity.
  have left : ((splitsOf masters tables voucher line).filter fun split =>
      placeOf masters tables voucher split = some holding).map quantity =
      (((splitsOf masters tables voucher line).map fun split =>
        (split.lotId, quantity split)).filter fun pair =>
          pair.1.map (placeAt voucher line) = some holding).map Prod.snd := by
    rw [List.filter_map, List.map_map]
    apply congrArg (List.map quantity)
    apply List.filter_congr
    intro split member
    rw [places split member]
    rfl
  rw [left, pairs, List.filter_map, List.map_map]
  apply congrArg List.sum
  apply congrArg (List.map _)
  apply List.filter_congr
  intro take _
  simp

omit magnitudes succeeds unique in
theorem takenBy_unpicked (unpicked : ¬isPicked masters tables voucher line = true)
    (holding : Holding) :
    takenBy masters tables voucher line holding =
      Draw.drawn (availableAt tables) (quantity line)
        (placeOf masters tables voucher line).toList holding := by
  have splits : splitsOf masters tables voucher line = [line] := by
    rw [splitsOf, pickLine_unpicked unpicked]
  rw [takenBy, splits]
  cases place : placeOf masters tables voucher line with
  | none =>
      rw [List.filter_cons_of_neg (by simp [place])]
      rfl
  | some own =>
      by_cases here : own = holding
      · rw [List.filter_cons_of_pos (by simp [place, here]), here]
        simp [Draw.drawn]
      · rw [List.filter_cons_of_neg (by simp [place, here])]
        simp [Draw.drawn, Ne.symm here]

omit magnitudes in
/-- A line takes of a place what it draws on it. -/
theorem takenBy_eq (holding : Holding) :
    takenBy masters tables voucher line holding =
      Draw.drawn (availableAt tables) (demandOf masters tables voucher line).need
        (demandOf masters tables voucher line).stores holding := by
  rw [demandOf]
  dsimp only
  split
  case isTrue picked => exact takenBy_picked unique succeeds picked holding
  case isFalse unpicked => exact takenBy_unpicked unpicked holding

omit magnitudes succeeds in
theorem demandOf_sound (magnitude : 0 ≤ quantity line) :
    (demandOf masters tables voucher line).Sound (availableAt tables) := by
  constructor
  · exact magnitude
  · rw [demandOf]
    dsimp only
    split
    · have nodup := (pickable_nodup masters voucher unique line).map
        (placeAt_injective voucher line)
      rwa [List.map_map] at nodup
    · cases placeOf masters tables voucher line with
      | none => exact List.nodup_nil
      | some place => exact List.nodup_singleton place
  · intro store member
    rw [demandOf] at member
    dsimp only at member
    split at member
    · have own := List.mem_of_mem_dropLast member
      rw [List.mem_map] at own
      obtain ⟨lot, lotMem, rfl⟩ := own
      rw [pickable_available unique lotMem]
      exact (pickable_entry lotMem).2
    · cases place : placeOf masters tables voucher line with
      | none =>
          rw [place] at member
          cases member
      | some own =>
          rw [place] at member
          cases member

end Line

/-! ## The document -/

section Fair

variable (unique : tables.balances.keys.Nodup)
  (magnitudes : ∀ line ∈ voucher.items, 0 ≤ line.baseQty ∧ 0 ≤ line.freeBaseQty)
  (succeeds : ∀ line ∈ voucher.items, ∃ splits,
    pickLine masters tables voucher line = .ok splits)

include unique magnitudes

theorem demands_sound :
    ∀ demand ∈ demands masters tables voucher, demand.Sound (availableAt tables) := by
  intro demand member
  rw [demands, List.mem_map] at member
  obtain ⟨line, lineMem, rfl⟩ := member
  have magnitude := magnitudes line (List.mem_filter.mp lineMem).1
  exact demandOf_sound unique (add_nonneg magnitude.1 magnitude.2)

include succeeds

omit magnitudes in
theorem takenAt_eq (holding : Holding) :
    takenAt masters tables voucher holding =
      Draw.total (availableAt tables) (demands masters tables voucher) holding := by
  rw [takenAt, Draw.total, demands, List.map_map]
  apply congrArg List.sum
  apply List.map_congr_left
  intro line member
  have lineMem := (List.mem_filter.mp member).1
  exact takenBy_eq unique (succeeds line lineMem) holding

omit magnitudes unique succeeds in
theorem goesOut_of_picked (picked : isPicked masters tables voucher line = true) :
    goesOut voucher line = true := by
  unfold isPicked at picked
  rw [Bool.and_eq_true, Bool.and_eq_true] at picked
  exact picked.1.1

omit unique in
/-- A split of a picked line takes something. -/
theorem takenBy_pos (lineMem : line ∈ voucher.items)
    (picked : isPicked masters tables voucher line = true) {split : StockVoucherItem}
    (member : split ∈ splitsOf masters tables voucher line) {holding : Holding}
    (place : placeOf masters tables voucher split = some holding) :
    0 < takenBy masters tables voucher line holding := by
  have well := splitsWell_of_picked (magnitudes line lineMem) (succeeds line lineMem) picked
  have pairs := pairs_of_picked (succeeds line lineMem) picked
  have available : ∀ lot ∈ pickableLots masters tables voucher line,
      0 < lot.balance.availableQty := fun lot lotMem => (pickable_entry lotMem).2
  have some_lot := (splitsOf_picked (succeeds line lineMem) picked).1
  obtain ⟨full, last, unused, rest, walked⟩ :=
    takeFrom_walked (positive_of_picked picked) some_lot available
  have positive : 0 < quantity split := by
    have figure := List.mem_map_of_mem
      (f := fun split : StockVoucherItem => (split.lotId, quantity split)) member
    rw [pairs, List.mem_map] at figure
    obtain ⟨take, takeMem, equal⟩ := figure
    rw [Prod.mk.injEq] at equal
    rw [← equal.2]
    exact walked.takes_positive available take takeMem
  apply positive.trans_le
  apply List.single_le_sum
  · intro amount amountMem
    rw [List.mem_map] at amountMem
    obtain ⟨other, otherMem, rfl⟩ := amountMem
    have parts := well.nonneg other (List.mem_filter.mp otherMem).1
    exact add_nonneg parts.1 parts.2
  · apply List.mem_map_of_mem
    rw [List.mem_filter, decide_eq_true_eq]
    exact ⟨member, place⟩

theorem shared_iff_fair :
    (∀ line ∈ voucher.items, isPicked masters tables voucher line = true →
      ∀ split ∈ splitsOf masters tables voucher line, ∀ holding,
        placeOf masters tables voucher split = some holding →
        availableAt tables holding < takenAt masters tables voucher holding →
        ∀ lot ∈ pickableLots masters tables voucher line,
          availableAt tables (placeAt voucher line lot.lotId) ≤
            takenAt masters tables voucher (placeAt voucher line lot.lotId)) ↔
      Draw.Fair (availableAt tables) (demands masters tables voucher) := by
  have totals := takenAt_eq unique succeeds
  constructor
  · intro shared demand demandMem store draws overdrawn other otherMem
    rw [demands, List.mem_map] at demandMem
    obtain ⟨line, lineMem, rfl⟩ := demandMem
    rw [List.mem_filter] at lineMem
    rw [← takenBy_eq unique (succeeds line lineMem.1)] at draws
    rw [← totals] at overdrawn ⊢
    by_cases picked : isPicked masters tables voucher line = true
    · -- Something is drawn on the store, so some split of the line issues from it.
      have issued : ∃ split ∈ splitsOf masters tables voucher line,
          placeOf masters tables voucher split = some store := by
        by_contra none
        push Not at none
        have empty : (splitsOf masters tables voucher line).filter (fun split =>
            placeOf masters tables voucher split = some store) = [] := by
          rw [List.filter_eq_nil_iff]
          intro split member issues
          exact none split member (of_decide_eq_true issues)
        rw [takenBy, empty] at draws
        exact lt_irrefl _ draws
      obtain ⟨split, member, place⟩ := issued
      rw [demandOf] at otherMem
      dsimp only at otherMem
      rw [if_pos picked, List.mem_map] at otherMem
      obtain ⟨lot, lotMem, rfl⟩ := otherMem
      exact shared line lineMem.1 picked split member store place overdrawn lot lotMem
    · have drawn := takenBy_eq unique (succeeds line lineMem.1) store
      rw [drawn, demandOf] at draws
      dsimp only at draws
      rw [if_neg picked] at draws
      rw [demandOf] at otherMem
      dsimp only at otherMem
      rw [if_neg picked] at otherMem
      have storeMem : store ∈ (placeOf masters tables voucher line).toList := by
        by_contra absent
        rw [drawn_of_not_mem absent] at draws
        exact lt_irrefl _ draws
      rw [Option.mem_toList] at storeMem otherMem
      have same : other = store := Option.mem_unique otherMem storeMem
      rw [same]
      exact overdrawn.le
  · intro fair line lineMem picked split member holding place overdrawn lot lotMem
    have draws := takenBy_pos magnitudes succeeds lineMem picked member place
    rw [takenBy_eq unique (succeeds line lineMem)] at draws
    rw [totals] at overdrawn ⊢
    apply fair (demandOf masters tables voucher line) _ holding draws overdrawn
    · rw [demandOf]
      dsimp only
      rw [if_pos picked]
      exact List.mem_map_of_mem (f := fun lot : PickableLot => placeAt voucher line lot.lotId) lotMem
    · rw [demands]
      apply List.mem_map_of_mem
      rw [List.mem_filter]
      exact ⟨lineMem, goesOut_of_picked picked⟩

end Fair

/-- A document that is picked is picked greedily as a whole exactly when what its lines reach
into every lot short of a line's last fits into it, or fills all the lots of the line. -/
theorem picksGreedily_iff (masters : StockMasters) (tables : StockTables) (voucher : StockVoucher)
    (unique : tables.balances.keys.Nodup)
    (magnitudes : ∀ line ∈ voucher.items, 0 ≤ line.baseQty ∧ 0 ≤ line.freeBaseQty)
    {lines : List StockVoucherItem}
    (succeeds : pickIssueLots masters tables voucher = .ok lines) :
    PicksGreedily masters tables voucher ↔
      Draw.Fits (availableAt tables) (demands masters tables voucher) := by
  have each : ∀ line ∈ voucher.items, ∃ splits,
      pickLine masters tables voucher line = .ok splits :=
    fun line member => pickLine_succeeds succeeds member
  rw [← Draw.fair_iff_fits (demands_sound unique magnitudes),
    ← shared_iff_fair unique magnitudes each]
  constructor
  · intro greedy
    exact greedy.shared
  · intro shared
    refine ⟨?_, shared⟩
    intro line member picked
    exact ⟨splitsWell_of_picked (magnitudes line member) (each line member) picked,
      pickable_sorted line⟩

end Document

/-! ## Two lines of one item -/

/-- Everything is tracked by batch and issued by expiry. -/
def batchMasters : StockMasters where
  policy _ _ _ _ := { StockTrackPolicy.noPolicy with trackBatch := true }
  itemTaxPerc _ _ := none
  lotIdentityUuid _ _ _ := 0

def batchLot (batchNo : String) (expiryDate : Date) : StockLot where
  companyId := 31
  itemId := 46
  key := ⟨batchNo, -1, -1, -719162, "~", 0⟩
  batchNo := some batchNo
  mrp := none
  salePrice := none
  expiryDate := some expiryDate
  serialNo := none
  supplierId := none
  costRate := 18
  costRateWot := 18
  createdOn := 20000
  totalOnHand := 10
  status := .ACTIVE
  closedOn := none

/-- Two batches of ten in one godown, the first of which expires first. -/
def twoBatches : StockTables where
  vouchers := .empty
  ledger := []
  balances := ⟨[(⟨31, 32, 33, 46, 501, .SALEABLE⟩, { StockBalance.opened with inQty := 10 }),
    (⟨31, 32, 33, 46, 502, .SALEABLE⟩, { StockBalance.opened with inQty := 10 })]⟩
  itemCosts := .empty
  lots := ⟨[(501, batchLot "B-1" 20700), (502, batchLot "B-2" 20800)]⟩
  transit := []
  reservations := []
  revaluations := []

/-- A line that names no batch, one of its pieces free. -/
def unnamedLine (lineNo : ℕ) (baseQty : Decimal) : StockVoucherItem where
  lineNo
  splitNo := 1
  itemId := 46
  lotId := none
  godownId := 33
  bucket := .SALEABLE
  toBucket := none
  batchNo := none
  mrp := none
  salePrice := none
  expiryDate := none
  serialNo := none
  supplierId := none
  baseQty
  freeBaseQty := 1
  diffQty := none
  costRate := 18
  costRateWot := 18
  taxPerc := none
  direction := none
  reason := none

theorem issue_typed : [StockTxnType.SAMPLE_ISSUE] ≠ [] := List.cons_ne_nil _ _

theorem issue_counted : StockQuantityMode.QTY = .COUNT ↔ StockPostShape.SIMPLE = .COUNT := by decide

theorem issue_despatched :
    StockVoucherType.ISSUE = .TRANSFER_OUT ↔ StockPostShape.SIMPLE = .TRANSFER_OUT := by decide

theorem issue_received :
    StockVoucherType.ISSUE = .TRANSFER_IN ↔ StockPostShape.SIMPLE = .TRANSFER_IN := by decide

def issueOf (items : List StockVoucherItem) : StockVoucher where
  rules :=
    { voucherType := .ISSUE
      isInward := false
      ledgerTxnTypes := [.SAMPLE_ISSUE]
      quantityMode := .QTY
      lineDirection := .DOCUMENT
      defaultRateSource := none
      blockNegative := false
      postShape := .SIMPLE
      typed := issue_typed
      counted := issue_counted
      despatched := issue_despatched
      received := issue_received }
  companyId := 31
  branchId := 32
  docDate := 20600
  docDatetime := 20600
  rateSource := none
  reason := none
  toGodownId := none
  toBranchId := none
  linkSrcDocId := none
  status := .DRAFT
  isDeleted := false
  items

theorem twoBatches_unique : twoBatches.balances.keys.Nodup := by decide +kernel

/-- One line of twelve takes the first batch and two of the second. -/
theorem oneLine_greedy :
    PicksGreedily batchMasters twoBatches (issueOf [unnamedLine 1 11]) := by
  have picked : (pickIssueLots batchMasters twoBatches (issueOf [unnamedLine 1 11])).toOption.isSome
      = true := by decide +kernel
  cases result : pickIssueLots batchMasters twoBatches (issueOf [unnamedLine 1 11]) with
  | error problem =>
      rw [result] at picked
      cases picked
  | ok lines =>
      apply (picksGreedily_iff batchMasters twoBatches (issueOf [unnamedLine 1 11])
        twoBatches_unique ?_ result).mpr
      · unfold Draw.Fits
        decide +kernel
      · intro line member
        rw [List.mem_singleton.mp member]
        decide +kernel

/-- Two lines of eight take sixteen of the first batch, and nothing of the second. -/
theorem twoLines_overdraw :
    takenAt batchMasters twoBatches (issueOf [unnamedLine 1 7, unnamedLine 2 7])
        ⟨31, 32, 33, 46, 501, .SALEABLE⟩ = 16 ∧
      takenAt batchMasters twoBatches (issueOf [unnamedLine 1 7, unnamedLine 2 7])
        ⟨31, 32, 33, 46, 502, .SALEABLE⟩ = 0 ∧
      ¬PicksGreedily batchMasters twoBatches (issueOf [unnamedLine 1 7, unnamedLine 2 7]) := by
  have first : takenAt batchMasters twoBatches (issueOf [unnamedLine 1 7, unnamedLine 2 7])
      ⟨31, 32, 33, 46, 501, .SALEABLE⟩ = 16 := by decide +kernel
  have second : takenAt batchMasters twoBatches (issueOf [unnamedLine 1 7, unnamedLine 2 7])
      ⟨31, 32, 33, 46, 502, .SALEABLE⟩ = 0 := by decide +kernel
  refine ⟨first, second, ?_⟩
  intro greedy
  have issued : ∃ split ∈ splitsOf batchMasters twoBatches
      (issueOf [unnamedLine 1 7, unnamedLine 2 7]) (unnamedLine 1 7),
      placeOf batchMasters twoBatches (issueOf [unnamedLine 1 7, unnamedLine 2 7]) split =
        some ⟨31, 32, 33, 46, 501, .SALEABLE⟩ := by decide +kernel
  have eligible : ∃ lot ∈ pickableLots batchMasters twoBatches
      (issueOf [unnamedLine 1 7, unnamedLine 2 7]) (unnamedLine 1 7), lot.lotId = 502 := by
    decide +kernel
  obtain ⟨split, splitMem, place⟩ := issued
  obtain ⟨lot, lotMem, second_batch⟩ := eligible
  have used := greedy.shared (unnamedLine 1 7) (List.mem_cons_self ..) (by decide +kernel) split
    splitMem _ place (by rw [first]; decide +kernel) lot lotMem
  rw [second_batch] at used
  change availableAt twoBatches ⟨31, 32, 33, 46, 502, .SALEABLE⟩ ≤ takenAt _ _ _
    ⟨31, 32, 33, 46, 502, .SALEABLE⟩ at used
  rw [second] at used
  exact absurd used (by decide +kernel)

end ErpServer.Stock
