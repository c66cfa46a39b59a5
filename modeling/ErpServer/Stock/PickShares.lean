import ErpServer.Lib.Draw
import ErpServer.Stock.Picking

/-!
# The splits of a picked line

The lots of a line in the order of its strategy, what the walk takes of each, and the
splits the takes become: together the quantity of the line, its free quantity first.
-/

namespace ErpServer.Stock

open Lib
open Receipt (Decimal)

/-! ## The order of a strategy -/

theorem sortsBefore_total (left right : List (Option Date)) :
    sortsBefore left right = true ∨ sortsBefore right left = true := by
  induction left generalizing right with
  | nil => exact .inl rfl
  | cons first rest ih =>
      cases right with
      | nil => exact .inr rfl
      | cons second others =>
          cases first with
          | none =>
              cases second with
              | none => exact ih others
              | some later => exact .inr rfl
          | some earlier =>
              cases second with
              | none => exact .inl rfl
              | some later =>
                  simp only [sortsBefore, Bool.or_eq_true, Bool.and_eq_true, decide_eq_true_eq]
                  rcases lt_trichotomy earlier later with before | same | after
                  · exact .inl (.inl before)
                  · rcases ih others with found | found
                    · exact .inl (.inr ⟨same, found⟩)
                    · exact .inr (.inr ⟨same.symm, found⟩)
                  · exact .inr (.inl after)

theorem sortsBefore_trans {left middle right : List (Option Date)}
    (first : sortsBefore left middle = true) (second : sortsBefore middle right = true) :
    sortsBefore left right = true := by
  induction left generalizing middle right with
  | nil => rfl
  | cons a rest ih =>
      cases middle with
      | nil => cases a <;> cases first
      | cons b others =>
          cases right with
          | nil => cases b <;> cases second
          | cons c more =>
              cases a with
              | none =>
                  cases b with
                  | none =>
                      cases c with
                      | none => exact ih first second
                      | some later => cases second
                  | some later => cases first
              | some earlier =>
                  cases c with
                  | none => rfl
                  | some later =>
                      cases b with
                      | none => cases second
                      | some between =>
                          simp only [sortsBefore, Bool.or_eq_true, Bool.and_eq_true,
                            decide_eq_true_eq] at first second ⊢
                          rcases first with before | ⟨same, firstRest⟩
                          · rcases second with further | ⟨same, _⟩
                            · exact .inl (before.trans further)
                            · exact .inl (same ▸ before)
                          · rcases second with further | ⟨again, secondRest⟩
                            · exact .inl (same ▸ further)
                            · exact .inr ⟨same.trans again, ih firstRest secondRest⟩

/-! ## The walk of the lots -/

/-- The lots a walk uses: some in full, and the last of them as far as it is needed, the very
last lot taking whatever is left. -/
structure Walked (need : Decimal) (lots : List PickableLot)
    (takes : List (StockLot × Uuid × Decimal)) (full : List PickableLot) (last : PickableLot)
    (unused : List PickableLot) (rest : Decimal) : Prop where
  lots_eq : lots = full ++ last :: unused
  takes_eq : takes = (full.map fun lot => (lot.lot, lot.lotId, lot.balance.availableQty)) ++
    [(last.lot, last.lotId, rest)]
  rest_eq : rest = need - (full.map fun lot => lot.balance.availableQty).sum
  positive : 0 < rest
  within : unused ≠ [] → rest ≤ last.balance.availableQty

theorem takeFrom_walked {need : Decimal} (positive : 0 < need) {lots : List PickableLot}
    (some_lot : lots ≠ []) (available : ∀ lot ∈ lots, 0 < lot.balance.availableQty) :
    ∃ full last unused rest, Walked need lots (takeFrom need lots) full last unused rest := by
  induction lots generalizing need with
  | nil => exact absurd rfl some_lot
  | cons lot others ih =>
      have room := available lot (List.mem_cons_self ..)
      cases others with
      | nil =>
          refine ⟨[], lot, [], need, rfl, ?_, (sub_zero need).symm, positive, fun absent =>
            absurd rfl absent⟩
          exact if_neg (not_le.mpr positive)
      | cons next more =>
          have step : takeFrom need (lot :: next :: more) =
              (lot.lot, lot.lotId, min need lot.balance.availableQty) ::
                takeFrom (need - min need lot.balance.availableQty) (next :: more) := by
            rw [takeFrom, if_neg (not_le.mpr positive)]
            exact if_neg (not_le.mpr (lt_min positive room))
          rcases le_or_gt need lot.balance.availableQty with enough | short
          · refine ⟨[], lot, next :: more, need, rfl, ?_, (sub_zero need).symm, positive,
              fun _ => enough⟩
            rw [step, min_eq_left enough, sub_self]
            have dry : takeFrom 0 (next :: more) = [] := by
              cases more with
              | nil => exact if_pos le_rfl
              | cons _ _ => exact if_pos le_rfl
            rw [dry]
            rfl
          · have left : 0 < need - lot.balance.availableQty := sub_pos.mpr short
            have further := ih left (List.cons_ne_nil _ _)
              (fun other member => available other (List.mem_cons_of_mem _ member))
            obtain ⟨full, last, unused, rest, walked⟩ := further
            refine ⟨lot :: full, last, unused, rest, ?_, ?_, ?_, walked.positive, walked.within⟩
            · rw [walked.lots_eq]
              rfl
            · rw [step, min_eq_right short.le, walked.takes_eq]
              rfl
            · rw [walked.rest_eq, List.map_cons, List.sum_cons, sub_sub]

section Drawn

variable {room : Holding → Decimal} {place : Uuid → Holding}

variable {stores : List Holding}

theorem drawn_of_not_mem {left : Decimal} {query : Holding} (absent : query ∉ stores) :
    Draw.drawn room left stores query = 0 := by
  induction stores generalizing left with
  | nil => rfl
  | cons store rest ih =>
      rw [List.mem_cons, not_or] at absent
      cases rest with
      | nil => exact if_neg absent.1
      | cons next more =>
          rw [Draw.drawn, if_neg absent.1]
          exact ih absent.2

theorem drawn_dry (rooms : ∀ store ∈ stores, 0 < room store) (query : Holding) :
    Draw.drawn room 0 stores query = 0 := by
  induction stores with
  | nil => rfl
  | cons store rest ih =>
      have positive := rooms store (List.mem_cons_self ..)
      have later := ih fun other member => rooms other (List.mem_cons_of_mem _ member)
      cases rest with
      | nil =>
          rw [Draw.drawn]
          split <;> rfl
      | cons next more =>
          rw [Draw.drawn, min_eq_left positive.le, sub_self, later]
          split <;> rfl

/-- What a walk takes of one lot is what it draws on its place. -/
theorem sum_takeFrom (apart : Function.Injective place) {need : Decimal} {lots : List PickableLot}
    (rooms : ∀ lot ∈ lots, room (place lot.lotId) = lot.balance.availableQty)
    (available : ∀ lot ∈ lots, 0 < lot.balance.availableQty) (nonneg : 0 ≤ need)
    (nodup : (lots.map fun lot => lot.lotId).Nodup) (query : Holding) :
    (((takeFrom need lots).filter fun take => place take.2.1 = query).map
        fun take => take.2.2).sum =
      Draw.drawn room need (lots.map fun lot => place lot.lotId) query := by
  induction lots generalizing need with
  | nil => rfl
  | cons lot others ih =>
      have own := rooms lot (List.mem_cons_self ..)
      have positive := available lot (List.mem_cons_self ..)
      have laterRooms : ∀ store ∈ others.map (fun lot => place lot.lotId), 0 < room store := by
        intro store member
        rw [List.mem_map] at member
        obtain ⟨other, otherMem, rfl⟩ := member
        rw [rooms other (List.mem_cons_of_mem _ otherMem)]
        exact available other (List.mem_cons_of_mem _ otherMem)
      rw [List.map_cons, List.nodup_cons] at nodup
      cases others with
      | nil =>
          rw [takeFrom, List.map_singleton, Draw.drawn]
          rcases nonneg.eq_or_lt with dry | some_left
          · rw [← dry, if_pos le_rfl]
            split <;> rfl
          · rw [if_neg (not_le.mpr some_left)]
            by_cases here : place lot.lotId = query
            · simp [here]
            · simp [here, Ne.symm here]
      | cons next more =>
          have step := @ih (need - min need lot.balance.availableQty)
            (fun other member => rooms other (List.mem_cons_of_mem _ member))
            (fun other member => available other (List.mem_cons_of_mem _ member))
            (sub_nonneg.mpr (min_le_left _ _)) nodup.2
          have walk : Draw.drawn room need ((lot :: next :: more).map fun lot => place lot.lotId)
              query = if query = place lot.lotId then min need lot.balance.availableQty
                else Draw.drawn room (need - min need lot.balance.availableQty)
                  ((next :: more).map fun lot => place lot.lotId) query := by
            rw [← own]
            rfl
          rw [walk]
          rcases nonneg.eq_or_lt with dry | some_left
          · rw [← dry, takeFrom, if_pos le_rfl, min_eq_left positive.le, sub_self,
              drawn_dry laterRooms]
            split <;> rfl
          · have taken : takeFrom need (lot :: next :: more) =
                (lot.lot, lot.lotId, min need lot.balance.availableQty) ::
                  takeFrom (need - min need lot.balance.availableQty) (next :: more) := by
              rw [takeFrom, if_neg (not_le.mpr some_left)]
              exact if_neg (not_le.mpr (lt_min some_left positive))
            rw [taken]
            by_cases here : place lot.lotId = query
            · have absent : query ∉ (next :: more).map fun lot => place lot.lotId := by
                intro member
                rw [List.mem_map] at member
                obtain ⟨other, otherMem, equal⟩ := member
                apply nodup.1
                rw [← apart (equal.trans here.symm)]
                exact List.mem_map_of_mem otherMem
              rw [drawn_of_not_mem absent] at step
              rw [List.filter_cons_of_pos (by simpa using here), List.map_cons, List.sum_cons,
                step, add_zero, if_pos here.symm]
            · rw [List.filter_cons_of_neg (by simpa using here), step, if_neg (Ne.symm here)]

end Drawn

/-! ## The splits -/

def quantity (line : StockVoucherItem) : Decimal := line.baseQty + line.freeBaseQty

/-- What the splits of a line are to the lots it may issue from. -/
structure SplitsWell (line : StockVoucherItem) (lots : List PickableLot)
    (splits : List StockVoucherItem) : Prop where
  base : (splits.map fun split => split.baseQty).sum = line.baseQty
  free : (splits.map fun split => split.freeBaseQty).sum = line.freeBaseQty
  nonneg : ∀ split ∈ splits, 0 ≤ split.baseQty ∧ 0 ≤ split.freeBaseQty
  /-- No quantity is sold before the free quantity is given out. -/
  freeFirst : splits.Pairwise fun earlier later =>
    earlier.baseQty = 0 ∨ later.freeBaseQty = 0
  /-- The lots are used from the first on, each but the last of them in full. -/
  inOrder : ∃ full last unused, lots = full ++ last :: unused ∧
    splits.map (fun split => split.lotId) = (full ++ [last]).map (fun lot => some lot.lotId) ∧
    (splits.take full.length).map quantity = full.map fun lot => lot.balance.availableQty

theorem splitLines_quantity (line : StockVoucherItem) (freeLeft : Decimal)
    (takes : List (StockLot × Uuid × Decimal)) :
    (splitLines line freeLeft takes).map (fun split => (split.lotId, quantity split)) =
      takes.map fun take => (some take.2.1, take.2.2) := by
  induction takes generalizing freeLeft with
  | nil => rfl
  | cons take rest ih =>
      rw [splitLines, List.map_cons, List.map_cons, ih]
      congr 1
      exact Prod.ext rfl (sub_add_cancel _ _)

/-- The free quantity is handed out from the first split on. -/
theorem splitLines_free (line : StockVoucherItem) {freeLeft : Decimal}
    {takes : List (StockLot × Uuid × Decimal)} (nonneg : 0 ≤ freeLeft)
    (positive : ∀ take ∈ takes, 0 < take.2.2) :
    ((splitLines line freeLeft takes).map fun split => split.freeBaseQty).sum =
        min freeLeft (takes.map fun take => take.2.2).sum ∧
      (∀ split ∈ splitLines line freeLeft takes, 0 ≤ split.baseQty ∧ 0 ≤ split.freeBaseQty) ∧
      (freeLeft = 0 → ∀ split ∈ splitLines line freeLeft takes, split.freeBaseQty = 0) ∧
      (splitLines line freeLeft takes).Pairwise fun earlier later =>
        earlier.baseQty = 0 ∨ later.freeBaseQty = 0 := by
  induction takes generalizing freeLeft with
  | nil => exact ⟨(min_eq_right nonneg).symm, by simp [splitLines], by simp [splitLines], .nil⟩
  | cons take rest ih =>
      have own := positive take (List.mem_cons_self ..)
      have later := @ih (freeLeft - min freeLeft take.2.2)
        (sub_nonneg.mpr (min_le_left _ _))
        fun other member => positive other (List.mem_cons_of_mem _ member)
      obtain ⟨sum, each, dry, first⟩ := later
      have restNonneg : 0 ≤ (rest.map fun take => take.2.2).sum := by
        apply List.sum_nonneg
        intro amount member
        rw [List.mem_map] at member
        obtain ⟨other, otherMem, rfl⟩ := member
        exact (positive other (List.mem_cons_of_mem _ otherMem)).le
      obtain ⟨lot, lotId, qty⟩ := take
      dsimp only at own sum each dry first
      rw [splitLines]
      refine ⟨?_, ?_, ?_, ?_⟩
      · rw [List.map_cons, List.sum_cons, sum, List.map_cons, List.sum_cons]
        change min freeLeft qty + _ = _
        rcases le_total freeLeft qty with short | enough
        · rw [min_eq_left short, sub_self, min_eq_left restNonneg, add_zero,
            min_eq_left (short.trans (le_add_of_nonneg_right restNonneg))]
        · rw [min_eq_right enough, ← min_add_add_left, add_sub_cancel]
      · intro split member
        rcases List.mem_cons.mp member with here | further
        · rw [here]
          exact ⟨sub_nonneg.mpr (min_le_right _ _), le_min nonneg own.le⟩
        · exact each split further
      · intro none split member
        rcases List.mem_cons.mp member with here | further
        · rw [here]
          change min freeLeft qty = 0
          rw [none]
          exact min_eq_left own.le
        · apply dry _ split further
          rw [none, min_eq_left own.le, sub_self]
      · rw [List.pairwise_cons]
        refine ⟨?_, first⟩
        intro split member
        change qty - min freeLeft qty = 0 ∨ _
        rcases le_total freeLeft qty with short | enough
        · right
          apply dry _ split member
          rw [min_eq_left short, sub_self]
        · left
          rw [min_eq_right enough, sub_self]

/-- Renumbering leaves the lots and the quantities of the splits. -/
theorem numberSplits_figures (nextSplitNo : ℕ) (splits : List StockVoucherItem) :
    (numberSplits nextSplitNo splits).map (fun split =>
        (split.lotId, split.baseQty, split.freeBaseQty)) =
      splits.map fun split => (split.lotId, split.baseQty, split.freeBaseQty) := by
  cases splits with
  | nil => rfl
  | cons first rest =>
      rw [numberSplits, List.map_cons, List.map_cons, List.map_map]
      congr 1
      calc _ = (rest.zipIdx nextSplitNo).map
            ((fun split => (split.lotId, split.baseQty, split.freeBaseQty)) ∘ Prod.fst) := rfl
        _ = _ := by rw [← List.map_map, List.zipIdx_map_fst]

section SplitsWell

variable {line : StockVoucherItem} {lots : List PickableLot} {full unused : List PickableLot}
variable {last : PickableLot} {rest : Decimal}

variable {need : Decimal} {takes : List (StockLot × Uuid × Decimal)}

theorem Walked.sum_takes (walked : Walked need lots takes full last unused rest) :
    (takes.map fun take => take.2.2).sum = need := by
  have parts : (takes.map fun take => take.2.2) =
      (full.map fun lot => lot.balance.availableQty) ++ [rest] := by
    rw [walked.takes_eq, List.map_append, List.map_map]
    rfl
  rw [parts, List.sum_append, List.sum_singleton, walked.rest_eq, add_sub_cancel]

theorem Walked.takes_positive (walked : Walked need lots takes full last unused rest)
    (available : ∀ lot ∈ lots, 0 < lot.balance.availableQty) : ∀ take ∈ takes, 0 < take.2.2 := by
  intro take member
  rw [walked.takes_eq, List.mem_append] at member
  rcases member with inFull | isLast
  · rw [List.mem_map] at inFull
    obtain ⟨lot, lotMem, rfl⟩ := inFull
    apply available lot
    rw [walked.lots_eq]
    exact List.mem_append_left _ lotMem
  · rw [List.mem_singleton.mp isLast]
    exact walked.positive

/-- The takes of a line become splits that are all of it. -/
theorem splitsWell_of_walked (magnitudes : 0 ≤ line.baseQty ∧ 0 ≤ line.freeBaseQty)
    (available : ∀ lot ∈ lots, 0 < lot.balance.availableQty) (nextSplitNo : ℕ)
    (walked : Walked (quantity line) lots (takeFrom (quantity line) lots) full last unused rest) :
    SplitsWell line lots (numberSplits nextSplitNo
      (splitLines line line.freeBaseQty (takeFrom (quantity line) lots))) := by
  have handed := splitLines_free line magnitudes.2 (walked.takes_positive available)
  rw [walked.sum_takes] at handed
  obtain ⟨free, each, _, first⟩ := handed
  have figures := numberSplits_figures nextSplitNo
    (splitLines line line.freeBaseQty (takeFrom (quantity line) lots))
  have pairs := splitLines_quantity line line.freeBaseQty (takeFrom (quantity line) lots)
  generalize splitLines line line.freeBaseQty (takeFrom (quantity line) lots) = plain
    at free each first figures pairs ⊢
  generalize numberSplits nextSplitNo plain = splits at figures ⊢
  have frees : splits.map (fun split => split.freeBaseQty) =
      plain.map fun split => split.freeBaseQty := by
    have projected := congrArg (List.map fun figure : Option Uuid × Decimal × Decimal =>
      figure.2.2) figures
    rwa [List.map_map, List.map_map] at projected
  have quantities : splits.map (fun split => (split.lotId, quantity split)) =
      (takeFrom (quantity line) lots).map fun take => (some take.2.1, take.2.2) := by
    have projected := congrArg (List.map fun figure : Option Uuid × Decimal × Decimal =>
      (figure.1, figure.2.1 + figure.2.2)) figures
    rw [List.map_map, List.map_map] at projected
    exact projected.trans pairs
  have freeTotal : (splits.map fun split => split.freeBaseQty).sum = line.freeBaseQty := by
    rw [frees, free]
    exact min_eq_left (le_add_of_nonneg_left magnitudes.1)
  have mapped : splits.map (fun split => (split.lotId, quantity split)) =
      (full.map fun lot => (some lot.lotId, lot.balance.availableQty)) ++
        [(some last.lotId, rest)] := by
    rw [quantities, walked.takes_eq, List.map_append, List.map_map]
    rfl
  constructor
  · have whole : (splits.map quantity).sum = quantity line := by
      have seconds := congrArg (fun pairs => (pairs.map Prod.snd).sum) quantities
      rw [List.map_map, List.map_map] at seconds
      exact seconds.trans walked.sum_takes
    have parted : (splits.map quantity).sum = (splits.map fun split => split.baseQty).sum +
        (splits.map fun split => split.freeBaseQty).sum := List.sum_map_add
    rw [parted, freeTotal] at whole
    exact add_right_cancel whole
  · exact freeTotal
  · intro split member
    have figure := List.mem_map_of_mem
      (f := fun split : StockVoucherItem => (split.lotId, split.baseQty, split.freeBaseQty)) member
    rw [figures, List.mem_map] at figure
    obtain ⟨origin, originMem, equal⟩ := figure
    have parts := each origin originMem
    simp only [Prod.mk.injEq] at equal
    rwa [equal.2.1, equal.2.2] at parts
  · have onFigures : (plain.map fun split =>
        (split.lotId, split.baseQty, split.freeBaseQty)).Pairwise
          fun earlier later => earlier.2.1 = 0 ∨ later.2.2 = 0 := by
      rw [List.pairwise_map]
      exact first
    rw [← figures, List.pairwise_map] at onFigures
    exact onFigures
  · refine ⟨full, last, unused, walked.lots_eq, ?_, ?_⟩
    · have firsts := congrArg (List.map Prod.fst) mapped
      rw [List.map_map, List.map_append, List.map_map] at firsts
      rw [List.map_append]
      exact firsts
    · have seconds := congrArg (List.map Prod.snd) mapped
      rw [List.map_map, List.map_append, List.map_map] at seconds
      have quantitiesEq : splits.map quantity =
          (full.map fun lot => lot.balance.availableQty) ++ [rest] := seconds
      rw [List.map_take, quantitiesEq]
      exact List.take_left' (List.length_map _)

end SplitsWell

end ErpServer.Stock
