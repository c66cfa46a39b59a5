import ErpServer.Loyalty.LotBalance

/-!
# Every history keeps the lots

Each movement composes a batch the ledger takes, so every wallet a history leads to
holds what its lots hold, and a draw that passed its check always finds its points.
-/

namespace ErpServer.Loyalty

open Lib
open Receipt (Decimal)

/-! ## Batches of draws -/

/-- What a row draws on a lot: no more than the lot has left. -/
structure Draws (wallets : Wallets) (lot : LedgerRow) (row : LoyaltyLedgerRowInput) : Prop where
  member : lot ∈ wallets.ledger
  isLot : IsLot lot.toLoyaltyLedgerRowInput
  names : row.lot = some lot.key
  same : row.memberId = lot.memberId
  original : row.reversalOf = none
  type : row.txnType ≠ .EARN
  spends : row.points ≤ 0
  within : -lot.lotBalance ≤ row.points

variable {row : LoyaltyLedgerRowInput} {after wallets : Wallets}

variable {lot : LedgerRow} {rows : List LoyaltyLedgerRowInput} {companyId memberId : String}
variable {input : LoyaltyAdjustInput}

/-- Storing a draw at four places keeps it within its lot. -/
theorem Draws.stored (sound : Sound wallets) (draws : Draws wallets lot row) :
    Draws wallets lot (stored row) := by
  have rounded : round4 row.points = -round4 (-row.points) := by
    unfold round4
    rw [Grid.halfUp_neg, neg_neg]
  have nonneg : 0 ≤ -row.points := neg_nonneg.mpr draws.spends
  have most : -row.points ≤ lot.lotBalance := by
    have within := draws.within
    linarith
  refine ⟨draws.member, draws.isLot, draws.names, draws.same, draws.original, draws.type, ?_, ?_⟩
  · have positive := Grid.halfUp_nonneg fourPlaces_pos nonneg
    change round4 row.points ≤ 0
    rw [rounded]
    exact neg_nonpos.mpr positive
  · have kept := Grid.halfUp_le_of_mem fourPlaces_pos nonneg most
      (sound.lotBalance_mem draws.member draws.isLot)
    change -lot.lotBalance ≤ round4 row.points
    rw [rounded]
    exact neg_le_neg kept

/-- A batch of rows of one sort, which storing them at four places keeps. -/
theorem batch_sound (sound : Sound wallets) {sort : LoyaltyLedgerRowInput → Prop}
    (stays : ∀ row, sort row → sort (stored row)) (each : ∀ row ∈ rows, sort row)
    (fits : (∀ row ∈ rows.map stored, row.points ≠ 0) → (∀ row ∈ rows.map stored, sort row) →
      Fits wallets.entries (rows.map stored))
    (written : writeLedgerRows wallets rows = .ok after) : Sound after := by
  apply writeLedgerRows_sound sound _ written
  intro checked
  apply fits
  · intro row member
    obtain ⟨input, inputMember, rfl⟩ := List.mem_map.mp member
    exact (checked input inputMember).1
  · intro row member
    obtain ⟨input, inputMember, rfl⟩ := List.mem_map.mp member
    exact stays input (each input inputMember)

/-- A lot gives what a batch takes of which one row at most takes from it, and that no more
than is left. -/
theorem Sound.gives (sound : Sound wallets) {lot : LedgerEntry} (lotMem : lot ∈ wallets.entries)
    (isLot : IsLot lot.toLoyaltyLedgerRowInput)
    (within : ∀ row ∈ rows, ownerOf row = some lot.key →
      -(lot.points - consumedFrom wallets.entries lot.key) ≤ row.points)
    (one : (rows.filter fun row => ownerOf row = some lot.key).Pairwise fun earlier later =>
      0 ≤ earlier.points ∨ 0 ≤ later.points) :
    consumedFrom wallets.entries lot.key ≤ lot.points + against rows lot.key := by
  have bound : 0 ≤ lot.points - consumedFrom wallets.entries lot.key :=
    sub_nonneg.mpr (sound.left lot lotMem isLot)
  have least : -(lot.points - consumedFrom wallets.entries lot.key) ≤ against rows lot.key := by
    apply ListSum.neg_le_sum_of_one bound _ one
    intro row member
    rw [List.mem_filter, decide_eq_true_eq] at member
    exact within row member.1 member.2
  linarith

/-- Draws on different lots fit. -/
theorem fits_of_draws (sound : Sound wallets) (nonzero : ∀ row ∈ rows, row.points ≠ 0)
    (distinct : (rows.map fun row => row.lot).Nodup)
    (draws : ∀ row ∈ rows, ∃ lot, Draws wallets lot row) : Fits wallets.entries rows := by
  constructor
  · intro row member
    obtain ⟨lot, drawn⟩ := draws row member
    exact .draws lot.toLedgerEntry (mem_entries drawn.member) drawn.isLot drawn.names drawn.same
      (lt_of_le_of_ne drawn.spends (nonzero row member)) drawn.original drawn.type
  · intro row member reverses
    obtain ⟨lot, drawn⟩ := draws row member
    exact (reverses (by simp [reversedId, drawn.original])).elim
  · apply List.pairwise_of_forall_mem_list
    intro earlier _ later laterMember reverses
    obtain ⟨lot, drawn⟩ := draws later laterMember
    exact (reverses (by simp [reversedId, drawn.original])).elim
  · intro lot lotMember isLot
    apply sound.gives lotMember isLot
    · intro row member owner
      obtain ⟨drawnLot, drawn⟩ := draws row member
      rw [ownerOf, drawn.names, Option.some_or] at owner
      have equal := sound.entries.eq_of_id (mem_entries drawn.member) lotMember
        (congrArg LoyaltyLotKey.lotId (Option.some.inj owner))
      rw [← equal, ← sound.lotBalance_eq drawn.member drawn.isLot]
      exact drawn.within
    · rw [List.Nodup, List.pairwise_map] at distinct
      apply (distinct.sublist List.filter_sublist).imp_of_mem
      intro earlier later earlierMember laterMember different
      rw [List.mem_filter, decide_eq_true_eq] at earlierMember laterMember
      obtain ⟨earlierLot, earlierDrawn⟩ := draws earlier earlierMember.1
      obtain ⟨laterLot, laterDrawn⟩ := draws later laterMember.1
      have earlierOwner := earlierMember.2
      have laterOwner := laterMember.2
      rw [ownerOf, earlierDrawn.names, Option.some_or] at earlierOwner
      rw [ownerOf, laterDrawn.names, Option.some_or] at laterOwner
      rw [earlierDrawn.names, laterDrawn.names, earlierOwner, laterOwner] at different
      exact (different rfl).elim

/-- The batch of some draws keeps the ledger sound. -/
theorem draws_sound (sound : Sound wallets) (distinct : (rows.map fun row => row.lot).Nodup)
    (draws : ∀ row ∈ rows, ∃ lot, Draws wallets lot row)
    (written : writeLedgerRows wallets rows = .ok after) : Sound after := by
  apply batch_sound sound _ draws _ written
  · rintro row ⟨lot, drawn⟩
    exact ⟨lot, drawn.stored sound⟩
  · intro nonzero drawn
    apply fits_of_draws sound nonzero _ drawn
    rw [List.map_map]
    exact distinct

/-- One new lot fits. -/
theorem lot_sound (sound : Sound wallets) (type : row.txnType ∈ LOYALTY_LOT_TXN_TYPES)
    (positive : 0 ≤ row.points) (noLot : row.lot = none) (original : row.reversalOf = none)
    (written : writeLedgerRows wallets [row] = .ok after) : Sound after := by
  apply writeLedgerRows_sound sound _ written
  intro checked
  have nonzero := (checked row List.mem_cons_self).1
  have opens : IsLot (stored row) :=
    ⟨type, lt_of_le_of_ne (Grid.halfUp_nonneg fourPlaces_pos positive) (Ne.symm nonzero), noLot,
      original⟩
  constructor
  · intro other member
    rw [List.map_singleton, List.mem_singleton] at member
    rw [member]
    exact .opens opens
  · intro other member reverses
    rw [List.map_singleton, List.mem_singleton] at member
    rw [member] at reverses
    exact (reverses (by simp [reversedId, opens.original])).elim
  · exact List.pairwise_singleton _ _
  · intro lot lotMember isLot
    have none : against ([row].map stored) lot.key = 0 := by
      unfold against
      rw [List.map_singleton, List.filter_singleton]
      simp [ownerOf_lot opens]
    rw [none, add_zero]
    exact sound.left lot lotMember isLot

/-! ## Drawing from the lots in order -/

theorem drawLots_mem {row : LedgerRow → ℕ → Decimal → LoyaltyLedgerRowInput}
    {lots : List LedgerRow} {rowNo : ℕ} {left : Decimal} {drawn : LoyaltyLedgerRowInput}
    (member : drawn ∈ (drawLots row lots rowNo left).1) :
    ∃ lot ∈ lots, ∃ number take, drawn = row lot number take ∧ 0 < take ∧
      take ≤ lot.lotBalance := by
  induction lots generalizing rowNo left with
  | nil => cases member
  | cons lot rest ih =>
      unfold drawLots at member
      dsimp only at member
      split at member
      · cases member
      · split at member
        · obtain ⟨other, otherMember, found⟩ := ih member
          exact ⟨other, List.mem_cons_of_mem _ otherMember, found⟩
        · next some =>
            rcases List.mem_cons.mp member with rfl | later
            · exact ⟨lot, List.mem_cons_self, rowNo, _, rfl, not_le.mp some, min_le_right _ _⟩
            · obtain ⟨other, otherMember, found⟩ := ih later
              exact ⟨other, List.mem_cons_of_mem _ otherMember, found⟩

/-- Each lot is drawn on at most once. -/
theorem drawLots_lots {row : LedgerRow → ℕ → Decimal → LoyaltyLedgerRowInput}
    (names : ∀ lot number take, (row lot number take).lot = some lot.key)
    (lots : List LedgerRow) (rowNo : ℕ) (left : Decimal) :
    ((drawLots row lots rowNo left).1.map fun drawn => drawn.lot).Sublist
      (lots.map fun lot => some lot.key) := by
  induction lots generalizing rowNo left with
  | nil => exact List.Sublist.slnil
  | cons lot rest ih =>
      unfold drawLots
      dsimp only
      split
      · exact List.nil_sublist _
      · split
        · exact (ih rowNo left).cons _
        · rw [List.map_cons, List.map_cons, names]
          exact (ih (rowNo + 1) _).cons_cons _

/-- Lots that hold what is asked for give all of it. -/
theorem drawLots_left {row : LedgerRow → ℕ → Decimal → LoyaltyLedgerRowInput}
    {lots : List LedgerRow} (rowNo : ℕ) {left : Decimal}
    (exact : ∀ lot ∈ lots, lot.lotBalance ∈ fourPlaces)
    (nonneg : ∀ lot ∈ lots, 0 ≤ lot.lotBalance)
    (enough : left ≤ (lots.map LedgerRow.lotBalance).sum) :
    (drawLots row lots rowNo left).2 ≤ 0 := by
  induction lots generalizing rowNo left with
  | nil => exact enough
  | cons lot rest ih =>
      rw [List.map_cons, List.sum_cons] at enough
      have restExact := fun other member => exact other (List.mem_cons_of_mem lot member)
      have restNonneg := fun other member => nonneg other (List.mem_cons_of_mem lot member)
      have lotNonneg := nonneg lot List.mem_cons_self
      have sumMem : (rest.map LedgerRow.lotBalance).sum ∈ fourPlaces := by
        apply list_sum_mem
        intro value member
        obtain ⟨other, otherMember, rfl⟩ := List.mem_map.mp member
        exact restExact other otherMember
      unfold drawLots
      dsimp only
      split
      · next done => exact done
      · next more =>
          split
          · next nothing =>
              apply ih rowNo restExact restNonneg
              rcases min_le_iff.mp nothing with done | empty
              · exact (more done).elim
              · linarith
          · apply ih (rowNo + 1) restExact restNonneg
            rcases le_total left lot.lotBalance with all | some
            · rw [min_eq_left all, sub_self]
              change round4 0 ≤ _
              unfold round4
              rw [Grid.halfUp_zero]
              apply List.sum_nonneg
              intro value member
              obtain ⟨other, otherMember, rfl⟩ := List.mem_map.mp member
              exact restNonneg other otherMember
            · rw [min_eq_right some]
              exact Grid.halfUp_le_of_mem fourPlaces_pos (by linarith) (by linarith) sumMem

/-- A row that takes from a lot of the wallet no more than the lot has left. -/
theorem draws_of_take {take : Decimal} (member : lot ∈ wallets.ledger)
    (isLot : IsLot lot.toLoyaltyLedgerRowInput) (names : row.lot = some lot.key)
    (same : row.memberId = lot.memberId) (original : row.reversalOf = none)
    (type : row.txnType ≠ .EARN) (points : row.points = -take) (positive : 0 ≤ take)
    (most : take ≤ lot.lotBalance) : Draws wallets lot row := by
  refine ⟨member, isLot, names, same, original, type, ?_, ?_⟩
  · rw [points]
    exact neg_nonpos.mpr positive
  · rw [points]
    exact neg_le_neg most

section Draws

variable {wallets : Wallets} (sound : Sound wallets)

theorem mem_lots {row : LedgerRow} {memberId : String} {onDate : Date}
    (member : row ∈ lots wallets memberId onDate) :
    row ∈ wallets.ledger ∧ isOpenLot memberId row = true := by
  unfold lots at member
  rw [List.mem_insertionSort, List.mem_filter] at member
  obtain ⟨within, spendable⟩ := member
  unfold isSpendable at spendable
  rw [Bool.and_eq_true, Bool.and_eq_true] at spendable
  exact ⟨within, spendable.1.1⟩

include sound

/-- Lots read in any order are named once each. -/
theorem Sound.lots_nodup (counts : LedgerRow → Bool) (before : LedgerRow → LedgerRow → Bool) :
    (((wallets.ledger.filter counts).insertionSort fun left right => before left right).map
      fun lot => some lot.key).Nodup := by
  have perm := List.perm_insertionSort (fun left right => before left right = true)
    (wallets.ledger.filter counts)
  rw [(perm.map _).nodup_iff]
  have keys := sound.keys_nodup.sublist
    ((List.filter_sublist (p := counts)).map fun row => row.key)
  have some := keys.map (Option.some_injective LoyaltyLotKey)
  rwa [List.map_map] at some

end Draws

theorem LoyaltyConsumeType.txnType_ne_earn (type : LoyaltyConsumeType) : type.txnType ≠ .EARN := by
  cases type
  all_goals
    intro same
    cases same

/-- The rows of a draw are draws, each on a lot of its own. -/
theorem drawLots_draws (sound : Sound wallets) (member : LoyaltyMember) (memberId : String)
    (txnType : LoyaltyConsumeType) (opts : LoyaltyConsumeOptions) (rowNo : ℕ) (points : Decimal) :
    let rows := (drawLots (drawRow member memberId txnType opts)
      (lots wallets memberId opts.txnDate) rowNo points).1
    (rows.map fun row => row.lot).Nodup ∧ ∀ row ∈ rows, ∃ lot, Draws wallets lot row := by
  constructor
  · have once := @drawLots_lots (drawRow member memberId txnType opts)
      (fun _ _ _ => rfl) (lots wallets memberId opts.txnDate) rowNo points
    exact (sound.lots_nodup _ _).sublist once
  · intro row rowMember
    obtain ⟨lot, lotMember, number, take, rfl, positive, most⟩ := drawLots_mem rowMember
    obtain ⟨within, isOpen⟩ := mem_lots lotMember
    obtain ⟨isLot, own⟩ := sound.isLot_of_open within isOpen
    exact ⟨lot, draws_of_take within isLot rfl own.symm rfl txnType.txnType_ne_earn rfl
      positive.le most⟩

/-- What a draw can come to: nothing to do, a refusal, or the lots walked for points the
wallet can spend. -/
theorem consume_cases (wallets : Wallets) (memberId : String) (points : Decimal)
    (txnType : LoyaltyConsumeType) (opts : LoyaltyConsumeOptions) :
    consume wallets memberId points txnType opts = .ok wallets ∨
      (∃ field, consume wallets memberId points txnType opts = .error (.invalid field)) ∨
      (∃ field, consume wallets memberId points txnType opts = .error (.refused field)) ∨
      ∃ member firstRowNo, points ≤ redeemable wallets memberId opts.txnDate ∧
        consume wallets memberId points txnType opts =
          let drawn := drawLots (drawRow member memberId txnType opts)
            (lots wallets memberId opts.txnDate) firstRowNo points
          if 0 < drawn.2 then .error (.disagree memberId drawn.2 points opts.txnDate)
          else writeLedgerRows wallets drawn.1 := by
  unfold consume
  split
  · exact Or.inl rfl
  split
  · exact Or.inr (Or.inl ⟨_, rfl⟩)
  split
  · exact Or.inr (Or.inl ⟨_, rfl⟩)
  split
  · exact Or.inr (Or.inl ⟨_, rfl⟩)
  split
  · exact Or.inr (Or.inl ⟨_, rfl⟩)
  · next member _ =>
      split
      · exact Or.inr (Or.inr (Or.inl ⟨_, rfl⟩))
      · next enough => exact Or.inr (Or.inr (Or.inr ⟨member, _, not_lt.mp enough, rfl⟩))

theorem consume_sound {points : Decimal} {txnType : LoyaltyConsumeType}
    {opts : LoyaltyConsumeOptions} (sound : Sound wallets)
    (moved : consume wallets memberId points txnType opts = .ok after) : Sound after := by
  rcases consume_cases wallets memberId points txnType opts with
    same | ⟨field, refused⟩ | ⟨field, refused⟩ | ⟨member, firstRowNo, -, drawn⟩
  · rw [same] at moved
    cases moved
    exact sound
  · rw [refused] at moved
    cases moved
  · rw [refused] at moved
    cases moved
  · rw [drawn] at moved
    dsimp only at moved
    split at moved
    · cases moved
    · obtain ⟨distinct, draws⟩ := drawLots_draws sound member memberId txnType opts firstRowNo points
      exact draws_sound sound distinct draws moved

theorem earn_sound {bill : EarnInput} (sound : Sound wallets)
    (moved : earn wallets bill = .ok after) : Sound after := by
  unfold earn at moved
  split at moved
  · cases moved
    exact sound
  · next positive =>
      have type : LoyaltyTxnType.EARN ∈ LOYALTY_LOT_TXN_TYPES := by decide
      exact lot_sound sound type (not_le.mp positive).le rfl rfl moved

theorem adjust_sound (sound : Sound wallets) (moved : adjust wallets input = .ok after) :
    Sound after := by
  unfold adjust at moved
  split at moved
  · cases moved
  split at moved
  · cases moved
  split at moved
  · cases moved
  obtain ⟨_, _, moved⟩ := Fold.bind_eq_ok moved
  dsimp only at moved
  split at moved
  · next positive =>
      have type : LoyaltyTxnType.ADJUST ∈ LOYALTY_LOT_TXN_TYPES := by decide
      have kept : 0 ≤ round4 input.points := Grid.halfUp_nonneg fourPlaces_pos positive.le
      apply lot_sound sound _ _ _ _ moved
      · exact type
      · exact kept
      · rfl
      · rfl
  · exact consume_sound sound moved

theorem clawbackForReturn_sound {ret : ReturnInput} {share earnedOnBill : Decimal} {ignores : Bool}
    (sound : Sound wallets)
    (moved : clawbackForReturn wallets ret share earnedOnBill ignores = .ok after) :
    Sound after := by
  unfold clawbackForReturn at moved
  split at moved
  · cases moved
    exact sound
  dsimp only at moved
  split at moved
  · cases moved
    exact sound
  split at moved
  · cases moved
    exact sound
  · exact consume_sound sound moved

/-! ## Drawing lots out whole -/

/-- Rows for different lots name different lots. -/
theorem numbered_nodup {α : Type} {row : α → ℕ → LoyaltyLedgerRowInput}
    {key : α → Option LoyaltyLotKey} (names : ∀ item number, (row item number).lot = key item)
    (first : ℕ) {items : List α} (distinct : (items.map key).Nodup) :
    ((numbered row first items).map fun row => row.lot).Nodup := by
  have equal : (numbered row first items).map (fun row => row.lot) = items.map key := by
    clear distinct
    unfold numbered
    induction items generalizing first with
    | nil => rfl
    | cons item rest ih =>
        rw [List.zipIdx_cons, List.map_cons, List.map_cons, List.map_cons, names, ih]
  rw [equal]
  exact distinct

theorem mem_numbered {α : Type} {row : α → ℕ → LoyaltyLedgerRowInput} {first : ℕ}
    {items : List α} {input : LoyaltyLedgerRowInput} (member : input ∈ numbered row first items) :
    ∃ item ∈ items, ∃ number, input = row item number := by
  obtain ⟨⟨item, number⟩, within, rfl⟩ := List.mem_map.mp member
  exact ⟨item, List.fst_mem_of_mem_zipIdx within, number, rfl⟩

theorem expiryRun_sound {accYear : String} {on : Date} (sound : Sound wallets)
    (moved : expiryRun wallets companyId accYear on = .ok after) : Sound after := by
  unfold expiryRun at moved
  apply draws_sound sound _ _ moved
  · apply numbered_nodup _ 1 (sound.lots_nodup _ _)
    intro lot number
    rfl
  · intro row member
    obtain ⟨lot, lotMember, number, rfl⟩ := mem_numbered member
    rw [List.mem_insertionSort, List.mem_filter] at lotMember
    obtain ⟨within, lapsed⟩ := lotMember
    have isOpen : isOpenLot lot.memberId lot = true := by
      unfold isLapsed at lapsed
      unfold isOpenLot
      rw [Bool.and_eq_true, Bool.and_eq_true, Bool.and_eq_true] at lapsed
      rw [Bool.and_eq_true, Bool.and_eq_true]
      exact ⟨⟨decide_eq_true rfl, lapsed.1.1.2⟩, lapsed.1.2⟩
    obtain ⟨isLot, -⟩ := sound.isLot_of_open within isOpen
    have type : LoyaltyTxnType.EXPIRE ≠ .EARN := by decide
    exact ⟨lot, draws_of_take within isLot rfl rfl rfl type rfl
      (sound.lotBalance_nonneg within isLot) le_rfl⟩

theorem foldl_round4 {lots : List LedgerRow} {lotted : Decimal}
    (exact : ∀ lot ∈ lots, lot.lotBalance ∈ fourPlaces) (start : lotted ∈ fourPlaces) :
    lots.foldl (fun lotted lot => round4 (lotted + lot.lotBalance)) lotted =
      lotted + (lots.map LedgerRow.lotBalance).sum := by
  induction lots generalizing lotted with
  | nil => simp
  | cons lot rest ih =>
      have next : lotted + lot.lotBalance ∈ fourPlaces :=
        add_mem start (exact lot List.mem_cons_self)
      have kept : round4 (lotted + lot.lotBalance) = lotted + lot.lotBalance :=
        Grid.halfUp_of_mem fourPlaces_pos next
      rw [List.foldl_cons, kept, ih (fun other member => exact other (List.mem_cons_of_mem lot member))
        next, List.map_cons, List.sum_cons, add_assoc]

/-- Who a lock was taken on. -/
theorem lockMember_ok {refuseStatuses : List LoyaltyMemberStatus} {member : LoyaltyMember}
    (locked : lockMember wallets memberId companyId refuseStatuses = .ok member) :
    wallets.members.find? (fun member => member.lmbId = memberId) = some member := by
  unfold lockMember at locked
  split at locked
  · cases locked
  · next found =>
      split at locked
      · cases locked
      split at locked
      · cases locked
      · cases locked
        exact found

theorem drain_sound (sound : Sound wallets) (moved : drain wallets input = .ok after) :
    Sound after := by
  unfold drain at moved
  split at moved
  · cases moved
  obtain ⟨member, locked, moved⟩ := Fold.bind_eq_ok moved
  have found := lockMember_ok locked
  have own : member.lmbId = input.memberId := by
    simpa using List.find?_some found
  have ofOpen {lot : LedgerRow} (lotMember : lot ∈ openLots wallets input.memberId) :
      lot ∈ wallets.ledger ∧ IsLot lot.toLoyaltyLedgerRowInput ∧
        lot.memberId = input.memberId := by
    unfold openLots at lotMember
    rw [List.mem_insertionSort, List.mem_filter] at lotMember
    obtain ⟨isLot, same⟩ := sound.isLot_of_open lotMember.1 lotMember.2
    exact ⟨lotMember.1, isLot, same⟩
  -- The lots hold all of the balance, so nothing is left to write off beyond them.
  have lotted : (openLots wallets input.memberId).foldl
      (fun lotted lot => round4 (lotted + lot.lotBalance)) 0 =
        balance wallets input.memberId := by
    have total := @foldl_round4 (openLots wallets input.memberId) 0
      (fun lot lotMember => sound.lotBalance_mem (ofOpen lotMember).1 (ofOpen lotMember).2.1)
      (zero_mem _)
    rw [total, zero_add]
    unfold openLots balance
    rw [found, Option.map_some, Option.getD_some,
      balance_eq_openLots sound (List.mem_of_find?_eq_some found), own]
    exact ((List.perm_insertionSort _ _).map _).sum_eq
  have remainder : round4 (balance wallets input.memberId -
      (openLots wallets input.memberId).foldl
        (fun lotted lot => round4 (lotted + lot.lotBalance)) 0) = 0 := by
    rw [lotted, sub_self]
    exact Grid.halfUp_zero
  dsimp only at moved
  rw [remainder, if_neg (not_not_intro rfl)] at moved
  apply draws_sound sound _ _ moved
  · apply numbered_nodup _ 1 (sound.lots_nodup _ _)
    intro lot number
    rfl
  · intro row rowMember
    obtain ⟨lot, lotMember, number, rfl⟩ := mem_numbered rowMember
    obtain ⟨within, isLot, same⟩ := ofOpen lotMember
    have type : LoyaltyTxnType.ADJUST ≠ .EARN := by decide
    exact ⟨lot, draws_of_take within isLot rfl same.symm rfl type rfl
      (sound.lotBalance_nonneg within isLot) le_rfl⟩

end ErpServer.Loyalty
