import ErpServer.Stock.Reservations

/-!
# Consuming and giving back

A bill consumes an order line's reservations and its cancel gives back.  The reservations
come back as they were only where the walk met nothing consumed before, and the total keeps
to the bills that are live only while these fit what is reserved.
-/

namespace ErpServer.Stock

open Lib
open Receipt (Decimal)

/-! ## The rows of a line -/

/-- A reservation of the line, in a status a bill reads. -/
def isLineRow (docId : Uuid) (lineNo : ℕ) (row : StockReservation) : Bool :=
  row.srcDocId = docId && row.lineNo = lineNo && row.isConsumable

/-- Nearest expiry first, then the one reserved first. -/
def walksBefore (lots : OrderedMap Uuid StockLot) (first second : StockReservation) : Bool :=
  let expiryOf (row : StockReservation) : Option Date :=
    (lots.get? row.holding.lotId).bind (·.expiryDate)
  sortsBefore [expiryOf first, some first.reservedOn] [expiryOf second, some second.reservedOn]

/-- The reservations a bill against the line reads, in the order it walks them. -/
def consumableRows (tables : StockTables) (docId : Uuid) (lineNo : ℕ) : List StockReservation :=
  (tables.reservations.filter (isLineRow docId lineNo)).insertionSort
    fun first second => walksBefore tables.lots first second

/-- The reservations as every run of the engine leaves them. -/
structure ReservationsSound (reservations : List StockReservation) : Prop where
  sound : ∀ row ∈ reservations, row.Sound
  ids : reservations.map (·.srvId) = List.range reservations.length

theorem ReservationsSound.nodup {reservations : List StockReservation}
    (sound : ReservationsSound reservations) : (reservations.map (·.srvId)).Nodup :=
  sound.ids ▸ List.nodup_range

section Rows

variable {tables : StockTables} {docId : Uuid} {lineNo : ℕ}

theorem mem_consumableRows {row : StockReservation} :
    row ∈ consumableRows tables docId lineNo ↔
      row ∈ tables.reservations ∧ row.srcDocId = docId ∧ row.lineNo = lineNo ∧
        row.isConsumable = true := by
  rw [consumableRows, List.mem_insertionSort, List.mem_filter]
  simp [isLineRow, and_assoc]

variable (sound : ReservationsSound tables.reservations) (docId lineNo)

include sound

theorem consumableRows_sound : ∀ row ∈ consumableRows tables docId lineNo, row.Sound :=
  fun row member => sound.sound row (mem_consumableRows.mp member).1

theorem consumableRows_ids : ((consumableRows tables docId lineNo).map (·.srvId)).Nodup := by
  have perm := (List.perm_insertionSort (fun first second : StockReservation =>
    walksBefore tables.lots first second) (tables.reservations.filter (isLineRow docId lineNo))).map
      (·.srvId)
  apply perm.nodup_iff.mpr
  exact (List.filter_sublist.map _).nodup sound.nodup

/-- What `consume` makes of one row of the table. -/
theorem consume_ok (baseQty : Decimal) :
    ∃ consumed, consume tables docId lineNo baseQty = .ok consumed ∧
      consumed.reservations = rewriteReservations
        (consumeRows (round4 baseQty) (consumableRows tables docId lineNo)) tables.reservations ∧
      consumed.lots = tables.lots := by
  have untouched : rewriteReservations [] tables.reservations = tables.reservations := by
    simp [rewriteReservations]
  have settled : ckSrvSettled
      (consumeRows (round4 baseQty) (consumableRows tables docId lineNo)) = true := by
    rw [ckSrvSettled, List.all_eq_true]
    intro row member
    have rowSound := walked_sound (consumableRows_sound docId lineNo sound) round4_mem row
      ((consumeRows_sublist _ _).subset member)
    have openNonneg := rowSound.open_nonneg
    rw [StockReservation.openQty] at openNonneg
    simp only [Bool.and_eq_true, decide_eq_true_eq]
    exact ⟨⟨rowSound.consumed_nonneg, rowSound.released_nonneg⟩, by linarith⟩
  have unfolded : consume tables docId lineNo baseQty =
      if round4 baseQty = 0 ∨ consumableRows tables docId lineNo = [] then .ok tables
      else if !ckSrvSettled (consumeRows (round4 baseQty) (consumableRows tables docId lineNo))
        then .error (.database "ck_srv_settled")
      else .ok (withReservations tables docId (rewriteReservations
        (consumeRows (round4 baseQty) (consumableRows tables docId lineNo))
          tables.reservations)) := rfl
  rw [unfolded, settled]
  split
  next idle =>
    refine ⟨tables, rfl, ?_, rfl⟩
    cases idle with
    | inl zero =>
        have nothing : consumeRows (round4 baseQty) (consumableRows tables docId lineNo) = [] := by
          rw [zero]
          cases consumableRows tables docId lineNo with
          | nil => rfl
          | cons row rest => rw [consumeRows, abs_zero, if_pos (by norm_num)]
        rw [nothing, untouched]
    | inr noRows => rw [noRows, consumeRows, untouched]
  next => exact ⟨_, rfl, rfl, rfl⟩

end Rows

/-! ## One row through a walk -/

/-- A row as a walk leaves it. -/
def rewrittenRow (rewritten : List StockReservation) (row : StockReservation) : StockReservation :=
  (rewritten.find? (·.srvId = row.srvId)).getD row

/-- Nothing but the consumed quantity and the status moved. -/
def Reconsumed (row after : StockReservation) : Prop :=
  after = { row with consumedQty := after.consumedQty, status := after.status }

/-- The walk keeps its order. -/
theorem Reconsumed.walksBefore {first first' second second' : StockReservation}
    (firstMoved : Reconsumed first first') (secondMoved : Reconsumed second second')
    (lots : OrderedMap Uuid StockLot) : walksBefore lots first' second' = walksBefore lots first second := by
  have firstHolding : first'.holding = first.holding :=
    (congrArg StockReservation.holding firstMoved :)
  have secondHolding : second'.holding = second.holding :=
    (congrArg StockReservation.holding secondMoved :)
  have firstTime : first'.reservedOn = first.reservedOn :=
    (congrArg StockReservation.reservedOn firstMoved :)
  have secondTime : second'.reservedOn = second.reservedOn :=
    (congrArg StockReservation.reservedOn secondMoved :)
  simp only [Stock.walksBefore, firstHolding, secondHolding, firstTime, secondTime]

theorem walked_reconsumed (left : Decimal) (rows : List StockReservation) :
    List.Forall₂ Reconsumed rows (walked left rows) := by
  have same (rows : List StockReservation) : List.Forall₂ Reconsumed rows rows :=
    List.forall₂_same.mpr fun _ _ => rfl
  induction rows generalizing left with
  | nil => exact .nil
  | cons row rest ih =>
      simp only [walked]
      split
      · exact same _
      · split <;> split
        · exact .cons rfl (ih left)
        · exact .cons rfl (ih _)
        · exact .cons rfl (ih left)
        · exact .cons rfl (ih _)

section Rewriting

variable {tables consumed : StockTables} {docId : Uuid} {lineNo : ℕ} {left : Decimal}
  (sound : ReservationsSound tables.reservations)

include sound

theorem map_rewrittenRow :
    (consumableRows tables docId lineNo).map
        (rewrittenRow (consumeRows left (consumableRows tables docId lineNo))) =
      walked left (consumableRows tables docId lineNo) :=
  rewriteReservations_consumeRows (consumableRows_ids docId lineNo sound) left

theorem rewrittenRow_of_not_mem {row : StockReservation} (listed : row ∈ tables.reservations)
    (absent : row ∉ consumableRows tables docId lineNo) :
    rewrittenRow (consumeRows left (consumableRows tables docId lineNo)) row = row := by
  have unnamed : row.srvId ∉ (consumableRows tables docId lineNo).map (·.srvId) := by
    intro named
    obtain ⟨other, member, same⟩ := List.mem_map.mp named
    have one := List.inj_on_of_nodup_map sound.nodup (mem_consumableRows.mp member).1 listed same
    exact absent (one ▸ member)
  rw [rewrittenRow, find_consumeRows_of_not_mem unnamed, Option.getD_none]

theorem rewrittenRow_reconsumed {row : StockReservation} (listed : row ∈ tables.reservations) :
    Reconsumed row (rewrittenRow (consumeRows left (consumableRows tables docId lineNo)) row) := by
  by_cases member : row ∈ consumableRows tables docId lineNo
  · have walk := walked_reconsumed left (consumableRows tables docId lineNo)
    rw [← map_rewrittenRow sound, List.forall₂_map_right_iff, List.forall₂_same] at walk
    exact walk row member
  · rw [rewrittenRow_of_not_mem sound listed member]
    exact rfl

theorem rewrittenRow_sound (places : left ∈ places4) {row : StockReservation}
    (listed : row ∈ tables.reservations) :
    (rewrittenRow (consumeRows left (consumableRows tables docId lineNo)) row).Sound := by
  by_cases member : row ∈ consumableRows tables docId lineNo
  · apply walked_sound (consumableRows_sound docId lineNo sound) places
    rw [← map_rewrittenRow sound]
    exact List.mem_map_of_mem member
  · rw [rewrittenRow_of_not_mem sound listed member]
    exact sound.sound row listed

theorem rewritten_sound (places : left ∈ places4)
    (after : consumed.reservations = rewriteReservations
      (consumeRows left (consumableRows tables docId lineNo)) tables.reservations) :
    ReservationsSound consumed.reservations where
  sound := by
    intro row member
    rw [after] at member
    obtain ⟨before, listed, rfl⟩ := List.mem_map.mp member
    exact rewrittenRow_sound sound places listed
  ids := by
    have same : consumed.reservations.map (·.srvId) = tables.reservations.map (·.srvId) := by
      rw [after, rewriteReservations, List.map_map]
      apply List.map_congr_left
      intro row listed
      have moved : Reconsumed row
          (rewrittenRow (consumeRows left (consumableRows tables docId lineNo)) row) :=
        rewrittenRow_reconsumed sound listed
      exact (congrArg StockReservation.srvId moved :)
    have length : consumed.reservations.length = tables.reservations.length := by
      rw [after, rewriteReservations, List.length_map]
    rw [same, length]
    exact sound.ids

/-- While every row stays in a status a bill reads, the next bill walks the same rows. -/
theorem consumableRows_rewritten
    (after : consumed.reservations = rewriteReservations
      (consumeRows left (consumableRows tables docId lineNo)) tables.reservations)
    (lots : consumed.lots = tables.lots)
    (kept : ∀ row ∈ walked left (consumableRows tables docId lineNo), row.isConsumable = true) :
    consumableRows consumed docId lineNo = walked left (consumableRows tables docId lineNo) := by
  have moved : ∀ row ∈ tables.reservations, Reconsumed row
      (rewrittenRow (consumeRows left (consumableRows tables docId lineNo)) row) :=
    fun row listed => rewrittenRow_reconsumed sound listed
  have read : ∀ row ∈ tables.reservations, isLineRow docId lineNo
      (rewrittenRow (consumeRows left (consumableRows tables docId lineNo)) row) =
        isLineRow docId lineNo row := by
    intro row listed
    by_cases member : row ∈ consumableRows tables docId lineNo
    · have stays := kept _ (map_rewrittenRow sound ▸ List.mem_map_of_mem member)
      have sameDoc := (congrArg StockReservation.srcDocId (moved row listed) :)
      have sameLine := (congrArg StockReservation.lineNo (moved row listed) :)
      rw [isLineRow, isLineRow, stays, sameDoc, sameLine, (mem_consumableRows.mp member).2.2.2]
    · rw [rewrittenRow_of_not_mem sound listed member]
  have rows : consumed.reservations = tables.reservations.map
      (rewrittenRow (consumeRows left (consumableRows tables docId lineNo))) := after
  have filtered := List.filter_congr read
  rw [← map_rewrittenRow sound, consumableRows, rows, lots, List.filter_map]
  change List.insertionSort _ (List.map _ (List.filter (fun row => isLineRow docId lineNo
    (rewrittenRow (consumeRows left (consumableRows tables docId lineNo)) row)) _)) = _
  rw [filtered]
  symm
  apply List.map_insertionSort
  intro first firstListed second secondListed
  rw [(moved first (List.mem_filter.mp firstListed).1).walksBefore
    (moved second (List.mem_filter.mp secondListed).1)]

/-- Over two calls the table is as it was when the rows stay readable and the second walk
undoes the first. -/
theorem rewritten_twice_iff {restored : StockTables} (places : left ∈ places4)
    (after : consumed.reservations = rewriteReservations
      (consumeRows left (consumableRows tables docId lineNo)) tables.reservations)
    (lots : consumed.lots = tables.lots)
    (afterBack : restored.reservations = rewriteReservations
      (consumeRows (-left) (consumableRows consumed docId lineNo)) consumed.reservations) :
    restored.reservations = tables.reservations ↔
      (∀ row ∈ walked left (consumableRows tables docId lineNo), row.isConsumable = true) ∧
        walked (-left) (walked left (consumableRows tables docId lineNo)) =
          consumableRows tables docId lineNo := by
  have consumedSound := rewritten_sound sound places after
  let forth := rewrittenRow (consumeRows left (consumableRows tables docId lineNo))
  let undo := rewrittenRow (consumeRows (-left) (consumableRows consumed docId lineNo))
  have consumedRows : consumed.reservations = tables.reservations.map forth := after
  have restoredRows : restored.reservations =
      tables.reservations.map fun row => undo (forth row) := by
    rw [afterBack, rewriteReservations, consumedRows, List.map_map]
    rfl
  have there : (consumableRows tables docId lineNo).map forth =
      walked left (consumableRows tables docId lineNo) := map_rewrittenRow sound
  have pointwise (rows : List StockReservation) :
      (rows.map fun row => undo (forth row)) = rows ↔ ∀ row ∈ rows, undo (forth row) = row := by
    have identity := List.map_inj_left (f := fun row => undo (forth row)) (g := id) (l := rows)
    rwa [List.map_id] at identity
  have backWalk (kept : ∀ row ∈ walked left (consumableRows tables docId lineNo),
      row.isConsumable = true) :
      ((consumableRows tables docId lineNo).map fun row => undo (forth row)) =
        walked (-left) (walked left (consumableRows tables docId lineNo)) := by
    have same := consumableRows_rewritten sound after lots kept
    have back : (consumableRows consumed docId lineNo).map undo =
        walked (-left) (consumableRows consumed docId lineNo) := map_rewrittenRow consumedSound
    rw [← same, ← back, same, ← there, List.map_map]
    rfl
  rw [restoredRows, pointwise]
  constructor
  · intro same
    have kept : ∀ row ∈ walked left (consumableRows tables docId lineNo),
        row.isConsumable = true := by
      intro row member
      rw [← there] at member
      obtain ⟨before, listed, rfl⟩ := List.mem_map.mp member
      have facts := mem_consumableRows.mp listed
      by_contra closed
      -- a row that left the readable statuses is never rewritten again
      have isRow : forth before ∈ consumed.reservations := by
        rw [consumedRows]
        exact List.mem_map_of_mem facts.1
      have unread : forth before ∉ consumableRows consumed docId lineNo :=
        fun read => closed (mem_consumableRows.mp read).2.2.2
      have stuck : undo (forth before) = forth before :=
        rewrittenRow_of_not_mem consumedSound isRow unread
      rw [same before facts.1] at stuck
      exact closed (stuck ▸ facts.2.2.2)
    refine ⟨kept, ?_⟩
    rw [← backWalk kept, pointwise]
    exact fun row listed => same row (mem_consumableRows.mp listed).1
  · rintro ⟨kept, back⟩ row listed
    by_cases member : row ∈ consumableRows tables docId lineNo
    · rw [← backWalk kept, pointwise] at back
      exact back row member
    · have still : forth row = row := rewrittenRow_of_not_mem sound listed member
      have isRow : row ∈ consumed.reservations := by
        rw [consumedRows, ← still]
        exact List.mem_map_of_mem listed
      have unread : row ∉ consumableRows consumed docId lineNo := by
        intro read
        rw [mem_consumableRows] at read
        exact member (mem_consumableRows.mpr ⟨listed, read.2⟩)
      rw [still]
      exact rewrittenRow_of_not_mem consumedSound isRow unread

end Rewriting

/-! ## Taken and given back -/

/-- What is left of a quantity when the walk reaches a row. -/
def leftFor (quantity : Decimal) (before : List StockReservation) : Decimal :=
  quantity - (before.map (·.openQty)).sum

/-- A row the quantity reaches comes back as it was: nothing was consumed of it before, or it
has room for all that is left; it is not filled if it was partly released; and its status is
the one its quantities say. -/
def RowRestorable (left : Decimal) (row : StockReservation) : Prop :=
  (row.consumedQty = 0 ∨ left ≤ row.openQty) ∧
    (row.openQty = 0 ∨ (row.releasedQty = 0 ∨ left < row.openQty - 1 / 2000) ∧
      row.consumedTo row.consumedQty = row)

/-- Every row the quantity reaches comes back as it was. -/
def Restorable (quantity : Decimal) (rows : List StockReservation) : Prop :=
  ∀ before row after, rows = before ++ row :: after → 1 / 2000 ≤ leftFor quantity before →
    RowRestorable (leftFor quantity before) row

section Restoring

variable {left : Decimal} {rows : List StockReservation}
  (sound : ∀ row ∈ rows, row.Sound) (readable : ∀ row ∈ rows, row.isConsumable = true)
  (places : left ∈ places4) (nonneg : 0 ≤ left)

include sound

/-- What a walk's shares satisfy, said of each row and what is left when the walk reaches it. -/
theorem forall₂_shares_iff (holds : StockReservation → Decimal → Prop)
    (idle : ∀ row ∈ rows, holds row 0) :
    List.Forall₂ holds rows (Dole.doled (1 / 2000) left (rows.map (·.openQty))) ↔
      ∀ before row after, rows = before ++ row :: after → 1 / 2000 ≤ leftFor left before →
        holds row (min row.openQty (leftFor left before)) := by
  rw [Dole.forall₂_doled_iff (by norm_num) fun row member => (sound row member).open_nonneg]
  constructor
  · intro all before row after split reached
    have found := all before row after split
    rwa [Dole.shareAt, ← leftFor, if_neg (not_lt.mpr reached)] at found
  · intro all before row after cut
    rw [Dole.shareAt, ← leftFor]
    split
    next =>
      apply idle row
      rw [cut]
      exact List.mem_append_right _ List.mem_cons_self
    next reached => exact all before row after cut (not_lt.mp reached)

include places

include nonneg

/-- Giving back retraces the walk exactly past rows that had nothing consumed, and whose
status was the one their quantities say. -/
theorem walked_back_iff :
    walked (-left) (walked left rows) = rows ↔
      ∀ before row after, rows = before ++ row :: after → 1 / 2000 ≤ leftFor left before →
        (row.consumedQty = 0 ∨ leftFor left before ≤ row.openQty) ∧
          (row.openQty = 0 ∨ row.consumedTo row.consumedQty = row) := by
  have written : ∀ before row after, rows = before ++ row :: after →
      1 / 2000 ≤ leftFor left before → (min row.openQty (leftFor left before) = 0 ↔
        row.openQty = 0) := by
    intro before row after cut reached
    have positive : 0 < leftFor left before := lt_of_lt_of_le (by norm_num) reached
    constructor
    · intro none
      rcases min_choice row.openQty (leftFor left before) with open' | rest
      · rwa [open'] at none
      · exact absurd (rest ▸ none) positive.ne'
    · intro none
      rw [none]
      exact min_eq_left positive.le
  rw [walked_give (walked_sound sound places) places nonneg, walked_take sound places nonneg,
    moved_back_iff (by simp) (by simp [moved]), moved_consumedQty]
  simp only [one_mul]
  rw [Dole.doled_again_iff (by norm_num) (fun row member => (sound row member).consumed_nonneg)
      (fun row member => (sound row member).open_nonneg),
    forall₂_shares_iff sound _ fun _ _ => .inl rfl]
  constructor
  · rintro ⟨retraced, statuses⟩ before row after cut reached
    exact ⟨retraced before row after cut reached,
      (statuses before row after cut reached).imp_left (written before row after cut reached).mp⟩
  · intro all
    constructor
    · intro before row after cut reached
      exact (all before row after cut reached).1
    · intro before row after cut reached
      exact (all before row after cut reached).2.imp_left (written before row after cut reached).mpr

include readable

/-- The rows all stay readable exactly where none that was partly released is filled. -/
theorem walked_isConsumable_iff :
    (∀ row ∈ walked left rows, row.isConsumable = true) ↔
      ∀ before row after, rows = before ++ row :: after → 1 / 2000 ≤ leftFor left before →
        row.openQty = 0 ∨ row.releasedQty = 0 ∨ leftFor left before < row.openQty - 1 / 2000 := by
  have idle : ∀ row ∈ rows, (movedRow 1 row 0).isConsumable = true := by
    intro row member
    rw [movedRow, if_pos rfl]
    exact readable row member
  have placed : ∀ before row after, rows = before ++ row :: after →
      row ∈ rows ∧ leftFor left before ∈ places4 := by
    intro before row after cut
    refine ⟨cut ▸ List.mem_append_right _ List.mem_cons_self, sub_mem places ?_⟩
    apply AddSubgroup.list_sum_mem
    intro room listed
    obtain ⟨other, member, rfl⟩ := List.mem_map.mp listed
    exact (sound other (cut ▸ List.mem_append_left _ member)).openPlaces
  have atRow : ∀ before row after, rows = before ++ row :: after →
      1 / 2000 ≤ leftFor left before →
      ((movedRow 1 row (min row.openQty (leftFor left before))).isConsumable = true ↔
        row.openQty = 0 ∨ row.releasedQty = 0 ∨
          leftFor left before < row.openQty - 1 / 2000) := by
    intro before row after cut reached
    obtain ⟨member, remaining⟩ := placed before row after cut
    have positive : 0 < leftFor left before := lt_of_lt_of_le (by norm_num) reached
    have shareMem := Grid.min_mem_grid (sound row member).openPlaces remaining
    by_cases full : row.openQty = 0
    · rw [full, min_eq_left positive.le]
      simp only [true_or, iff_true]
      exact idle row member
    · have open' : 0 < row.openQty := lt_of_le_of_ne (sound row member).open_nonneg (Ne.symm full)
      rw [movedRow, if_neg (lt_min open' positive).ne', one_mul,
        (sound row member).isConsumable_iff shareMem, or_iff_right full]
      apply or_congr_right
      constructor
      · intro short
        rcases min_choice row.openQty (leftFor left before) with whole | less
        · rw [whole] at short
          linarith
        · rwa [less] at short
      · intro short
        exact (min_le_right _ _).trans_lt short
  rw [walked_take sound places nonneg, forall_moved (by simp), forall₂_shares_iff sound _ idle]
  constructor
  · intro all before row after cut reached
    exact (atRow before row after cut reached).mp (all before row after cut reached)
  · intro all before row after cut reached
    exact (atRow before row after cut reached).mpr (all before row after cut reached)

/-- A walk and the way back leave the rows as they were exactly where they are restorable. -/
theorem restored_iff :
    ((∀ row ∈ walked left rows, row.isConsumable = true) ∧
        walked (-left) (walked left rows) = rows) ↔ Restorable left rows := by
  rw [walked_isConsumable_iff sound readable places nonneg, walked_back_iff sound places nonneg]
  constructor
  · rintro ⟨kept, back⟩ before row after cut reached
    have retraced := back before row after cut reached
    refine ⟨retraced.1, or_iff_not_imp_left.mpr fun room => ⟨?_, retraced.2.resolve_left room⟩⟩
    exact (kept before row after cut reached).resolve_left room
  · intro restorable
    constructor
    · intro before row after cut reached
      exact (restorable before row after cut reached).2.imp_right And.left
    · intro before row after cut reached
      have row := restorable before row after cut reached
      exact ⟨row.1, row.2.imp_right And.right⟩

end Restoring

/-- A bill of four places and its cancel leave the reservations as they were exactly where
those of the line are restorable. -/
theorem consume_back_iff {tables : StockTables} (sound : ReservationsSound tables.reservations)
    (docId : Uuid) (lineNo : ℕ) {baseQty : Decimal} (places : baseQty ∈ places4)
    (nonneg : 0 ≤ baseQty) :
    ∃ consumed restored, consume tables docId lineNo baseQty = .ok consumed ∧
      consume consumed docId lineNo (-baseQty) = .ok restored ∧
      (restored.reservations = tables.reservations ↔
        Restorable baseQty (consumableRows tables docId lineNo)) := by
  obtain ⟨consumed, ran, after, lots⟩ := consume_ok docId lineNo sound baseQty
  obtain ⟨restored, ranBack, afterBack, -⟩ :=
    consume_ok docId lineNo (rewritten_sound sound round4_mem after) (-baseQty)
  refine ⟨consumed, restored, ran, ranBack, ?_⟩
  rw [round4_of_mem places] at after
  rw [round4_of_mem (neg_mem places)] at afterBack
  have readable : ∀ row ∈ consumableRows tables docId lineNo, row.isConsumable = true :=
    fun row member => (mem_consumableRows.mp member).2.2.2
  rw [← restored_iff (consumableRows_sound docId lineNo sound) readable places nonneg]
  exact rewritten_twice_iff sound places after lots afterBack

end ErpServer.Stock
