import ErpServer.Lib.ListSum
import ErpServer.Stock.ReservationRound

/-!
# Bills against a reserved line

The reservations stay sound whatever the engine does, and over a run of bills and
cancellations the consumed total keeps to the live bills while these fit.
-/

namespace ErpServer.Stock

open Lib
open Receipt (Decimal)

/-! ## Sound reservations -/

section Sound

variable {tables : StockTables} (sound : ReservationsSound tables.reservations)

include sound

theorem consume_sound {docId : Uuid} {lineNo : ℕ} {baseQty : Decimal} {after : StockTables}
    (ran : consume tables docId lineNo baseQty = .ok after) :
    ReservationsSound after.reservations := by
  obtain ⟨consumed, ran', rows, -⟩ := consume_ok docId lineNo sound baseQty
  cases ran.symm.trans ran'
  exact rewritten_sound sound round4_mem rows

theorem releaseWhere_sound (counts : StockReservation → Bool) :
    ReservationsSound (releaseWhere counts tables.reservations) where
  sound := by
    intro row member
    obtain ⟨before, listed, rfl⟩ := List.mem_map.mp member
    have was := sound.sound before listed
    have openNonneg := was.open_nonneg
    rw [StockReservation.openQty] at openNonneg
    have released := was.released_nonneg
    split
    · exact
        { reservedPlaces := was.reservedPlaces
          consumedPlaces := was.consumedPlaces
          releasedPlaces := sub_mem was.reservedPlaces was.consumedPlaces
          consumed_nonneg := was.consumed_nonneg
          released_nonneg := by
            change 0 ≤ before.reservedQty - before.consumedQty
            linarith
          open_nonneg := by
            change 0 ≤ before.reservedQty - before.consumedQty -
              (before.reservedQty - before.consumedQty)
            rw [sub_self] }
    · exact was
  ids := by
    have same : (releaseWhere counts tables.reservations).map (·.srvId) =
        tables.reservations.map (·.srvId) := by
      rw [releaseWhere, List.map_map]
      apply List.map_congr_left
      intro row _
      simp only [Function.comp]
      split <;> rfl
    rw [same, releaseWhere, List.length_map]
    exact sound.ids

end Sound

theorem coverFrom_places {wantBase : Decimal} (places : wantBase ∈ places4)
    (lots : List (Holding × StockLot × StockBalance)) :
    ∀ take ∈ (coverFrom wantBase lots).1, take.2 ∈ places4 := by
  induction lots generalizing wantBase with
  | nil => intro take member; cases member
  | cons lot rest ih =>
      obtain ⟨holding, found, balance⟩ := lot
      rw [coverFrom]
      split
      · intro take member
        cases member
      · dsimp only
        split
        · exact ih places
        · intro take member
          cases List.mem_cons.mp member with
          | inl head =>
              rw [head]
              exact Grid.min_mem_grid round4_mem places
          | inr later => exact ih round4_mem take later

variable {now : Instant} {line : ReservationLine} {doc : ReservingDoc}

theorem openedReservation_sound {take : Holding × Decimal} {srvId : ℕ} (places : take.2 ∈ places4)
    (positive : 0 < take.2) : (openedReservation doc line now take srvId).Sound where
  reservedPlaces := places
  consumedPlaces := zero_mem _
  releasedPlaces := zero_mem _
  consumed_nonneg := le_rfl
  released_nonneg := le_rfl
  open_nonneg := by
    change 0 ≤ take.2 - 0 - 0
    rw [sub_zero, sub_zero]
    exact positive.le

/-- The tables once a line has released what it held. -/
def releasedLine (tables : StockTables) (doc : ReservingDoc) (line : ReservationLine) :
    StockTables :=
  withReservations tables doc.docId (releaseWhere (fun reservation =>
    reservation.srcDocId = doc.docId && reservation.lineNo = line.lineNo) tables.reservations)

/-- The reservations a line opens, under the ids that follow on. -/
def openedLine (doc : ReservingDoc) (line : ReservationLine) (now : Instant)
    (takes : List (Holding × Decimal)) (firstId : ℕ) : List StockReservation :=
  (takes.zipIdx firstId).map fun take => openedReservation doc line now take.1 take.2

/-- A line that reserves at all releases what it held, opens a reservation for each take, and
brings the holdings of its document up to date. -/
theorem reserveLine_cases {before after : Reserving}
    (ran : reserveLine doc now before line = .ok after) :
    after.tables = before.tables ∨ ∃ wantBase ∈ places4, ∃ godownId,
      let released := releasedLine before.tables doc line
      let opened := openedLine doc line now
        (coverFrom wantBase (reservableLots released doc line godownId)).1
        released.reservations.length
      ckSrvQty opened = true ∧ after.tables = withReservations
        { released with
          balances := ensureBalanceRows
            (reservationHoldingsOf (released.reservations ++ opened) doc.docId) released.balances }
        doc.docId (released.reservations ++ opened) := by
  rw [reserveLine] at ran
  split at ran
  · cases ran
    exact .inl rfl
  · split at ran
    · cases ran
      exact .inl rfl
    next godownId _ =>
      refine .inr ⟨round4 (round4 line.qty * if line.factor = 0 then 1 else line.factor),
        round4_mem, godownId, ?_⟩
      dsimp only at ran ⊢
      generalize (if line.factor = 0 then 1 else line.factor) = factor at ran ⊢
      rw [← releasedLine] at ran
      generalize coverFrom (round4 (round4 line.qty * factor))
        (reservableLots (releasedLine before.tables doc line) doc line godownId) = covered at ran ⊢
      split at ran
      · cases ran
      next checked =>
        split at ran
        · cases ran
        · cases ran
          simp only [Bool.not_eq_true, Bool.not_eq_false'] at checked
          exact ⟨checked, rfl⟩

theorem reserveLine_sound {before after : Reserving}
    (sound : ReservationsSound before.tables.reservations)
    (ran : reserveLine doc now before line = .ok after) :
    ReservationsSound after.tables.reservations := by
  obtain same | ⟨wantBase, places, godownId, checked, written⟩ := reserveLine_cases ran
  · rw [same]
    exact sound
  · have released : ReservationsSound (releasedLine before.tables doc line).reservations :=
      releaseWhere_sound sound _
    have taken := coverFrom_places places
      (reservableLots (releasedLine before.tables doc line) doc line godownId)
    rw [written]
    generalize (coverFrom wantBase (reservableLots (releasedLine before.tables doc line) doc line
      godownId)).1 = takes at checked taken ⊢
    change ReservationsSound (_ ++ openedLine doc line now takes _)
    constructor
    · intro row member
      cases List.mem_append.mp member with
      | inl held => exact released.sound row held
      | inr opened =>
          have positive := List.all_eq_true.mp checked row opened
          obtain ⟨⟨take, srvId⟩, listed, rfl⟩ := List.mem_map.mp opened
          have isTake : take ∈ takes := (List.mem_zipIdx listed).2.2 ▸ List.getElem_mem _
          exact openedReservation_sound (taken take isTake) (of_decide_eq_true positive)
    · rw [List.map_append, released.ids, openedLine, List.map_map, List.length_append,
        List.length_map, List.length_zipIdx, List.range_add, ← List.range'_eq_map_range,
        ← List.zipIdx_map_snd]
      rfl

/-! ## Bills and cancellations -/

/-- The tables, and the quantities of the live bills against one order line. -/
structure BilledLine where
  tables : StockTables
  live : List Decimal

inductive BillEvent where
  | post (baseQty : Decimal)
  | cancel (baseQty : Decimal)

section Runs

variable (docId : Uuid) (lineNo : ℕ)

/-- A bill posted consumes, and a live one cancelled gives back. -/
inductive BillStep : BilledLine → BillEvent → BilledLine → Prop where
  | post {state : BilledLine} {baseQty : Decimal} {after : StockTables} (positive : 0 < baseQty)
      (ran : consume state.tables docId lineNo baseQty = .ok after) :
      BillStep state (.post baseQty) ⟨after, baseQty :: state.live⟩
  | cancel {state : BilledLine} {baseQty : Decimal} {after : StockTables}
      (isLive : baseQty ∈ state.live)
      (ran : consume state.tables docId lineNo (-baseQty) = .ok after) :
      BillStep state (.cancel baseQty) ⟨after, state.live.erase baseQty⟩

def reservedTotal (tables : StockTables) : Decimal :=
  ((consumableRows tables docId lineNo).map (·.reservedQty)).sum

def consumedTotal (tables : StockTables) : Decimal :=
  ((consumableRows tables docId lineNo).map (·.consumedQty)).sum

/-- A bill keeps to four places and its walk is not cut short; a cancel moreover finds the
live bills within what is reserved. -/
def MeetsReservations (state : BilledLine) : BillEvent → Prop
  | .post baseQty => baseQty ∈ places4 ∧
      ¬Dole.CutShort (1 / 2000) baseQty
        ((consumableRows state.tables docId lineNo).map (·.openQty))
  | .cancel baseQty => state.live.sum ≤ reservedTotal docId lineNo state.tables ∧
      ¬Dole.CutShort (1 / 2000) baseQty
        ((consumableRows state.tables docId lineNo).map (·.consumedQty))

/-- The states bills and cancellations reach when every step meets the reservations. -/
inductive BillRun (start : StockTables) : BilledLine → Prop where
  | start : BillRun start ⟨start, []⟩
  | step {state after : BilledLine} {event : BillEvent} (run : BillRun start state)
      (meets : MeetsReservations docId lineNo state event)
      (stepped : BillStep docId lineNo state event after) : BillRun start after

/-- An order line as it was reserved: nothing consumed yet, nothing released. -/
structure FreshlyReserved (tables : StockTables) : Prop where
  sound : ReservationsSound tables.reservations
  unconsumed : ∀ row ∈ consumableRows tables docId lineNo, row.consumedQty = 0
  unreleased : ∀ row ∈ consumableRows tables docId lineNo, row.releasedQty = 0

/-- What holds of every state such a run reaches. -/
structure BilledSoundly (state : BilledLine) : Prop where
  sound : ReservationsSound state.tables.reservations
  unreleased : ∀ row ∈ consumableRows state.tables docId lineNo, row.releasedQty = 0
  live : ∀ baseQty ∈ state.live, baseQty ∈ places4 ∧ 0 < baseQty
  total : consumedTotal docId lineNo state.tables =
    min (reservedTotal docId lineNo state.tables) state.live.sum

end Runs

section Totals

variable {sign : Decimal} {rows : List StockReservation} {shares : List Decimal}

theorem sum_moved_consumedQty (length : shares.length = rows.length) :
    ((moved sign rows shares).map (·.consumedQty)).sum =
      (rows.map (·.consumedQty)).sum + sign * shares.sum := by
  induction rows generalizing shares with
  | nil =>
      rw [List.length_eq_zero_iff.mp length]
      simp [moved]
  | cons row rest ih =>
      cases shares with
      | nil => cases length
      | cons share shares =>
          have tail := ih (by simpa using length)
          rw [moved] at tail ⊢
          rw [List.zipWith_cons_cons, List.map_cons, List.sum_cons, tail, movedRow_consumedQty,
            List.map_cons, List.sum_cons, List.sum_cons]
          ring

/-- A walk moves neither what is reserved nor what was released. -/
theorem map_walked {left : Decimal} {β : Type} {field : StockReservation → β}
    (kept : ∀ row after, Reconsumed row after → field after = field row) :
    (walked left rows).map field = rows.map field := by
  have walk := walked_reconsumed left rows
  generalize walked left rows = after at walk ⊢
  induction walk with
  | nil => rfl
  | cons moved _ ih => rw [List.map_cons, List.map_cons, kept _ _ moved, ih]

/-- Nothing was released, so every row stays in a status a bill reads. -/
theorem walked_readable (left : Decimal) (readable : ∀ row ∈ rows, row.isConsumable = true)
    (unreleased : ∀ row ∈ rows, row.releasedQty = 0) :
    ∀ row ∈ walked left rows, row.isConsumable = true := by
  induction rows generalizing left with
  | nil => intro row member; cases member
  | cons row rest ih =>
      have later (left : Decimal) := ih left
        (fun other member => readable other (List.mem_cons_of_mem _ member))
        (fun other member => unreleased other (List.mem_cons_of_mem _ member))
      have written (next : Decimal) : (row.consumedTo next).isConsumable = true := by
        have none := unreleased row List.mem_cons_self
        rw [StockReservation.isConsumable, StockReservation.isOpen, StockReservation.consumedTo]
        simp only [none, lt_irrefl, if_false]
        split
        · rfl
        · split <;> rfl
      have skipped : ∀ other ∈ row :: walked left rest, other.isConsumable = true :=
        List.forall_mem_cons.mpr ⟨readable row List.mem_cons_self, later left⟩
      rw [walked]
      split
      · exact readable
      · split <;> dsimp only <;> split
        · exact skipped
        · exact List.forall_mem_cons.mpr ⟨written _, later _⟩
        · exact skipped
        · exact List.forall_mem_cons.mpr ⟨written _, later _⟩

end Totals

section Steps

variable {docId : Uuid} {lineNo : ℕ} {tables after : StockTables}

variable {baseQty : Decimal}

/-- What one consumption of a line without releases leaves: the rows walked, with what was
reserved and released as it was. -/
theorem consume_rows (sound : ReservationsSound tables.reservations)
    (unreleased : ∀ row ∈ consumableRows tables docId lineNo, row.releasedQty = 0)
    (places : baseQty ∈ places4) (ran : consume tables docId lineNo baseQty = .ok after) :
    consumableRows after docId lineNo = walked baseQty (consumableRows tables docId lineNo) := by
  obtain ⟨consumed, ran', rows, lots⟩ := consume_ok docId lineNo sound baseQty
  cases ran.symm.trans ran'
  rw [round4_of_mem places] at rows
  apply consumableRows_rewritten sound rows lots
  exact walked_readable _ (fun row member => (mem_consumableRows.mp member).2.2.2) unreleased

theorem consume_unreleased
    (rows : consumableRows after docId lineNo = walked baseQty (consumableRows tables docId lineNo))
    (unreleased : ∀ row ∈ consumableRows tables docId lineNo, row.releasedQty = 0) :
    ∀ row ∈ consumableRows after docId lineNo, row.releasedQty = 0 := by
  have same : (consumableRows after docId lineNo).map (·.releasedQty) =
      (consumableRows tables docId lineNo).map (·.releasedQty) := by
    rw [rows]
    apply map_walked
    exact fun _ _ moved => (congrArg StockReservation.releasedQty moved :)
  intro row member
  have listed := List.mem_map_of_mem (f := (·.releasedQty)) member
  rw [same] at listed
  obtain ⟨was, isRow, equal⟩ := List.mem_map.mp listed
  rw [← equal]
  exact unreleased was isRow

theorem consume_reservedTotal
    (rows : consumableRows after docId lineNo = walked baseQty (consumableRows tables docId lineNo)) :
    reservedTotal docId lineNo after = reservedTotal docId lineNo tables := by
  rw [reservedTotal, rows, map_walked, reservedTotal]
  exact fun _ _ moved => (congrArg StockReservation.reservedQty moved :)

/-- One step of a run that meets the reservations. -/
theorem BilledSoundly.step {state after : BilledLine} {event : BillEvent}
    (billed : BilledSoundly docId lineNo state)
    (meets : MeetsReservations docId lineNo state event)
    (stepped : BillStep docId lineNo state event after) : BilledSoundly docId lineNo after := by
  have rowSound := consumableRows_sound docId lineNo billed.sound
  have total := billed.total
  cases stepped with
  | post positive ran =>
      rename_i baseQty tables
      obtain ⟨places, whole⟩ := meets
      have rows := consume_rows billed.sound billed.unreleased places ran
      refine ⟨consume_sound billed.sound ran, consume_unreleased rows billed.unreleased,
        List.forall_mem_cons.mpr ⟨⟨places, positive⟩, billed.live⟩, ?_⟩
      have rooms : ((consumableRows state.tables docId lineNo).map (·.openQty)).sum =
          reservedTotal docId lineNo state.tables - consumedTotal docId lineNo state.tables := by
        rw [reservedTotal, consumedTotal, ← ListSum.sum_map_sub]
        congr 1
        apply List.map_congr_left
        intro row member
        rw [StockReservation.openQty, billed.unreleased row member, sub_zero]
      have roomsNonneg : ∀ room ∈ (consumableRows state.tables docId lineNo).map (·.openQty),
          0 ≤ room := by
        intro room listed
        obtain ⟨row, member, rfl⟩ := List.mem_map.mp listed
        exact (rowSound row member).open_nonneg
      rw [consume_reservedTotal rows, List.sum_cons, consumedTotal, rows,
        walked_take rowSound places positive.le, sum_moved_consumedQty (by simp),
        Dole.sum_doled positive.le roomsNonneg whole, rooms, ← consumedTotal, total, one_mul,
        ← min_add_add_left, add_sub_cancel]
      rcases le_total (reservedTotal docId lineNo state.tables) state.live.sum with full | room
      · rw [min_eq_left full, min_eq_left (le_add_of_nonneg_right positive.le),
          min_eq_left (full.trans (le_add_of_nonneg_left positive.le))]
      · rw [min_eq_right room, add_comm]
  | cancel isLive ran =>
      rename_i baseQty tables
      obtain ⟨fits, whole⟩ := meets
      obtain ⟨places, positive⟩ := billed.live baseQty isLive
      have rows := consume_rows billed.sound billed.unreleased (neg_mem places) ran
      refine ⟨consume_sound billed.sound ran, consume_unreleased rows billed.unreleased,
        fun other member => billed.live other (List.mem_of_mem_erase member), ?_⟩
      have consumedNonneg : ∀ consumed ∈ (consumableRows state.tables docId lineNo).map
          (·.consumedQty), 0 ≤ consumed := by
        intro consumed listed
        obtain ⟨row, member, rfl⟩ := List.mem_map.mp listed
        exact (rowSound row member).consumed_nonneg
      rw [consume_reservedTotal rows, consumedTotal, rows,
        walked_give rowSound places positive.le, sum_moved_consumedQty (by simp),
        Dole.sum_doled positive.le consumedNonneg whole, ← consumedTotal, total,
        min_eq_right fits]
      have split : baseQty + (state.live.erase baseQty).sum = state.live.sum :=
        List.sum_erase isLive
      have rest : 0 ≤ (state.live.erase baseQty).sum := by
        apply List.sum_nonneg
        exact fun other member => (billed.live other (List.mem_of_mem_erase member)).2.le
      have remaining : (state.live.erase baseQty).sum ≤ reservedTotal docId lineNo state.tables := by
        linarith
      rw [min_eq_right remaining, min_eq_right (by linarith)]
      linarith

/-- Over every run whose steps meet the reservations the consumed total keeps to the bills. -/
theorem BillRun.billedSoundly {start : StockTables} {state : BilledLine}
    (fresh : FreshlyReserved docId lineNo start) (run : BillRun docId lineNo start state) :
    BilledSoundly docId lineNo state := by
  induction run with
  | start =>
      have unconsumed : consumedTotal docId lineNo start = 0 := by
        apply List.sum_eq_zero
        intro consumed listed
        obtain ⟨row, member, rfl⟩ := List.mem_map.mp listed
        exact fresh.unconsumed row member
      have reserved : 0 ≤ reservedTotal docId lineNo start := by
        apply List.sum_nonneg
        intro reserved listed
        obtain ⟨row, member, rfl⟩ := List.mem_map.mp listed
        have rowSound := fresh.sound.sound row (mem_consumableRows.mp member).1
        have openNonneg := rowSound.open_nonneg
        rw [StockReservation.openQty, fresh.unconsumed row member,
          fresh.unreleased row member] at openNonneg
        linarith
      refine ⟨fresh.sound, fresh.unreleased, fun _ member => (List.not_mem_nil member).elim, ?_⟩
      rw [unconsumed, List.sum_nil, min_eq_right reserved]
  | step _ meets stepped billed => exact billed.step meets stepped

end Steps

/-- One line of an order, with what it reserved of each of two lots. -/
def reservedLine (first second : Decimal) : StockTables :=
  let reservation (srvId lotId : ℕ) (reservedQty : Decimal) : StockReservation :=
    { srvId
      holding := ⟨51, 52, 53, 54, lotId, .SALEABLE⟩
      srcDocId := 7
      lineNo := 1
      reservedQty
      consumedQty := 0
      releasedQty := 0
      reservedOn := srvId
      status := .OPEN }
  { StockTables.empty with reservations := [reservation 0 61 first, reservation 1 62 second] }

theorem whole_mem_places4 (count : ℕ) : (count : Decimal) ∈ places4 :=
  Grid.mem_grid_iff.mpr ⟨count * 10000, by push_cast; ring⟩

theorem reservedLine_fresh (first second : ℕ) :
    ReservationsSound (reservedLine first second).reservations where
  sound := by
    intro row member
    simp only [reservedLine, List.mem_cons, List.not_mem_nil, or_false] at member
    rcases member with rfl | rfl
    · exact ⟨whole_mem_places4 first, zero_mem _, zero_mem _, le_rfl, le_rfl,
        by simp [StockReservation.openQty]⟩
    · exact ⟨whole_mem_places4 second, zero_mem _, zero_mem _, le_rfl, le_rfl,
        by simp [StockReservation.openQty]⟩
  ids := rfl

end ErpServer.Stock
