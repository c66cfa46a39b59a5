import ErpServer.Stock.Lots
import ErpServer.Lib.Dole

/-!
# What sales orders hold against the shelf

A confirmed order reserves lot by lot until each line is covered, a bill against it
consumes, a cancel releases.  The reserved quantity of every holding the order sits on is
recomputed after each write.
-/

namespace ErpServer.Stock

open Lib
open Receipt (Decimal)

structure ReservationLine where
  lineNo : ℕ
  itemId : Uuid
  /-- Of the line's unit to the item's base unit. -/
  factor : Decimal
  godownId : Option Uuid
  bucket : Option StockBucket
  qty : Decimal
  deriving DecidableEq

structure ReservingDoc where
  docId : Uuid
  companyId : Uuid
  branchId : Uuid
  deriving DecidableEq

/-- What could not be reserved: a warning, never a refusal. -/
structure ReservationShort where
  line : ℕ
  short : Decimal
  deriving DecidableEq, Repr

/-- The tables after a reservation, what each line got and what it is short of. -/
structure Reserving where
  tables : StockTables
  reserved : List (ℕ × Decimal)
  warnings : List ReservationShort

/-- Every open reservation that counts is released. -/
def releaseWhere (counts : StockReservation → Bool) (reservations : List StockReservation) :
    List StockReservation :=
  reservations.map fun reservation =>
    if counts reservation && reservation.isOpen then
      { reservation with
        releasedQty := reservation.reservedQty - reservation.consumedQty
        status := .RELEASED }
    else reservation

/-- The tables with their reservations rewritten, and the holdings of a document's
reservations brought up to date. -/
def withReservations (tables : StockTables) (docId : Uuid) (reservations : List StockReservation) :
    StockTables :=
  { tables with
    reservations
    balances := refreshReserved reservations (reservationHoldingsOf reservations docId)
      tables.balances }

/-- The lots a line may reserve from, nearest expiry first. -/
def reservableLots (tables : StockTables) (doc : ReservingDoc) (line : ReservationLine)
    (godownId : Uuid) : List (Holding × StockLot × StockBalance) :=
  let candidates := tables.balances.entries.filterMap fun (entry : Holding × StockBalance) =>
    if entry.1.companyId = doc.companyId ∧ entry.1.branchId = doc.branchId ∧
        entry.1.godownId = godownId ∧ entry.1.itemId = line.itemId ∧
        entry.1.bucket = line.bucket.getD .SALEABLE then
      (tables.lots.get? entry.1.lotId).map fun lot => (entry.1, lot, entry.2)
    else none
  candidates.insertionSort fun left right =>
    sortsBefore [left.2.1.expiryDate, left.2.2.firstInDate]
      [right.2.1.expiryDate, right.2.2.firstInDate]

/-- Lot by lot until the line is covered: the takes, and what is still wanted. -/
def coverFrom : Decimal → List (Holding × StockLot × StockBalance) → List (Holding × Decimal) × Decimal
  | wantBase, [] => ([], wantBase)
  | wantBase, (holding, _, balance) :: rest =>
      if wantBase ≤ 0 then ([], wantBase)
      else
        let free := round4 balance.availableQty
        if free ≤ 0 then coverFrom wantBase rest
        else
          let take := min free wantBase
          let (takes, left) := coverFrom (round4 (wantBase - take)) rest
          ((holding, take) :: takes, left)

def openedReservation (doc : ReservingDoc) (line : ReservationLine) (now : Instant)
    (take : Holding × Decimal) (srvId : ℕ) : StockReservation where
  srvId
  holding := take.1
  srcDocId := doc.docId
  lineNo := line.lineNo
  reservedQty := take.2
  consumedQty := 0
  releasedQty := 0
  reservedOn := now
  status := .OPEN

def ckSrvQty (reservations : List StockReservation) : Bool :=
  reservations.all fun reservation => 0 < reservation.reservedQty

/-- A line reserves a holding once. -/
def uxSrvSource (reservations : List StockReservation) : Bool :=
  (reservations.map fun reservation =>
    (reservation.srcDocId, reservation.lineNo, reservation.holding.lotId,
      reservation.holding.godownId, reservation.holding.bucket)).Nodup

/-- One line: what it held is released, and it reserves afresh. -/
def reserveLine (doc : ReservingDoc) (now : Instant) (reserving : Reserving)
    (line : ReservationLine) : Except StockError Reserving :=
  let want := round4 line.qty
  if want ≤ 0 then .ok reserving
  else match line.godownId with
    | none => .ok { reserving with warnings := reserving.warnings ++ [⟨line.lineNo, want⟩] }
    | some godownId =>
        let factor := if line.factor = 0 then 1 else line.factor
        let wantBase := round4 (want * factor)
        let released := withReservations reserving.tables doc.docId
          (releaseWhere (fun reservation => reservation.srcDocId = doc.docId &&
            reservation.lineNo = line.lineNo) reserving.tables.reservations)
        let (takes, left) := coverFrom wantBase (reservableLots released doc line godownId)
        let opened := (takes.zipIdx released.reservations.length).map fun (take, srvId) =>
          openedReservation doc line now take srvId
        let reservations := released.reservations ++ opened
        if !ckSrvQty opened then .error (.database "ck_srv_qty")
        else if !uxSrvSource reservations then .error (.database "ux_srv_source")
        else
          let ensured := { released with
            balances := ensureBalanceRows (reservationHoldingsOf reservations doc.docId)
              released.balances }
          let got := (takes.map Prod.snd).foldl (fun got take => round4 (got + take)) 0
          .ok { tables := withReservations ensured doc.docId reservations
                reserved := reserving.reserved ++ [(line.lineNo, round4 (got / factor))]
                warnings := reserving.warnings ++
                  if 1 / 2000 < left then [⟨line.lineNo, round4 (left / factor)⟩] else [] }

def reserve (tables : StockTables) (doc : ReservingDoc) (lines : List ReservationLine)
    (now : Instant) : Except StockError Reserving :=
  lines.foldlM (reserveLine doc now) { tables, reserved := [], warnings := [] }

/-- A cancelled order: every open reservation of it is released. -/
def release (tables : StockTables) (docId : Uuid) : StockTables :=
  let ofDoc (reservation : StockReservation) : Bool := reservation.srcDocId = docId
  if tables.reservations.any fun reservation => ofDoc reservation && reservation.isOpen then
    withReservations tables docId (releaseWhere ofDoc tables.reservations)
  else tables

/-! ## Consuming -/

/-- A reservation with its consumed quantity rewritten, and the status that follows. -/
def StockReservation.consumedTo (reservation : StockReservation) (next : Decimal) :
    StockReservation :=
  { reservation with
    consumedQty := next
    status :=
      if reservation.reservedQty - 1 / 2000 ≤ round4 (next + reservation.releasedQty) then
        if 0 < reservation.releasedQty then .RELEASED else .CONSUMED
      else if 0 < next then .PARTIAL else .OPEN }

/-- Row by row while anything is left to take, or to give back when it is negative: the
rows that were rewritten. -/
def consumeRows : Decimal → List StockReservation → List StockReservation
  | _, [] => []
  | left, row :: rest =>
      if |left| < 1 / 2000 then []
      else if 0 < left then
        let room := round4 (row.reservedQty - row.consumedQty - row.releasedQty)
        if room ≤ 0 then consumeRows left rest
        else
          let take := min room left
          row.consumedTo (round4 (row.consumedQty + take)) ::
            consumeRows (round4 (left - take)) rest
      else if row.consumedQty ≤ 0 then consumeRows left rest
      else
        let give := min row.consumedQty (-left)
        row.consumedTo (round4 (row.consumedQty - give)) :: consumeRows (round4 (left + give)) rest

def ckSrvSettled (reservations : List StockReservation) : Bool :=
  reservations.all fun reservation => 0 ≤ reservation.consumedQty && 0 ≤ reservation.releasedQty &&
    reservation.consumedQty + reservation.releasedQty ≤ reservation.reservedQty

/-- The reservations with the rewritten ones in their places. -/
def rewriteReservations (rewritten reservations : List StockReservation) :
    List StockReservation :=
  reservations.map fun reservation =>
    (rewritten.find? (·.srvId = reservation.srvId)).getD reservation

/-- A bill against an order line takes from its reservations, nearest expiry first; a
cancelled bill gives back. -/
def consume (tables : StockTables) (docId : Uuid) (lineNo : ℕ) (baseQty : Decimal) :
    Except StockError StockTables :=
  let left := round4 baseQty
  let expiryOf (reservation : StockReservation) : Option Date :=
    (tables.lots.get? reservation.holding.lotId).bind (·.expiryDate)
  let rows := (tables.reservations.filter fun reservation =>
    reservation.srcDocId = docId && reservation.lineNo = lineNo &&
      (reservation.isOpen || reservation.status = .CONSUMED)).insertionSort fun first second =>
    sortsBefore [expiryOf first, some first.reservedOn] [expiryOf second, some second.reservedOn]
  if left = 0 ∨ rows = [] then .ok tables
  else
    let rewritten := consumeRows left rows
    if !ckSrvSettled rewritten then .error (.database "ck_srv_settled")
    else .ok (withReservations tables docId (rewriteReservations rewritten tables.reservations))

/-! ## The walk over an order line's reservations

`consume` read as a doling out: a bill's quantity over what each reservation still holds, a
cancelled bill's over what each has consumed. -/

/-- The numbers of four places. -/
abbrev places4 : AddSubgroup Decimal := Grid.grid (1 / 10000)

variable {value : Decimal} {row : StockReservation}

theorem round4_of_mem (member : value ∈ places4) : round4 value = value :=
  Grid.halfUp_of_mem (by norm_num) member

theorem round4_mem : round4 value ∈ places4 := Grid.halfUp_mem

namespace StockReservation

/-- In a status a bill takes from, and gives back to. -/
def isConsumable (row : StockReservation) : Bool := row.isOpen || row.status = .CONSUMED

/-- A reservation as every run leaves it: four places, and the table's check. -/
structure Sound (row : StockReservation) : Prop where
  reservedPlaces : row.reservedQty ∈ places4
  consumedPlaces : row.consumedQty ∈ places4
  releasedPlaces : row.releasedQty ∈ places4
  consumed_nonneg : 0 ≤ row.consumedQty
  released_nonneg : 0 ≤ row.releasedQty
  open_nonneg : 0 ≤ row.openQty

variable {row : StockReservation}

@[simp] theorem consumedTo_consumedTo (first second : Decimal) :
    (row.consumedTo first).consumedTo second = row.consumedTo second := rfl

@[simp] theorem consumedTo_srvId (next : Decimal) : (row.consumedTo next).srvId = row.srvId := rfl

@[simp] theorem consumedTo_consumedQty (next : Decimal) :
    (row.consumedTo next).consumedQty = next := rfl

theorem Sound.openPlaces (sound : row.Sound) : row.openQty ∈ places4 :=
  sub_mem (sub_mem sound.reservedPlaces sound.consumedPlaces) sound.releasedPlaces

theorem Sound.consumedTo (sound : row.Sound) {next : Decimal} (places : next ∈ places4)
    (nonneg : 0 ≤ next) (fits : next ≤ row.consumedQty + row.openQty) :
    (row.consumedTo next).Sound where
  reservedPlaces := sound.reservedPlaces
  consumedPlaces := places
  releasedPlaces := sound.releasedPlaces
  consumed_nonneg := nonneg
  released_nonneg := sound.released_nonneg
  open_nonneg := by
    change 0 ≤ row.reservedQty - next - row.releasedQty
    rw [openQty] at fits
    linarith

end StockReservation

/-! ## Every row of the walk -/

/-- The rows with the ones `consumeRows` rewrites in their places. -/
def walked : Decimal → List StockReservation → List StockReservation
  | _, [] => []
  | left, row :: rest =>
      if |left| < 1 / 2000 then row :: rest
      else if 0 < left then
        let room := round4 (row.reservedQty - row.consumedQty - row.releasedQty)
        if room ≤ 0 then row :: walked left rest
        else
          let take := min room left
          row.consumedTo (round4 (row.consumedQty + take)) :: walked (round4 (left - take)) rest
      else if row.consumedQty ≤ 0 then row :: walked left rest
      else
        let give := min row.consumedQty (-left)
        row.consumedTo (round4 (row.consumedQty - give)) :: walked (round4 (left + give)) rest

theorem consumeRows_sublist (left : Decimal) (rows : List StockReservation) :
    (consumeRows left rows).Sublist (walked left rows) := by
  induction rows generalizing left with
  | nil => exact .slnil
  | cons row rest ih =>
      simp only [consumeRows, walked]
      split
      · exact List.nil_sublist _
      · split
        · split
          · exact (ih left).cons _
          · exact (ih _).cons_cons _
        · split
          · exact (ih left).cons _
          · exact (ih _).cons_cons _

theorem walked_srvId (left : Decimal) (rows : List StockReservation) :
    (walked left rows).map (·.srvId) = rows.map (·.srvId) := by
  induction rows generalizing left with
  | nil => rfl
  | cons row rest ih =>
      simp only [walked]
      split
      · rfl
      · split <;> split <;> simp [ih]

variable {left sign : Decimal} {rows : List StockReservation} {shares : List Decimal}

theorem find_consumeRows_of_not_mem (absent : row.srvId ∉ rows.map (·.srvId)) :
    (consumeRows left rows).find? (·.srvId = row.srvId) = none := by
  rw [List.find?_eq_none]
  intro other member same
  apply absent
  rw [← walked_srvId left rows, ← of_decide_eq_true same]
  exact List.mem_map_of_mem ((consumeRows_sublist left rows).subset member)

/-- Rewritten by id, the rows of a walk are the rows walked. -/
theorem rewriteReservations_consumeRows (ids : (rows.map (·.srvId)).Nodup) (left : Decimal) :
    rewriteReservations (consumeRows left rows) rows = walked left rows := by
  induction rows generalizing left with
  | nil => rfl
  | cons row rest ih =>
      rw [List.map_cons, List.nodup_cons] at ids
      have skipped (left : Decimal) :
          rewriteReservations (consumeRows left rest) (row :: rest) = row :: walked left rest := by
        rw [rewriteReservations, List.map_cons, find_consumeRows_of_not_mem ids.1,
          Option.getD_none]
        exact congrArg _ (ih ids.2 left)
      have rewritten (left next : Decimal) :
          rewriteReservations (row.consumedTo next :: consumeRows left rest) (row :: rest) =
            row.consumedTo next :: walked left rest := by
        rw [rewriteReservations, List.map_cons, List.find?_cons_of_pos (by simp),
          Option.getD_some, ← ih ids.2 left]
        congr 1
        apply List.map_congr_left
        intro other member
        have different : row.srvId ≠ other.srvId := by
          intro same
          exact ids.1 (same ▸ List.mem_map_of_mem member)
        rw [List.find?_cons_of_neg (by rw [decide_eq_true_eq]; exact different)]
      have untouched : rewriteReservations [] (row :: rest) = row :: rest := by
        simp [rewriteReservations]
      simp only [consumeRows, walked]
      split
      · exact untouched
      · split
        · split
          · exact skipped left
          · exact rewritten _ _
        · split
          · exact skipped left
          · exact rewritten _ _

theorem walked_sound (sound : ∀ row ∈ rows, row.Sound) (places : left ∈ places4) :
    ∀ row ∈ walked left rows, row.Sound := by
  induction rows generalizing left with
  | nil => intro row member; cases member
  | cons row rest ih =>
      have rowSound := sound row List.mem_cons_self
      have restSound : ∀ other ∈ rest, other.Sound :=
        fun other member => sound other (List.mem_cons_of_mem _ member)
      have roomPlaces := rowSound.openPlaces
      have consumedPlaces := rowSound.consumedPlaces
      have skipped : ∀ other ∈ row :: walked left rest, other.Sound := by
        intro other member
        cases List.mem_cons.mp member with
        | inl head => exact head ▸ rowSound
        | inr later => exact ih restSound places other later
      have rewritten (next remaining : Decimal) (nextPlaces : next ∈ places4) (nonneg : 0 ≤ next)
          (fits : next ≤ row.consumedQty + row.openQty) (remainingPlaces : remaining ∈ places4) :
          ∀ other ∈ row.consumedTo (round4 next) :: walked (round4 remaining) rest, other.Sound := by
        intro other member
        rw [round4_of_mem nextPlaces, round4_of_mem remainingPlaces] at member
        cases List.mem_cons.mp member with
        | inl head => exact head ▸ rowSound.consumedTo nextPlaces nonneg fits
        | inr later => exact ih restSound remainingPlaces other later
      have consumedNonneg := rowSound.consumed_nonneg
      have openNonneg := rowSound.open_nonneg
      rw [walked]
      split
      · exact sound
      · split
        next positive =>
          change ∀ other ∈ if round4 row.openQty ≤ 0 then row :: walked left rest
            else row.consumedTo (round4 (row.consumedQty + min (round4 row.openQty) left)) ::
              walked (round4 (left - min (round4 row.openQty) left)) rest, other.Sound
          rw [round4_of_mem roomPlaces]
          have takePlaces := Grid.min_mem_grid roomPlaces places
          split
          · exact skipped
          · apply rewritten _ _ (add_mem consumedPlaces takePlaces) _ _ (sub_mem places takePlaces)
            · exact add_nonneg consumedNonneg (le_min openNonneg positive.le)
            · exact add_le_add_right (min_le_left _ _) _
        next negative =>
          have givePlaces := Grid.min_mem_grid consumedPlaces (neg_mem places)
          split
          · exact skipped
          · apply rewritten _ _ (sub_mem consumedPlaces givePlaces) _ _ (add_mem places givePlaces)
            · exact sub_nonneg.mpr (min_le_left _ _)
            · have give : 0 ≤ min row.consumedQty (-left) :=
                le_min consumedNonneg (neg_nonneg.mpr (not_lt.mp negative))
              linarith

/-! ## A walk doles out -/

theorem walked_of_lt (little : |left| < 1 / 2000) (rows : List StockReservation) :
    walked left rows = rows := by
  cases rows with
  | nil => rfl
  | cons row rest => rw [walked, if_pos little]

/-- A row its share is moved to or from; one without a share is not written. -/
def movedRow (sign : Decimal) (row : StockReservation) (share : Decimal) : StockReservation :=
  if share = 0 then row else row.consumedTo (row.consumedQty + sign * share)

def moved (sign : Decimal) (rows : List StockReservation) (shares : List Decimal) :
    List StockReservation :=
  List.zipWith (movedRow sign) rows shares

theorem movedRow_consumedQty (sign : Decimal) (row : StockReservation) (share : Decimal) :
    (movedRow sign row share).consumedQty = row.consumedQty + sign * share := by
  rw [movedRow]
  split
  next none => rw [none, mul_zero, add_zero]
  next => rfl

theorem moved_zeros {amounts : List Decimal} (length : amounts.length = rows.length) :
    moved sign rows (amounts.map fun _ => 0) = rows := by
  induction rows generalizing amounts with
  | nil => rfl
  | cons row rest ih =>
      cases amounts with
      | nil => cases length
      | cons amount amounts =>
          rw [List.map_cons, moved, List.zipWith_cons_cons, movedRow, if_pos rfl]
          exact congrArg _ (ih (by simpa using length))

theorem moved_consumedQty : (moved sign rows shares).map (·.consumedQty) =
      List.zipWith (fun row share => row.consumedQty + sign * share) rows shares := by
  rw [moved, List.map_zipWith]
  simp only [movedRow_consumedQty]

theorem forall_moved (length : shares.length = rows.length) (holds : StockReservation → Prop) :
    (∀ row ∈ moved sign rows shares, holds row) ↔
      List.Forall₂ (fun row share => holds (movedRow sign row share)) rows shares := by
  induction rows generalizing shares with
  | nil =>
      rw [List.length_eq_zero_iff.mp length]
      exact ⟨fun _ => .nil, fun _ row member => by cases member⟩
  | cons row rest ih =>
      cases shares with
      | nil => cases length
      | cons share shares =>
          rw [moved, List.zipWith_cons_cons, List.forall_mem_cons, List.forall₂_cons,
            ← ih (by simpa using length)]
          exact Iff.rfl

/-- Moved and moved back, the rows are as they were when each moved by one share, and each
that was written had the status its quantities say. -/
theorem moved_back_iff {back : List Decimal} (length : shares.length = rows.length)
    (backLength : back.length = rows.length) : moved (-1) (moved 1 rows shares) back = rows ↔
      back = shares ∧ List.Forall₂ (fun row share =>
        share = 0 ∨ row.consumedTo row.consumedQty = row) rows shares := by
  induction rows generalizing shares back with
  | nil =>
      rw [List.length_eq_zero_iff.mp length, List.length_eq_zero_iff.mp backLength]
      exact ⟨fun _ => ⟨rfl, .nil⟩, fun _ => rfl⟩
  | cons row rest ih =>
      cases shares with
      | nil => cases length
      | cons share shares =>
          cases back with
          | nil => cases backLength
          | cons give back =>
              have head : movedRow (-1) (movedRow 1 row share) give = row ↔
                  give = share ∧ (share = 0 ∨ row.consumedTo row.consumedQty = row) := by
                constructor
                · intro same
                  have quantities := (congrArg StockReservation.consumedQty same :)
                  rw [movedRow_consumedQty, movedRow_consumedQty] at quantities
                  have shares : give = share := by linarith
                  refine ⟨shares, or_iff_not_imp_left.mpr fun some => ?_⟩
                  rw [shares, movedRow, if_neg some, movedRow, if_neg some] at same
                  rwa [StockReservation.consumedTo_consumedQty, one_mul, neg_one_mul,
                    add_neg_cancel_right] at same
                · rintro ⟨rfl, none | written⟩
                  · rw [none, movedRow, if_pos rfl, movedRow, if_pos rfl]
                  · rw [movedRow]
                    split
                    next none => rw [movedRow, if_pos none]
                    next some =>
                      rw [movedRow, if_neg some, StockReservation.consumedTo_consumedTo,
                        StockReservation.consumedTo_consumedQty, one_mul, neg_one_mul,
                        add_neg_cancel_right]
                      exact written
              have tail := ih (by simpa using length) (by simpa using backLength)
              have parts : moved (-1) (moved 1 (row :: rest) (share :: shares)) (give :: back) =
                  movedRow (-1) (movedRow 1 row share) give ::
                    moved (-1) (moved 1 rest shares) back := rfl
              rw [parts, List.cons.injEq, head, tail, List.cons.injEq, List.forall₂_cons]
              exact and_and_and_comm

/-- A row stays in a status a bill reads unless it is filled and was partly released. -/
theorem StockReservation.Sound.isConsumable_iff (sound : row.Sound) {share : Decimal}
    (places : share ∈ places4) : (row.consumedTo (row.consumedQty + share)).isConsumable = true ↔
      row.releasedQty = 0 ∨ share < row.openQty - 1 / 2000 := by
  have filled : row.reservedQty - 1 / 2000 ≤
      round4 (row.consumedQty + share + row.releasedQty) ↔ row.openQty - 1 / 2000 ≤ share := by
    rw [round4_of_mem (add_mem (add_mem sound.consumedPlaces places) sound.releasedPlaces),
      StockReservation.openQty]
    constructor
    · intro full
      linarith
    · intro full
      linarith
  have nonneg := sound.released_nonneg
  rw [StockReservation.isConsumable, StockReservation.isOpen, StockReservation.consumedTo]
  have short : share < row.openQty - 1 / 2000 ↔ ¬row.openQty - 1 / 2000 ≤ share := not_le.symm
  simp only [filled, short]
  by_cases full : row.openQty - 1 / 2000 ≤ share
  · simp only [full, if_true, not_true_eq_false, or_false]
    by_cases released : 0 < row.releasedQty
    · simp only [released, if_true]
      simp [released.ne']
    · simp only [released, if_false]
      simp [le_antisymm (not_lt.mp released) nonneg]
  · simp only [full, if_false, not_false_eq_true, or_true, iff_true]
    split <;> rfl

section Walk

variable {left : Decimal} {rows : List StockReservation}
  (sound : ∀ row ∈ rows, row.Sound) (places : left ∈ places4) (nonneg : 0 ≤ left)

include sound places nonneg

/-- A bill takes: its quantity is doled out over what each row still holds. -/
theorem walked_take :
    walked left rows = moved 1 rows (Dole.doled (1 / 2000) left (rows.map (·.openQty))) := by
  induction rows generalizing left with
  | nil => rfl
  | cons row rest ih =>
      by_cases little : left < 1 / 2000
      · rw [walked_of_lt (by rwa [abs_of_nonneg nonneg]), Dole.doled_of_lt little,
          moved_zeros (by simp)]
      · have enough := not_lt.mp little
        have positive : 0 < left := lt_of_lt_of_le (by norm_num) enough
        have rowSound := sound row List.mem_cons_self
        have roomPlaces := rowSound.openPlaces
        have takePlaces := Grid.min_mem_grid roomPlaces places
        have later := ih (fun other member => sound other (List.mem_cons_of_mem _ member))
          (sub_mem places takePlaces) Dole.left_after_nonneg
        rw [walked, if_neg (by rwa [abs_of_nonneg nonneg]), if_pos positive, List.map_cons,
          Dole.doled_cons_of_le enough, moved, List.zipWith_cons_cons, ← moved, ← later]
        change (if round4 row.openQty ≤ 0 then _ else _) = _
        rw [round4_of_mem roomPlaces]
        split
        next full =>
          have none : row.openQty = 0 := le_antisymm full rowSound.open_nonneg
          rw [none, min_eq_left nonneg, sub_zero, movedRow, if_pos rfl]
        next room =>
          have some : min row.openQty left ≠ 0 := (lt_min (not_le.mp room) positive).ne'
          change row.consumedTo (round4 (row.consumedQty + min (round4 row.openQty) left)) ::
            walked (round4 (left - min (round4 row.openQty) left)) rest = _
          rw [round4_of_mem roomPlaces,
            round4_of_mem (add_mem rowSound.consumedPlaces takePlaces),
            round4_of_mem (sub_mem places takePlaces), movedRow, if_neg some, one_mul]

/-- A cancelled bill gives back: its quantity is doled out over what each row has consumed. -/
theorem walked_give :
    walked (-left) rows =
      moved (-1) rows (Dole.doled (1 / 2000) left (rows.map (·.consumedQty))) := by
  induction rows generalizing left with
  | nil => rfl
  | cons row rest ih =>
      have size : |-left| = left := by rw [abs_neg, abs_of_nonneg nonneg]
      by_cases little : left < 1 / 2000
      · rw [walked_of_lt (by rwa [size]), Dole.doled_of_lt little, moved_zeros (by simp)]
      · have enough := not_lt.mp little
        have positive : 0 < left := lt_of_lt_of_le (by norm_num) enough
        have rowSound := sound row List.mem_cons_self
        have consumedPlaces := rowSound.consumedPlaces
        have givePlaces := Grid.min_mem_grid consumedPlaces places
        have later := ih (fun other member => sound other (List.mem_cons_of_mem _ member))
          (sub_mem places givePlaces) Dole.left_after_nonneg
        rw [walked, if_neg (by rwa [size]), if_neg (by linarith), List.map_cons,
          Dole.doled_cons_of_le enough, moved, List.zipWith_cons_cons, ← moved, ← later]
        split
        next untouched =>
          have none : row.consumedQty = 0 := le_antisymm untouched rowSound.consumed_nonneg
          rw [none, min_eq_left nonneg, sub_zero, movedRow, if_pos rfl]
        next consumed =>
          have some : min row.consumedQty left ≠ 0 := (lt_min (not_le.mp consumed) positive).ne'
          have back : -left + min row.consumedQty left = -(left - min row.consumedQty left) := by
            ring
          have moves : row.consumedQty + -1 * min row.consumedQty left =
              row.consumedQty - min row.consumedQty left := by
            ring
          rw [neg_neg]
          change row.consumedTo (round4 (row.consumedQty - min row.consumedQty left)) ::
            walked (round4 (-left + min row.consumedQty left)) rest = _
          rw [round4_of_mem (sub_mem consumedPlaces givePlaces), back,
            round4_of_mem (neg_mem (sub_mem places givePlaces)), movedRow, if_neg some, moves]

end Walk

end ErpServer.Stock
