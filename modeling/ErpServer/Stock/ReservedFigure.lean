import ErpServer.Stock.ReservationBills

/-!
# The reserved figure of a balance

A balance carries what the open reservations of its holding still hold, so that what may
still be sold is read off one row.  Nothing increments the figure: every call recomputes it
for the holdings of its own document, and moves no reservation of another.
-/

namespace ErpServer.Stock

open Lib
open Receipt (Decimal)

/-- What moves the reservations of any document: an order reserves, or it is cancelled, or a
bill against one of its lines takes or gives back.  A call that throws moves nothing. -/
inductive ReservationStep (tables : StockTables) : StockTables → Prop where
  | reserve {doc : ReservingDoc} {lines : List ReservationLine} {now : Instant}
      {after : Reserving} (ran : reserve tables doc lines now = .ok after) :
      ReservationStep tables after.tables
  | release (docId : Uuid) : ReservationStep tables (release tables docId)
  | consume {docId : Uuid} {lineNo : ℕ} {baseQty : Decimal} {after : StockTables}
      (ran : consume tables docId lineNo baseQty = .ok after) : ReservationStep tables after

/-- Every balance carries what the open reservations of its holding still hold. -/
structure ReservedInStep (tables : StockTables) : Prop where
  sound : ReservationsSound tables.reservations
  carried : ∀ entry ∈ tables.balances.entries,
    entry.2.reservedQty = reservedOf tables.reservations entry.1

/-! ## A document's reservations rewritten -/

/-- The reservations of the others are as they were, and the document keeps its holdings. -/
structure RewritesDoc (docId : Uuid) (before after : List StockReservation) : Prop where
  others : (after.filter fun row => row.srcDocId ≠ docId) =
    before.filter fun row => row.srcDocId ≠ docId
  places : reservationHoldingsOf before docId ⊆ reservationHoldingsOf after docId

section Rewriting

variable {docId : Uuid} {after : List StockReservation} {holding : Holding} {tables : StockTables}

theorem mem_reservationHoldingsOf {reservations : List StockReservation} :
    holding ∈ reservationHoldingsOf reservations docId ↔
      ∃ row ∈ reservations, row.srcDocId = docId ∧ row.holding = holding := by
  simp [reservationHoldingsOf, and_assoc]

/-- What a holding holds is of the others where the document does not sit on it. -/
theorem reservedOf_others {rows : List StockReservation}
    (apart : holding ∉ reservationHoldingsOf rows docId) :
    reservedOf rows holding = reservedOf (rows.filter fun row => row.srcDocId ≠ docId) holding := by
  rw [reservedOf, reservedOf, List.filter_filter]
  congr 2
  apply List.filter_congr
  intro row listed
  by_cases ofDoc : row.srcDocId = docId
  · have away : row.holding ≠ holding := fun here =>
      apart (mem_reservationHoldingsOf.mpr ⟨row, listed, ofDoc, here⟩)
    simp [away]
  · simp [ofDoc]

/-- The rewritten reservations of a document, with its holdings brought up to date. -/
theorem ReservedInStep.rewrites (inStep : ReservedInStep tables)
    (rewrites : RewritesDoc docId tables.reservations after) (sound : ReservationsSound after)
    {balances : OrderedMap Holding StockBalance}
    (entries : ∀ entry ∈ balances.entries, entry ∈ tables.balances.entries ∨
      entry.1 ∈ reservationHoldingsOf after docId) :
    ReservedInStep (withReservations { tables with balances } docId after) := by
  refine ⟨sound, fun entry listed => ?_⟩
  obtain ⟨held, isHeld, rfl⟩ := List.mem_map.mp listed
  dsimp only
  split
  · rfl
  · next apart =>
      rw [inStep.carried held ((entries held isHeld).resolve_right apart),
        reservedOf_others fun was => apart (rewrites.places was), ← rewrites.others]
      exact (reservedOf_others apart).symm

/-- A rewriting in place. -/
theorem ReservedInStep.changes (inStep : ReservedInStep tables)
    {change : StockReservation → StockReservation}
    (places : ∀ row ∈ tables.reservations,
      (change row).holding = row.holding ∧ (change row).srcDocId = row.srcDocId)
    (others : ∀ row ∈ tables.reservations, row.srcDocId ≠ docId → change row = row)
    (sound : ReservationsSound (tables.reservations.map change)) :
    ReservedInStep (withReservations tables docId (tables.reservations.map change)) := by
  refine inStep.rewrites ⟨?_, ?_⟩ sound fun entry listed => Or.inl listed
  · rw [List.filter_map, List.filter_congr fun row listed => by
      rw [Function.comp_apply, (places row listed).2]]
    apply (List.map_congr_left _).trans (List.map_id _)
    intro row listed
    obtain ⟨isHeld, other⟩ := List.mem_filter.mp listed
    exact others row isHeld (of_decide_eq_true other)
  · intro holding sits
    obtain ⟨row, listed, ofDoc, here⟩ := mem_reservationHoldingsOf.mp sits
    obtain ⟨stays, source⟩ := places row listed
    exact mem_reservationHoldingsOf.mpr ⟨change row, List.mem_map_of_mem listed,
      source.trans ofDoc, stays.trans here⟩

end Rewriting

/-! ## Each call -/

section Calls

variable {tables : StockTables} {docId : Uuid}

theorem ReservedInStep.releases (inStep : ReservedInStep tables)
    {counts : StockReservation → Bool} (ofDoc : ∀ row, counts row = true → row.srcDocId = docId) :
    ReservedInStep (withReservations tables docId (releaseWhere counts tables.reservations)) := by
  apply inStep.changes
  · intro row _
    split
    · exact ⟨rfl, rfl⟩
    · exact ⟨rfl, rfl⟩
  · intro row _ other
    rw [if_neg]
    rw [Bool.and_eq_true]
    exact fun both => other (ofDoc row both.1)
  · exact releaseWhere_sound inStep.sound counts

theorem ReservedInStep.consume (inStep : ReservedInStep tables) {lineNo : ℕ} {baseQty : Decimal}
    {after : StockTables} (ran : Stock.consume tables docId lineNo baseQty = .ok after) :
    ReservedInStep after := by
  have sound := consume_sound inStep.sound ran
  rw [Stock.consume] at ran
  split at ran
  · cases ran
    exact inStep
  · dsimp only at ran
    split at ran
    · cases ran
    · cases ran
      apply inStep.changes _ _ sound
      · intro row listed
        have moved := @rewrittenRow_reconsumed tables docId lineNo (round4 baseQty) inStep.sound
          row listed
        exact ⟨(congrArg StockReservation.holding moved :),
          (congrArg StockReservation.srcDocId moved :)⟩
      · intro row listed other
        apply @rewrittenRow_of_not_mem tables docId lineNo (round4 baseQty) inStep.sound row listed
        exact fun member => other (mem_consumableRows.mp member).2.1

/-- A row that is added is of a holding that is asked for. -/
theorem mem_ensureBalanceRows {holdings : List Holding}
    {balances : OrderedMap Holding StockBalance} :
    ∀ entry ∈ (ensureBalanceRows holdings balances).entries,
      entry ∈ balances.entries ∨ entry.1 ∈ holdings := by
  unfold ensureBalanceRows OrderedMap.insertMissing OrderedMap.upsert
  induction holdings generalizing balances with
  | nil => exact fun _ listed => Or.inl listed
  | cons first rest ih =>
      intro entry listed
      rcases ih entry listed with before | later
      · rcases OrderedMap.mem_entries_set before with rfl | held
        · exact Or.inr List.mem_cons_self
        · exact Or.inl held
      · exact Or.inr (List.mem_cons_of_mem _ later)

theorem ReservedInStep.reserveLine {doc : ReservingDoc} {now : Instant} {before after : Reserving}
    {line : ReservationLine} (inStep : ReservedInStep before.tables)
    (ran : Stock.reserveLine doc now before line = .ok after) : ReservedInStep after.tables := by
  have sound := reserveLine_sound inStep.sound ran
  obtain same | ⟨wantBase, _, godownId, _, written⟩ := reserveLine_cases ran
  · rw [same]
    exact inStep
  · have released : ReservedInStep (releasedLine before.tables doc line) :=
      inStep.releases fun row counted => of_decide_eq_true (Bool.and_eq_true_iff.mp counted).1
    rw [written] at sound ⊢
    refine released.rewrites ⟨?_, ?_⟩ sound mem_ensureBalanceRows
    · refine (List.filter_append _ _).trans (List.append_right_eq_self.mpr ?_)
      rw [List.filter_eq_nil_iff]
      intro row opened
      obtain ⟨take, _, rfl⟩ := List.mem_map.mp opened
      simp [openedReservation]
    · intro holding sits
      obtain ⟨row, listed, facts⟩ := mem_reservationHoldingsOf.mp sits
      exact mem_reservationHoldingsOf.mpr ⟨row, List.mem_append_left _ listed, facts⟩

theorem ReservedInStep.step {after : StockTables} (inStep : ReservedInStep tables)
    (step : ReservationStep tables after) : ReservedInStep after := by
  cases step with
  | reserve ran =>
      apply Fold.foldlM_invariant ran (motive := fun _ reserving =>
        ReservedInStep reserving.tables) inStep
      exact fun _ _ _ _ _ kept stepped => kept.reserveLine stepped
  | release docId =>
      rw [release]
      split
      · exact inStep.releases fun row counted => of_decide_eq_true counted
      · exact inStep
  | consume ran => exact inStep.consume ran

end Calls

/-- Through every run of reservations, cancels, bills and cancelled bills, of any orders, each
balance carries what its holding's open reservations hold. -/
theorem reserved_in_step {start finish : StockTables} (inStep : ReservedInStep start)
    (run : Relation.ReflTransGen ReservationStep start finish) : ReservedInStep finish := by
  induction run with
  | refl => exact inStep
  | tail _ step ih => exact ih.step step

/-- Two lots that hold an order's five and three, each balance carrying its own. -/
def shelf : StockTables :=
  let order := reservedLine 5 3
  let holdings := reservationHoldingsOf order.reservations 7
  withReservations { order with balances := ensureBalanceRows holdings .empty } 7
    order.reservations

/-- Of the eight seven are billed, and the rest is cancelled. -/
theorem billed_and_cancelled_in_step : ∃ billed, consume shelf 7 1 7 = .ok billed ∧
    shelf.balances.values.map (·.reservedQty) = [5, 3] ∧ ReservedInStep (release billed 7) := by
  have sound : ReservationsSound shelf.reservations := by
    exact_mod_cast reservedLine_fresh 5 3
  obtain ⟨billed, ran, -⟩ := consume_ok 7 1 sound 7
  refine ⟨billed, ran, by decide +kernel, ?_⟩
  apply @reserved_in_step shelf _ ⟨sound, by decide +kernel⟩
  exact .tail (.single (.consume ran)) (.release 7)

end ErpServer.Stock
