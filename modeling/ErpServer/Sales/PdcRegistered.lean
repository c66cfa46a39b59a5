import ErpServer.Lib.Fold
import ErpServer.Sales.PdcRegister

/-!
# What registering a document's cheques leaves

The call succeeds, and leaves each cheque of the document one live row of its own, exactly
where every cheque has a number and a date that the rules and the table take, no cheque has
two rows, and no cheque takes the number that a row re-synced after it still holds.  No row
past `HELD` changes.
-/

namespace ErpServer.Sales.PdcRegister

open Lib.UniqueIndex AccPdcRegister

/-! ## The law -/

/-- The number a cheque is registered under. -/
def instrumentNo (cheque : PdcTenderLine) : Option JsString := (requireInstrumentNo cheque).toOption

/-- The key of a receivable cheque of the document's party under a number. -/
def instrumentKey (doc : PdcDocument) (number : JsString) :
    String × String × InstrumentType × JsString × String :=
  (doc.companyId, doc.partyId, .CHEQUE, number, doc.accYear)

/-- A live row of a year that names a tender. -/
def ofTender (year tdId : String) (row : AccPdcRegister) : Bool :=
  row.live && row.apdAccYear = year && row.apdTenderId = some tdId

def rowsOf (year : String) (rows : List AccPdcRegister) (tdId : String) : List AccPdcRegister :=
  rows.filter (ofTender year tdId)

section Law

variable (doc : PdcDocument) (rules : PdcDocumentRules) (tenders : DocTenders) (opts : PdcOptions)
variable (register later : Register)

/-- The cheque numbers are distinct and free for the party, and the document's rows held. -/
structure Allowed : Prop where
  distinct : ((toRegistrableCheques tenders.live).map instrumentNo).Nodup
  free : ∀ row ∈ register.rows, row.live = true → row.apdAccYear = doc.accYear →
    row.apdCompanyId = doc.companyId → row.apdPartyId = doc.partyId →
    row.apdInstrumentType = .CHEQUE →
    some row.apdInstrumentNo ∈ (toRegistrableCheques tenders.live).map instrumentNo →
    ofDocument doc tenders row = true
  held : ∀ row ∈ findDocPdcRows doc tenders register, row.apdStatus = .HELD

/-- The voucher a cheque's row names afterwards: the one it had, where that is kept. -/
def voucherOf (cheque : PdcTenderLine) : Option PdcVoucher :=
  if opts.keepStoredVoucher then
    (storedRow (findDocPdcRows doc tenders register) cheque.tdId).elim opts.voucher apdVoucher
  else opts.voucher

/-- A row that says what the cheque says. -/
structure Carries (cheque : PdcTenderLine) (row : AccPdcRegister) : Prop where
  status : row.apdStatus = .HELD
  number : instrumentNo cheque = some row.apdInstrumentNo
  date : cheque.tdInstrumentDate = some row.apdInstrumentDate
  amount : row.apdAmount = cheque.tdTotalAmt
  voucher : row.apdVoucher = voucherOf doc tenders opts register cheque

/-- Each cheque has one live row, which carries it, and the document no other. -/
structure Registered : Prop where
  each : ∀ cheque ∈ toRegistrableCheques tenders.live,
    ∃ row, rowsOf doc.accYear later.rows cheque.tdId = [row] ∧
      Carries doc tenders opts register cheque row
  only : ∀ row ∈ findDocPdcRows doc tenders later,
    ∃ cheque ∈ toRegistrableCheques tenders.live, row.apdTenderId = some cheque.tdId

/-- The cheque has a date that the document's rules and the table take. -/
def Dated (cheque : PdcTenderLine) : Prop :=
  ∃ date ∈ (requireInstrumentDate cheque doc.docDate rules).toOption,
    doc.docDate.plusMonths (-3) ≤ date.getTime ∧ date.getTime ≤ doc.docDate.plusMonths 12

/-- No live row of the second cheque holds the number of the first. -/
def Unblocked (cheque other : PdcTenderLine) : Prop :=
  ∀ row ∈ rowsOf doc.accYear register.rows other.tdId, ∀ number ∈ instrumentNo cheque,
    row.uxApdInstrument ≠ some (instrumentKey doc number)

/-- The cheques have numbers and dates, none has two rows, and in their order none takes a
number that a row of a later one holds. -/
structure Registrable : Prop where
  numbered : ∀ cheque ∈ toRegistrableCheques tenders.live, instrumentNo cheque ≠ none
  dated : ∀ cheque ∈ toRegistrableCheques tenders.live, Dated doc rules cheque
  single : ∀ cheque ∈ toRegistrableCheques tenders.live,
    (rowsOf doc.accYear register.rows cheque.tdId).length ≤ 1
  unblocked : (toRegistrableCheques tenders.live).Pairwise (Unblocked doc register)

end Law

/-! ## Writes -/

namespace Register

variable {register later : Register}

variable {row : AccPdcRegister} {change : AccPdcRegister → AccPdcRegister}

theorem eq_of_id {other : AccPdcRegister} (member : row ∈ register.rows)
    (otherMem : other ∈ register.rows) (same : row.apdId = other.apdId) : row = other :=
  List.inj_on_of_nodup_map register.ids member otherMem same

variable {rows : List AccPdcRegister}

theorem written_rows {ids : (rows.map apdId).Nodup} (done : written rows ids = .ok later) :
    later.rows = rows := by
  unfold written at done
  split at done
  · split at done
    · cases done
      rfl
    · cases done
  · cases done

theorem written_iff {ids : (rows.map apdId).Nodup} : (∃ later, written rows ids = .ok later) ↔
      (∀ row ∈ rows, row.Checks) ∧ Unique uxApdInstrument rows := by
  unfold written
  constructor
  · rintro ⟨later, done⟩
    split at done
    · next checks =>
        split at done
        · next unique => exact ⟨checks, unique⟩
        · cases done
    · cases done
  · rintro ⟨checks, unique⟩
    exact ⟨⟨rows, ids, unique, checks⟩, by rw [dif_pos checks, dif_pos unique]⟩

theorem update_rows {id : ℕ} (done : register.update id change = .ok later) :
    later.rows = updateAt apdId register.rows id (keepingId change) :=
  written_rows done

theorem create_rows (done : register.create row = .ok later) :
    later.rows = register.rows ++ [{ row with apdId := register.newId }] :=
  written_rows done

/-- An update is refused where the changed row fails a check or takes another's key. -/
theorem update_iff (member : row ∈ register.rows) :
    (∃ later, register.update row.apdId change = .ok later) ↔
      (keepingId change row).Checks ∧
        ∀ held ∈ register.rows, held.apdId ≠ row.apdId → held.uxApdInstrument ≠ none →
          held.uxApdInstrument ≠ (keepingId change row).uxApdInstrument := by
  have written : (∃ later, register.update row.apdId change = .ok later) ↔ _ := written_iff
  rw [written, unique_updateAt_iff register.ids register.instruments member rfl]
  refine and_congr_left fun _ => ?_
  constructor
  · intro checks
    exact checks _ (mem_updateAt.mpr (Or.inl ⟨row, member, rfl, rfl⟩))
  · intro checks other otherMem
    rcases mem_updateAt.mp otherMem with ⟨held, heldMem, same, rfl⟩ | ⟨stood, _⟩
    · rw [register.eq_of_id heldMem member same]
      exact checks
    · exact register.checks other stood

theorem create_iff : (∃ later, register.create row = .ok later) ↔
      ({ row with apdId := register.newId } : AccPdcRegister).Checks ∧
        ∀ held ∈ register.rows, held.uxApdInstrument ≠ none →
          held.uxApdInstrument ≠ row.uxApdInstrument := by
  have written : (∃ later, register.create row = .ok later) ↔ _ := written_iff
  rw [written, unique_concat_iff register.instruments]
  refine and_congr_left fun _ => ?_
  constructor
  · intro checks
    exact checks _ (List.mem_append_right _ List.mem_cons_self)
  · intro checks other otherMem
    rcases List.mem_append.mp otherMem with stood | new
    · exact register.checks other stood
    · rw [List.mem_singleton.mp new]
      exact checks

/-- An update that touches no row past `HELD` keeps those. -/
theorem update_keeps {kept : AccPdcRegister} (done : register.update row.apdId change = .ok later)
    (member : row ∈ register.rows) (held : row.apdStatus = .HELD) (keptMem : kept ∈ register.rows)
    (past : kept.apdStatus ≠ .HELD) : kept ∈ later.rows := by
  rw [update_rows done]
  refine mem_updateAt.mpr (Or.inr ⟨keptMem, fun same => ?_⟩)
  rw [register.eq_of_id keptMem member same] at past
  exact past held

/-- What a selection keeps across an update of a row that it selects before and after, or
neither before nor after. -/
theorem filter_update {selects : AccPdcRegister → Bool}
    (done : register.update row.apdId change = .ok later) (member : row ∈ register.rows)
    (same : selects (keepingId change row) = selects row) : later.rows.filter selects =
      updateAt apdId (register.rows.filter selects) row.apdId (keepingId change) := by
  rw [update_rows done]
  apply filter_updateAt
  intro other otherMem here
  rw [register.eq_of_id otherMem member here]
  exact same

end Register

section Cancelling

variable {doc : PdcDocument} {opts : PdcOptions} {cheques : List PdcTenderLine}
variable {register later : Register} {todo : List AccPdcRegister}

/-- The row's tender is one of the cheques'. -/
def ofCheques (cheques : List PdcTenderLine) (row : AccPdcRegister) : Bool :=
  row.apdTenderId.any fun tenderId => tenderId ∈ cheques.map PdcTenderLine.tdId

/-- What the cancellations leave: the rows of the cheques, the rows past `HELD`, and of the
live rows none that was to be cancelled. -/
structure Cancelled (cheques : List PdcTenderLine) (register : Register)
    (todo : List AccPdcRegister) (later : Register) : Prop where
  ours : ∀ year, ∀ cheque ∈ cheques,
    rowsOf year later.rows cheque.tdId = rowsOf year register.rows cheque.tdId
  past : ∀ row ∈ register.rows, row.apdStatus ≠ .HELD → row ∈ later.rows
  live : ∀ row ∈ later.rows, row.live = true →
    row ∈ register.rows ∧ (row ∈ todo → ofCheques cheques row = true)

theorem cancelled_one {row : AccPdcRegister} (member : row ∈ register.rows)
    (gone : ofCheques cheques row = false) (held : row.apdStatus = .HELD)
    (done : cancelPdcRow doc opts.removedReason register row = .ok later) :
    Cancelled cheques register [row] later where
  ours := by
    intro year cheque chequeMem
    have unselected : ∀ other : AccPdcRegister, other.apdTenderId = row.apdTenderId →
        ofTender year cheque.tdId other = false := by
      intro other same
      by_contra selected
      rw [Bool.not_eq_false, ofTender, Bool.and_eq_true, decide_eq_true_eq, same] at selected
      rw [ofCheques, selected.2] at gone
      simp only [Option.any_some, decide_eq_false_iff_not] at gone
      exact gone (List.mem_map_of_mem chequeMem)
    rw [rowsOf, Register.filter_update done member]
    · apply updateAt_of_absent
      intro other otherMem same
      have both := List.mem_filter.mp otherMem
      rw [register.eq_of_id both.1 member same, unselected row rfl] at both
      cases both.2
    · rw [unselected row rfl]
      exact unselected _ rfl
  past := fun kept keptMem past => Register.update_keeps done member held keptMem past
  live := by
    intro other otherMem isLive
    rw [Register.update_rows done] at otherMem
    rcases mem_updateAt.mp otherMem with ⟨stored, _, _, rfl⟩ | ⟨stood, differs⟩
    · simp [AccPdcRegister.live, Register.keepingId] at isLive
    · refine ⟨stood, fun isRow => ?_⟩
      rw [List.mem_singleton.mp isRow] at differs
      exact (differs rfl).elim

theorem Cancelled.refl (register : Register) : Cancelled cheques register [] register where
  ours := fun _ _ _ => rfl
  past := fun _ member _ => member
  live := fun _ member _ => ⟨member, fun isIn => (List.not_mem_nil isIn).elim⟩

theorem Cancelled.trans {middle : Register} {first rest : List AccPdcRegister}
    (before : Cancelled cheques register first middle) (after : Cancelled cheques middle rest later) :
    Cancelled cheques register (first ++ rest) later where
  ours := fun year cheque member =>
    (after.ours year cheque member).trans (before.ours year cheque member)
  past := fun row member past => after.past row (before.past row member past) past
  live := by
    intro row member isLive
    obtain ⟨inMiddle, restCheques⟩ := after.live row member isLive
    obtain ⟨inRegister, firstCheques⟩ := before.live row inMiddle isLive
    refine ⟨inRegister, fun isIn => ?_⟩
    rcases List.mem_append.mp isIn with inFirst | inRest
    · exact firstCheques inFirst
    · exact restCheques inRest

/-- The rows still to be gone through stand as they were read. -/
theorem cancelGone_cancelled (stand : ∀ row ∈ todo, row ∈ register.rows)
    (apart : (todo.map apdId).Nodup)
    (done : cancelGone doc opts cheques register todo = .ok later) :
    Cancelled cheques register todo later := by
  induction todo generalizing register with
  | nil =>
      cases done
      exact Cancelled.refl later
  | cons row rest ih =>
      rw [List.map_cons, List.nodup_cons] at apart
      have member := stand row List.mem_cons_self
      have restStand : ∀ other ∈ rest, other ∈ register.rows :=
        fun other otherMem => stand other (List.mem_cons_of_mem _ otherMem)
      unfold cancelGone at done
      split at done
      · next ours =>
          have first : Cancelled cheques register [row] register :=
            ⟨fun _ _ _ => rfl, fun _ keptMem _ => keptMem, fun other otherMem _ =>
              ⟨otherMem, fun isRow => by rw [List.mem_singleton.mp isRow]; exact ours⟩⟩
          exact first.trans (ih restStand apart.2 done)
      · next gone =>
          obtain ⟨_, isHeld, done⟩ := Lib.Fold.bind_eq_ok done
          obtain ⟨middle, cancelled, done⟩ := Lib.Fold.bind_eq_ok done
          have held : row.apdStatus = .HELD := by
            unfold ensureInstrumentIsHeld at isHeld
            split at isHeld
            · assumption
            · cases isHeld
          have first := cancelled_one member (Bool.eq_false_iff.mpr gone) held cancelled
          refine first.trans (ih (fun other otherMem => ?_) apart.2 done)
          rw [Register.update_rows cancelled]
          refine mem_updateAt.mpr (Or.inr ⟨restStand other otherMem, fun same => ?_⟩)
          exact apart.1 (same ▸ List.mem_map_of_mem otherMem)

/-- Rows that are all held are cancelled. -/
theorem cancelGone_isOk (stand : ∀ row ∈ todo, row ∈ register.rows) (apart : (todo.map apdId).Nodup)
    (held : ∀ row ∈ todo, row.apdStatus = .HELD) :
    ∃ later, cancelGone doc opts cheques register todo = .ok later := by
  induction todo generalizing register with
  | nil => exact ⟨register, rfl⟩
  | cons row rest ih =>
      rw [List.map_cons, List.nodup_cons] at apart
      have member := stand row List.mem_cons_self
      have restStand : ∀ other ∈ rest, other ∈ register.rows :=
        fun other otherMem => stand other (List.mem_cons_of_mem _ otherMem)
      have restHeld : ∀ other ∈ rest, other.apdStatus = .HELD :=
        fun other otherMem => held other (List.mem_cons_of_mem _ otherMem)
      unfold cancelGone
      split
      · exact ih restStand apart.2 restHeld
      · have isHeld : ensureInstrumentIsHeld row = .ok () :=
          if_pos (held row List.mem_cons_self)
        have allowed : ∃ middle, cancelPdcRow doc opts.removedReason register row = .ok middle := by
          apply (Register.update_iff member).mpr
          have checks := register.checks row member
          constructor
          · exact ⟨checks.amount, checks.earliest, checks.latest, checks.posting, by
              simp [Register.keepingId]⟩
          · intro other _ _ keyed same
            rw [same] at keyed
            simp [Register.keepingId, uxApdInstrument, AccPdcRegister.live] at keyed
        obtain ⟨middle, cancelled⟩ := allowed
        rw [isHeld, cancelled]
        apply ih _ apart.2 restHeld
        intro other otherMem
        rw [Register.update_rows cancelled]
        refine mem_updateAt.mpr (Or.inr ⟨restStand other otherMem, fun same => ?_⟩)
        exact apart.1 (same ▸ List.mem_map_of_mem otherMem)

end Cancelling

/-! ## The loop over the cheques -/

section Loop

variable {doc : PdcDocument} {rules : PdcDocumentRules} {tenders : DocTenders} {opts : PdcOptions}
variable {before start register later : Register} {cheque : PdcTenderLine}
variable {done todo : List PdcTenderLine} {number : JsString} {date : UtcDay}

theorem instrumentNo_eq_some : instrumentNo cheque = some number ↔
    requireInstrumentNo cheque = .ok number := by
  unfold instrumentNo
  cases requireInstrumentNo cheque <;> simp [Except.toOption]

theorem requireInstrumentDate_eq {received : UtcDay}
    (read : requireInstrumentDate cheque received rules = .ok date) :
    cheque.tdInstrumentDate = some date := by
  unfold requireInstrumentDate at read
  cases given : cheque.tdInstrumentDate with
  | none =>
      rw [given] at read
      cases read
  | some instrumentDate =>
      rw [given] at read
      simp only at read
      repeat' split at read
      all_goals cases read
      all_goals rfl

variable {row : AccPdcRegister}

variable {year : String} {id : ℕ}

theorem resynced_ofTender (ours : ofTender year cheque.tdId row = true) (year' tdId : String) :
    ofTender year' tdId (Register.keepingId (resynced doc opts cheque number date) row) =
      ofTender year' tdId row := by
  simp only [ofTender, Bool.and_eq_true, decide_eq_true_eq] at ours
  unfold ofTender resynced
  rw [ours.2]
  split <;> rfl

theorem resynced_carries (held : row.apdStatus = .HELD) (named : instrumentNo cheque = some number)
    (dated : cheque.tdInstrumentDate = some date)
    (stored : storedRow (findDocPdcRows doc tenders before) cheque.tdId = some row) :
    Carries doc tenders opts before cheque
      (Register.keepingId (resynced doc opts cheque number date) row) := by
  constructor
  · rw [← held]
    unfold resynced
    split <;> rfl
  · rw [named]
    unfold resynced
    split <;> rfl
  · rw [dated]
    unfold resynced
    split <;> rfl
  · unfold resynced
    split <;> rfl
  · unfold resynced voucherOf
    rw [stored]
    split <;> rfl

theorem newRow_carries (named : instrumentNo cheque = some number)
    (dated : cheque.tdInstrumentDate = some date)
    (unstored : storedRow (findDocPdcRows doc tenders before) cheque.tdId = none) :
    Carries doc tenders opts before cheque
      { newRow doc cheque number date opts.voucher with apdId := id } := by
  refine ⟨rfl, named, dated, rfl, ?_⟩
  unfold voucherOf
  rw [unstored, Option.elim_none, ite_self]
  rfl

/-- Part of the way through the cheques: those still to come have the rows they began with,
those gone through have theirs, and nothing else was written. -/
structure Loop (doc : PdcDocument) (tenders : DocTenders) (opts : PdcOptions)
    (before start register : Register) (done todo : List PdcTenderLine) : Prop where
  todo : ∀ cheque ∈ todo, rowsOf doc.accYear register.rows cheque.tdId =
    rowsOf doc.accYear start.rows cheque.tdId
  grown : ∀ cheque ∈ done, (rowsOf doc.accYear start.rows cheque.tdId).length ≤
    (rowsOf doc.accYear register.rows cheque.tdId).length
  carried : ∀ cheque ∈ done, (rowsOf doc.accYear start.rows cheque.tdId).length ≤ 1 →
    ∃ row, rowsOf doc.accYear register.rows cheque.tdId = [row] ∧
      Carries doc tenders opts before cheque row
  come : ∀ row ∈ register.rows, row ∈ start.rows ∨
    ∃ cheque ∈ done, row.apdTenderId = some cheque.tdId
  past : ∀ row ∈ start.rows, row.apdStatus ≠ .HELD → row ∈ register.rows

theorem Loop.begin (todo : List PdcTenderLine) : Loop doc tenders opts before start start [] todo where
  todo := fun _ _ => rfl
  grown := fun _ member => (List.not_mem_nil member).elim
  carried := fun _ member => (List.not_mem_nil member).elim
  come := fun _ member => Or.inl member
  past := fun _ member _ => member

/-- The rows a cheque begins with, read through the document. -/
def ReadsStored (doc : PdcDocument) (tenders : DocTenders) (before start : Register)
    (cheque : PdcTenderLine) : Prop :=
  storedRow (findDocPdcRows doc tenders before) cheque.tdId =
    (rowsOf doc.accYear start.rows cheque.tdId).getLast?

/-- A write that leaves the rows of other tenders. -/
theorem Loop.write (loop : Loop doc tenders opts before start register done (cheque :: todo))
    (apart : ∀ other ∈ done ++ todo, other.tdId ≠ cheque.tdId)
    (others : ∀ tdId ≠ cheque.tdId,
      rowsOf doc.accYear later.rows tdId = rowsOf doc.accYear register.rows tdId)
    (grown : (rowsOf doc.accYear register.rows cheque.tdId).length ≤
      (rowsOf doc.accYear later.rows cheque.tdId).length)
    (carried : (rowsOf doc.accYear register.rows cheque.tdId).length ≤ 1 →
      ∃ row, rowsOf doc.accYear later.rows cheque.tdId = [row] ∧
        Carries doc tenders opts before cheque row)
    (come : ∀ row ∈ later.rows, row ∈ register.rows ∨ row.apdTenderId = some cheque.tdId)
    (past : ∀ row ∈ register.rows, row.apdStatus ≠ .HELD → row ∈ later.rows) :
    Loop doc tenders opts before start later (done ++ [cheque]) todo where
  todo := by
    intro other member
    rw [others _ (apart other (List.mem_append_right _ member))]
    exact loop.todo other (List.mem_cons_of_mem _ member)
  grown := by
    intro other member
    rcases List.mem_append.mp member with earlier | now
    · rw [others _ (apart other (List.mem_append_left _ earlier))]
      exact loop.grown other earlier
    · rw [List.mem_singleton.mp now, ← loop.todo cheque List.mem_cons_self]
      exact grown
  carried := by
    intro other member single
    rcases List.mem_append.mp member with earlier | now
    · rw [others _ (apart other (List.mem_append_left _ earlier))]
      exact loop.carried other earlier single
    · rw [List.mem_singleton.mp now] at single ⊢
      rw [← loop.todo cheque List.mem_cons_self] at single
      exact carried single
  come := by
    intro row member
    rcases come row member with stood | ours
    · rcases loop.come row stood with fromStart | ⟨other, otherMem, names⟩
      · exact Or.inl fromStart
      · exact Or.inr ⟨other, List.mem_append_left _ otherMem, names⟩
    · exact Or.inr ⟨cheque, List.mem_append_right _ List.mem_cons_self, ours⟩
  past := fun row member isPast => past row (loop.past row member isPast) isPast

theorem mem_rowsOf {tdId : String} {rows : List AccPdcRegister} : row ∈ rowsOf year rows tdId ↔
      row ∈ rows ∧ row.live = true ∧ row.apdAccYear = year ∧ row.apdTenderId = some tdId := by
  simp [rowsOf, ofTender, and_assoc]

theorem loop_step (loop : Loop doc tenders opts before start register done (cheque :: todo))
    (apart : ∀ other ∈ done ++ todo, other.tdId ≠ cheque.tdId)
    (reads : ReadsStored doc tenders before start cheque)
    (wrote : registerCheque doc rules opts (findDocPdcRows doc tenders before) register cheque =
      .ok later) :
    Loop doc tenders opts before start later (done ++ [cheque]) todo := by
  unfold registerCheque at wrote
  obtain ⟨number, named, wrote⟩ := Lib.Fold.bind_eq_ok wrote
  obtain ⟨date, dated, wrote⟩ := Lib.Fold.bind_eq_ok wrote
  have named := instrumentNo_eq_some.mpr named
  have dated := requireInstrumentDate_eq dated
  have begun := loop.todo cheque List.mem_cons_self
  unfold ReadsStored at reads
  rw [← begun] at reads
  cases stored : storedRow (findDocPdcRows doc tenders before) cheque.tdId with
  | some row =>
      rw [stored] at wrote reads
      obtain ⟨_, isHeld, wrote⟩ := Lib.Fold.bind_eq_ok wrote
      have held : row.apdStatus = .HELD := by
        unfold ensureInstrumentIsHeld at isHeld
        split at isHeld
        · assumption
        · cases isHeld
      have listed : row ∈ rowsOf doc.accYear register.rows cheque.tdId :=
        List.mem_of_getLast? reads.symm
      obtain ⟨member, ours⟩ := List.mem_filter.mp listed
      have rows (tdId : String) : rowsOf doc.accYear later.rows tdId =
          updateAt apdId (rowsOf doc.accYear register.rows tdId) row.apdId
            (Register.keepingId (resynced doc opts cheque number date)) :=
        Register.filter_update wrote member (resynced_ofTender ours _ _)
      apply loop.write apart
      · intro tdId differs
        rw [rows]
        apply updateAt_of_absent
        intro other otherMem same
        have both := mem_rowsOf.mp otherMem
        rw [register.eq_of_id both.1 member same, (mem_rowsOf.mp listed).2.2.2] at both
        exact differs (Option.some.inj both.2.2.2).symm
      · rw [rows, updateAt, List.length_map]
      · intro single
        obtain ⟨only, same⟩ := List.length_eq_one_iff.mp
          (le_antisymm single (List.length_pos_of_mem listed))
        rw [same] at listed
        rw [rows, same, ← List.mem_singleton.mp listed]
        refine ⟨_, ?_, resynced_carries held named dated stored⟩
        simp [updateAt]
      · intro other otherMem
        rw [Register.update_rows wrote] at otherMem
        rcases mem_updateAt.mp otherMem with ⟨_, _, _, rfl⟩ | ⟨stood, _⟩
        · right
          unfold resynced
          split <;> rfl
        · exact Or.inl stood
      · exact fun other otherMem isPast => Register.update_keeps wrote member held otherMem isPast
  | none =>
      rw [stored] at wrote reads
      have empty : rowsOf doc.accYear register.rows cheque.tdId = [] :=
        List.getLast?_eq_none_iff.mp reads.symm
      have rows (tdId : String) : rowsOf doc.accYear later.rows tdId =
          rowsOf doc.accYear register.rows tdId ++
            if tdId = cheque.tdId then
              [{ newRow doc cheque number date opts.voucher with apdId := register.newId }]
            else [] := by
        rw [rowsOf, Register.create_rows wrote, List.filter_append, List.filter_singleton]
        by_cases same : tdId = cheque.tdId
        · simp [ofTender, newRow, voucherData, AccPdcRegister.live, rowsOf, same]
        · simp [ofTender, newRow, voucherData, AccPdcRegister.live, rowsOf, same, Ne.symm same]
      apply loop.write apart
      · intro tdId differs
        rw [rows, if_neg differs, List.append_nil]
      · rw [rows, List.length_append]
        exact Nat.le_add_right _ _
      · intro _
        rw [rows, empty, if_pos rfl]
        exact ⟨_, rfl, newRow_carries named dated stored⟩
      · intro other otherMem
        rw [Register.create_rows wrote] at otherMem
        rcases List.mem_append.mp otherMem with stood | new
        · exact Or.inl stood
        · right
          rw [List.mem_singleton.mp new]
          rfl
      · intro other otherMem _
        rw [Register.create_rows wrote]
        exact List.mem_append_left _ otherMem

/-! ### When a turn succeeds -/

theorem uxApdInstrument_eq {key} (keyed : row.uxApdInstrument = some key) :
    row.live = true ∧ key = (row.apdCompanyId, row.apdPartyId, row.apdInstrumentType,
      row.apdInstrumentNo, row.apdAccYear) := by
  unfold uxApdInstrument at keyed
  split at keyed
  · next covered => exact ⟨covered.1, (Option.some.inj keyed).symm⟩
  · cases keyed

/-- The rows the loop starts from: under the numbers of the cheques, only theirs; one at
most for a cheque, and held. -/
structure Starts (doc : PdcDocument) (tenders : DocTenders) (before start : Register)
    (cheques : List PdcTenderLine) : Prop where
  ids : (cheques.map PdcTenderLine.tdId).Nodup
  distinct : (cheques.map instrumentNo).Nodup
  reads : ∀ cheque ∈ cheques, ReadsStored doc tenders before start cheque
  held : ∀ cheque ∈ cheques, ∀ row ∈ rowsOf doc.accYear start.rows cheque.tdId,
    row.apdStatus = .HELD
  free : ∀ row ∈ start.rows, ∀ number, row.uxApdInstrument = some (instrumentKey doc number) →
    some number ∈ cheques.map instrumentNo →
    ∃ cheque ∈ cheques, row.apdTenderId = some cheque.tdId
  positive : ∀ cheque ∈ cheques, 0 < cheque.tdTotalAmt

theorem apart_of_nodup (ids : ((done ++ cheque :: todo).map PdcTenderLine.tdId).Nodup) :
    ∀ other ∈ done ++ todo, other.tdId ≠ cheque.tdId := by
  intro other member same
  rw [List.map_append, List.map_cons] at ids
  have absent := (List.nodup_middle.mp ids).notMem
  rw [← List.map_append] at absent
  exact absent (same ▸ List.mem_map_of_mem member)

/-- The number a cheque takes is held by nobody else exactly where no row of a cheque still
to come holds it. -/
theorem clear_iff (starts : Starts doc tenders before start (done ++ cheque :: todo))
    (single : ∀ other ∈ done, (rowsOf doc.accYear start.rows other.tdId).length ≤ 1)
    (loop : Loop doc tenders opts before start register done (cheque :: todo))
    (named : instrumentNo cheque = some number) (own : AccPdcRegister → Prop)
    (ownRows : ∀ row ∈ rowsOf doc.accYear register.rows cheque.tdId, own row)
    (owned : ∀ row ∈ register.rows, own row → row.apdTenderId = some cheque.tdId) :
    (∀ held ∈ register.rows, ¬own held → held.uxApdInstrument ≠ none →
        held.uxApdInstrument ≠ some (instrumentKey doc number)) ↔
      ∀ other ∈ todo, Unblocked doc start cheque other := by
  have apart := apart_of_nodup starts.ids
  constructor
  · intro clear other otherMem row rowMem value valueIs same
    rw [named] at valueIs
    rw [← Option.some.inj valueIs] at same
    rw [← loop.todo other (List.mem_cons_of_mem _ otherMem)] at rowMem
    obtain ⟨member, _, _, names⟩ := mem_rowsOf.mp rowMem
    refine clear row member (fun isOwn => ?_) (by rw [same]; exact Option.some_ne_none _) same
    rw [owned row member isOwn] at names
    exact apart other (List.mem_append_right _ otherMem) (Option.some.inj names).symm
  · intro unblocked row member foreign _ same
    obtain ⟨isLive, key⟩ := uxApdInstrument_eq same
    have numbers : some number ∈ (done ++ cheque :: todo).map instrumentNo := by
      rw [← named]
      exact List.mem_map_of_mem (List.mem_append_right _ List.mem_cons_self)
    have ofCheque : ∃ other ∈ done ++ cheque :: todo, row.apdTenderId = some other.tdId := by
      rcases loop.come row member with stood | ⟨other, otherMem, names⟩
      · exact starts.free row stood number same numbers
      · exact ⟨other, List.mem_append_left _ otherMem, names⟩
    obtain ⟨other, otherMem, names⟩ := ofCheque
    have year : row.apdAccYear = doc.accYear := (congrArg (·.2.2.2.2) key).symm
    have listed : row ∈ rowsOf doc.accYear register.rows other.tdId :=
      mem_rowsOf.mpr ⟨member, isLive, year, names⟩
    rcases List.mem_append.mp otherMem with earlier | rest
    · obtain ⟨only, same, carries⟩ := loop.carried other earlier (single other earlier)
      rw [same] at listed
      rw [← List.mem_singleton.mp listed] at carries
      have number' : number = row.apdInstrumentNo := congrArg (·.2.2.2.1) key
      have repeated : instrumentNo other = instrumentNo cheque := by
        rw [carries.number, named, number']
      have distinct := starts.distinct
      rw [List.map_append, List.map_cons] at distinct
      have absent := (List.nodup_middle.mp distinct).notMem
      rw [← List.map_append] at absent
      exact absent (repeated ▸ List.mem_map_of_mem (List.mem_append_left _ earlier))
    · rcases List.mem_cons.mp rest with rfl | later
      · exact foreign (ownRows row listed)
      · rw [loop.todo other (List.mem_cons_of_mem _ later)] at listed
        exact unblocked other later row listed number named same

theorem resynced_key (isLive : row.live = true) (year : row.apdAccYear = doc.accYear) :
    (Register.keepingId (resynced doc opts cheque number date) row).uxApdInstrument =
      some (instrumentKey doc number) := by
  have covered : (Register.keepingId (resynced doc opts cheque number date) row).live = true ∧
      (Register.keepingId (resynced doc opts cheque number date) row).apdTraType = .R := by
    rw [← isLive]
    unfold resynced
    constructor <;> split <;> rfl
  unfold uxApdInstrument
  rw [if_pos covered]
  unfold resynced instrumentKey
  rw [← year]
  split <;> rfl

theorem resynced_checks_iff (checks : row.Checks) (held : row.apdStatus = .HELD)
    (positive : 0 < cheque.tdTotalAmt) :
    (Register.keepingId (resynced doc opts cheque number date) row).Checks ↔
      doc.docDate.plusMonths (-3) ≤ date.getTime ∧ date.getTime ≤ doc.docDate.plusMonths 12 := by
  have same : Register.keepingId (resynced doc opts cheque number date) row =
      { chequeData doc cheque number date row with
        apdPostingMode := if opts.keepStoredVoucher then row.apdPostingMode
          else if opts.voucher.isSome then .ON_RECEIPT else .ON_CLEARING
        apdVoucher := if opts.keepStoredVoucher then row.apdVoucher else opts.voucher } := by
    unfold resynced
    split <;> rfl
  rw [same]
  constructor
  · intro written
    exact ⟨written.earliest, written.latest⟩
  · rintro ⟨earliest, latest⟩
    refine ⟨positive, earliest, latest, ?_, ?_⟩
    · intro onReceipt
      simp only at onReceipt ⊢
      split at onReceipt
      · next keeps =>
          rw [if_pos keeps]
          exact checks.posting onReceipt
      · next keeps =>
          rw [if_neg keeps]
          split at onReceipt
          · next given => exact Option.isSome_iff_ne_none.mp given
          · cases onReceipt
    · intro cancelled
      change row.apdStatus = .CANCELLED ∨ row.apdStatus = .RETURNED at cancelled
      rw [held] at cancelled
      simp at cancelled

theorem newRow_checks_iff (positive : 0 < cheque.tdTotalAmt) :
    ({ newRow doc cheque number date opts.voucher with apdId := id } : AccPdcRegister).Checks ↔
      doc.docDate.plusMonths (-3) ≤ date.getTime ∧ date.getTime ≤ doc.docDate.plusMonths 12 := by
  constructor
  · intro written
    exact ⟨written.earliest, written.latest⟩
  · rintro ⟨earliest, latest⟩
    refine ⟨positive, earliest, latest, ?_, ?_⟩
    · intro onReceipt
      simp only [newRow, voucherData] at onReceipt ⊢
      split at onReceipt
      · next given => exact Option.isSome_iff_ne_none.mp given
      · cases onReceipt
    · intro cancelled
      simp [newRow, voucherData] at cancelled

theorem step_iff (starts : Starts doc tenders before start (done ++ cheque :: todo))
    (single : ∀ other ∈ done ++ cheque :: todo,
      (rowsOf doc.accYear start.rows other.tdId).length ≤ 1)
    (loop : Loop doc tenders opts before start register done (cheque :: todo))
    (numbered : instrumentNo cheque ≠ none) :
    (∃ later, registerCheque doc rules opts (findDocPdcRows doc tenders before) register cheque =
        .ok later) ↔
      Dated doc rules cheque ∧ ∀ other ∈ todo, Unblocked doc start cheque other := by
  have here : cheque ∈ done ++ cheque :: todo := List.mem_append_right _ List.mem_cons_self
  have singleDone : ∀ other ∈ done, (rowsOf doc.accYear start.rows other.tdId).length ≤ 1 :=
    fun other member => single other (List.mem_append_left _ member)
  obtain ⟨number, named⟩ := Option.ne_none_iff_exists'.mp numbered
  have positive := starts.positive cheque here
  have begun := loop.todo cheque List.mem_cons_self
  have reads := starts.reads cheque here
  unfold ReadsStored at reads
  have onlyOne := single cheque here
  have held := starts.held cheque here
  rw [← begun] at reads onlyOne held
  unfold registerCheque
  rw [instrumentNo_eq_some.mp named]
  change (∃ later, (requireInstrumentDate cheque doc.docDate rules >>= _) = .ok later) ↔ _
  unfold Dated
  cases dated : requireInstrumentDate cheque doc.docDate rules with
  | error problem =>
      constructor
      · rintro ⟨_, wrote⟩
        cases wrote
      · rintro ⟨⟨_, isDate, _⟩, _⟩
        cases isDate
  | ok date =>
      have window : (∃ other ∈ (Except.ok date : Except PdcError UtcDay).toOption,
          doc.docDate.plusMonths (-3) ≤ other.getTime ∧
            other.getTime ≤ doc.docDate.plusMonths 12) ↔
          doc.docDate.plusMonths (-3) ≤ date.getTime ∧
            date.getTime ≤ doc.docDate.plusMonths 12 := by
        simp [Except.toOption]
      rw [window]
      cases stored : storedRow (findDocPdcRows doc tenders before) cheque.tdId with
      | some row =>
          rw [stored] at reads
          have listed := List.mem_of_getLast? reads.symm
          obtain ⟨member, isLive, year, names⟩ := mem_rowsOf.mp listed
          have isHeld : ensureInstrumentIsHeld row = .ok () := if_pos (held row listed)
          change (∃ later, (ensureInstrumentIsHeld row >>= _) = .ok later) ↔ _
          rw [isHeld]
          change (∃ later, register.update row.apdId _ = .ok later) ↔ _
          rw [Register.update_iff member, resynced_checks_iff (register.checks row member)
            (held row listed) positive, resynced_key isLive year]
          refine and_congr_right fun _ => ?_
          apply clear_iff starts singleDone loop named fun other => other.apdId = row.apdId
          · intro other otherMem
            obtain ⟨only, same⟩ := List.length_eq_one_iff.mp
              (le_antisymm onlyOne (List.length_pos_of_mem listed))
            rw [same, List.mem_singleton] at otherMem listed
            rw [otherMem, listed]
          · intro other otherMem same
            rw [register.eq_of_id otherMem member same]
            exact names
      | none =>
          rw [stored] at reads
          have empty : rowsOf doc.accYear register.rows cheque.tdId = [] :=
            List.getLast?_eq_none_iff.mp reads.symm
          change (∃ later, register.create _ = .ok later) ↔ _
          rw [Register.create_iff, newRow_checks_iff positive]
          refine and_congr_right fun _ => ?_
          have clear := clear_iff starts singleDone loop named (fun _ => False)
            (fun row rowMem => by rw [empty] at rowMem; exact List.not_mem_nil rowMem)
            (fun _ _ isOwn => isOwn.elim)
          rw [← clear]
          simp [newRow, voucherData, uxApdInstrument, AccPdcRegister.live, instrumentKey]

/-- A whole loop, turn by turn. -/
theorem loop_run (ids : ((done ++ todo).map PdcTenderLine.tdId).Nodup)
    (reads : ∀ cheque ∈ todo, ReadsStored doc tenders before start cheque)
    (loop : Loop doc tenders opts before start register done todo)
    (wrote : todo.foldlM (registerCheque doc rules opts (findDocPdcRows doc tenders before)) register =
      .ok later) :
    Loop doc tenders opts before start later (done ++ todo) [] := by
  induction todo generalizing done register with
  | nil =>
      cases wrote
      rw [List.append_nil]
      exact loop
  | cons cheque rest ih =>
      rw [List.foldlM_cons] at wrote
      obtain ⟨next, first, others⟩ := Lib.Fold.bind_eq_ok wrote
      have moved := loop_step loop (apart_of_nodup ids) (reads cheque List.mem_cons_self) first
      have further := ih (by rw [List.append_assoc]; exact ids)
        (fun other member => reads other (List.mem_cons_of_mem _ member)) moved others
      rw [List.append_assoc] at further
      exact further

theorem loop_iff (starts : Starts doc tenders before start (done ++ todo))
    (single : ∀ cheque ∈ done ++ todo, (rowsOf doc.accYear start.rows cheque.tdId).length ≤ 1)
    (loop : Loop doc tenders opts before start register done todo)
    (numbered : ∀ cheque ∈ todo, instrumentNo cheque ≠ none) :
    (∃ later, todo.foldlM (registerCheque doc rules opts (findDocPdcRows doc tenders before))
        register = .ok later) ↔
      (∀ cheque ∈ todo, Dated doc rules cheque) ∧ todo.Pairwise (Unblocked doc start) := by
  induction todo generalizing done register with
  | nil => simp [pure, Except.pure]
  | cons cheque rest ih =>
      have turn : (∃ later, registerCheque doc rules opts (findDocPdcRows doc tenders before)
          register cheque = .ok later) ↔ _ :=
        step_iff starts single loop (numbered cheque List.mem_cons_self)
      have further {next : Register} (first : registerCheque doc rules opts
          (findDocPdcRows doc tenders before) register cheque = .ok next) := by
        have moved := loop_step loop (apart_of_nodup starts.ids)
          (starts.reads cheque (List.mem_append_right _ List.mem_cons_self)) first
        rw [List.append_cons] at starts single
        exact ih starts single moved fun other member =>
          numbered other (List.mem_cons_of_mem _ member)
      rw [List.pairwise_cons, List.forall_mem_cons, List.foldlM_cons]
      constructor
      · rintro ⟨later, wrote⟩
        obtain ⟨next, first, others⟩ := Lib.Fold.bind_eq_ok wrote
        obtain ⟨dated, clear⟩ := turn.mp ⟨next, first⟩
        obtain ⟨restDated, restClear⟩ := (further first).mp ⟨later, others⟩
        exact ⟨⟨dated, restDated⟩, clear, restClear⟩
      · rintro ⟨⟨dated, restDated⟩, clear, restClear⟩
        obtain ⟨next, first⟩ := turn.mpr ⟨dated, clear⟩
        obtain ⟨later, others⟩ := (further first).mpr ⟨restDated, restClear⟩
        exact ⟨later, by rw [first]; exact others⟩

end Loop

/-! ## The call -/

section Sync

variable {doc : PdcDocument} {rules : PdcDocumentRules} {tenders : DocTenders} {opts : PdcOptions}
variable {register later : Register}

theorem cheques_perm (live : List PdcTenderLine) :
    (toRegistrableCheques live).Perm (live.filter fun tender =>
      tender.tdTenderTypeId = CHEQUE_TENDER_TYPE_ID && decide (0 < tender.tdTotalAmt)) :=
  List.perm_insertionSort _ _

variable {cheque : PdcTenderLine} {cheques : List PdcTenderLine}

theorem cheque_of_mem {live : List PdcTenderLine} (member : cheque ∈ toRegistrableCheques live) :
    cheque ∈ live ∧ 0 < cheque.tdTotalAmt := by
  have inFilter := (cheques_perm live).subset member
  simp only [List.mem_filter, Bool.and_eq_true, decide_eq_true_eq] at inFilter
  exact ⟨inFilter.1, inFilter.2.2⟩

theorem cheques_ids (tenders : DocTenders) :
    ((toRegistrableCheques tenders.live).map PdcTenderLine.tdId).Nodup := by
  apply ((cheques_perm tenders.live).map PdcTenderLine.tdId).nodup_iff.mpr
  exact (List.nodup_append.mp tenders.ids).1.sublist (List.filter_sublist.map _)

theorem tdId_mem (member : cheque ∈ toRegistrableCheques tenders.live) :
    cheque.tdId ∈ tenders.tdIds :=
  List.mem_append_left _ (List.mem_map_of_mem (cheque_of_mem member).1)

theorem ensureNoRepeatedInstrument_iff (cheques : List PdcTenderLine) (seen : List JsString) :
    ensureNoRepeatedInstrument seen cheques = .ok () ↔
      (∀ cheque ∈ cheques, instrumentNo cheque ≠ none) ∧ (cheques.map instrumentNo).Nodup ∧
        ∀ number ∈ seen, some number ∉ cheques.map instrumentNo := by
  induction cheques generalizing seen with
  | nil => simp [ensureNoRepeatedInstrument]
  | cons cheque rest ih =>
      unfold ensureNoRepeatedInstrument
      cases read : requireInstrumentNo cheque with
      | error problem =>
          have none : instrumentNo cheque = none := by rw [instrumentNo, read]; rfl
          constructor
          · intro done
            cases done
          · rintro ⟨numbered, _⟩
            exact (numbered cheque List.mem_cons_self none).elim
      | ok number =>
          have named : instrumentNo cheque = some number := instrumentNo_eq_some.mpr read
          change (if number ∈ seen then _ else _) = _ ↔ _
          rw [List.map_cons, named, List.nodup_cons, List.forall_mem_cons, named]
          split
          · next repeated =>
              constructor
              · intro done
                cases done
              · rintro ⟨_, _, fresh⟩
                exact (fresh number repeated List.mem_cons_self).elim
          · next fresh =>
              rw [ih]
              constructor
              · rintro ⟨numbered, distinct, others⟩
                refine ⟨⟨Option.some_ne_none _, numbered⟩,
                  ⟨others number List.mem_cons_self, distinct⟩, fun other isSeen => ?_⟩
                rw [List.mem_cons, not_or]
                constructor
                · intro same
                  exact fresh (Option.some.inj same ▸ isSeen)
                · exact others other (List.mem_cons_of_mem _ isSeen)
              · rintro ⟨⟨_, numbered⟩, ⟨absent, distinct⟩, others⟩
                refine ⟨numbered, distinct, fun other isSeen => ?_⟩
                rcases List.mem_cons.mp isSeen with rfl | isSeen
                · exact absent
                · exact fun member => others other isSeen (List.mem_cons_of_mem _ member)

theorem mapM_requireInstrumentNo (numbered : ∀ cheque ∈ cheques, instrumentNo cheque ≠ none) :
    ∃ numbers, cheques.mapM requireInstrumentNo = .ok numbers ∧
      numbers.map some = cheques.map instrumentNo := by
  induction cheques with
  | nil => exact ⟨[], rfl, rfl⟩
  | cons cheque rest ih =>
      obtain ⟨number, named⟩ :=
        Option.ne_none_iff_exists'.mp (numbered cheque List.mem_cons_self)
      obtain ⟨numbers, read, same⟩ :=
        ih fun other member => numbered other (List.mem_cons_of_mem _ member)
      refine ⟨number :: numbers, ?_, by rw [List.map_cons, List.map_cons, named, same]⟩
      rw [List.mapM_cons, instrumentNo_eq_some.mp named, read]
      rfl

/-- What the document reads of a cheque's rows. -/
theorem filter_findDocPdcRows {tdId : String} (known : tdId ∈ tenders.tdIds) :
    (findDocPdcRows doc tenders register).filter (fun row => row.apdTenderId = some tdId) =
      rowsOf doc.accYear register.rows tdId := by
  rw [findDocPdcRows, List.filter_filter, rowsOf]
  apply List.filter_congr
  intro row _
  rw [Bool.eq_iff_iff]
  simp only [ofDocument, ofTender, Bool.and_eq_true, decide_eq_true_eq]
  constructor
  · rintro ⟨names, liveYear, _⟩
    exact ⟨liveYear, names⟩
  · rintro ⟨liveYear, names⟩
    exact ⟨names, liveYear, by rw [names]; simpa using known⟩

theorem stands_existing : ∀ row ∈ findDocPdcRows doc tenders register, row ∈ register.rows :=
  fun _ member => (List.mem_filter.mp member).1

theorem existing_ids : ((findDocPdcRows doc tenders register).map apdId).Nodup :=
  register.ids.sublist (List.filter_sublist.map _)

variable {row : AccPdcRegister} {start : Register}

theorem ofCheques_iff :
    ofCheques cheques row = true ↔ ∃ cheque ∈ cheques, row.apdTenderId = some cheque.tdId := by
  unfold ofCheques
  cases row.apdTenderId with
  | none => simp
  | some tdId => simp [eq_comm]

/-- What a call that succeeds has done. -/
theorem sync_cases (done : syncDocPdcRegister doc rules tenders opts register = .ok later) :
    (toRegistrableCheques tenders.live = [] ∧ findDocPdcRows doc tenders register = [] ∧
      later = register) ∨
    ∃ start, (∀ cheque ∈ toRegistrableCheques tenders.live, instrumentNo cheque ≠ none) ∧
      Cancelled (toRegistrableCheques tenders.live) register
        (findDocPdcRows doc tenders register) start ∧
      (toRegistrableCheques tenders.live).foldlM
        (registerCheque doc rules opts (findDocPdcRows doc tenders register)) start = .ok later := by
  unfold syncDocPdcRegister at done
  simp only at done
  split at done
  · next nothing =>
      cases done
      exact Or.inl ⟨nothing.1, nothing.2, rfl⟩
  · obtain ⟨_, once, done⟩ := Lib.Fold.bind_eq_ok done
    obtain ⟨start, cancelled, done⟩ := Lib.Fold.bind_eq_ok done
    obtain ⟨_, _, done⟩ := Lib.Fold.bind_eq_ok done
    refine Or.inr ⟨start, ((ensureNoRepeatedInstrument_iff _ _).mp once).1, ?_, done⟩
    exact cancelGone_cancelled stands_existing existing_ids cancelled

theorem Cancelled.readsStored (cancelled : Cancelled (toRegistrableCheques tenders.live) register
      (findDocPdcRows doc tenders register) start) :
    ∀ cheque ∈ toRegistrableCheques tenders.live, ReadsStored doc tenders register start cheque := by
  intro cheque member
  rw [ReadsStored, storedRow, filter_findDocPdcRows (tdId_mem member),
    cancelled.ours doc.accYear cheque member]

theorem Cancelled.loop (cancelled : Cancelled (toRegistrableCheques tenders.live) register
      (findDocPdcRows doc tenders register) start)
    (wrote : (toRegistrableCheques tenders.live).foldlM
      (registerCheque doc rules opts (findDocPdcRows doc tenders register)) start = .ok later) :
    Loop doc tenders opts register start later (toRegistrableCheques tenders.live) [] :=
  loop_run (cheques_ids tenders) cancelled.readsStored (Loop.begin _) wrote

/-- A live row of the document, once the others are cancelled, is a cheque's. -/
theorem Cancelled.ofCheque (cancelled : Cancelled (toRegistrableCheques tenders.live) register
      (findDocPdcRows doc tenders register) start) (member : row ∈ start.rows)
    (ours : ofDocument doc tenders row = true) :
    ∃ cheque ∈ toRegistrableCheques tenders.live, row.apdTenderId = some cheque.tdId := by
  have isLive : row.live = true := by
    simp only [ofDocument, Bool.and_eq_true] at ours
    exact ours.1.1
  obtain ⟨stood, kept⟩ := cancelled.live row member isLive
  exact ofCheques_iff.mp (kept (List.mem_filter.mpr ⟨stood, ours⟩))

theorem Allowed.starts (allowed : Allowed doc tenders register)
    (cancelled : Cancelled (toRegistrableCheques tenders.live) register
      (findDocPdcRows doc tenders register) start) :
    Starts doc tenders register start (toRegistrableCheques tenders.live) where
  ids := cheques_ids tenders
  distinct := allowed.distinct
  reads := cancelled.readsStored
  held := by
    intro cheque member row rowMem
    rw [cancelled.ours doc.accYear cheque member, ← filter_findDocPdcRows (tdId_mem member)] at rowMem
    exact allowed.held row (List.mem_filter.mp rowMem).1
  free := by
    intro row member number keyed listed
    obtain ⟨isLive, key⟩ := uxApdInstrument_eq keyed
    have stood := (cancelled.live row member isLive).1
    unfold instrumentKey at key
    simp only [Prod.mk.injEq] at key
    obtain ⟨company, party, type, no, year⟩ := key
    apply cancelled.ofCheque member
    exact allowed.free row stood isLive year.symm company.symm party.symm type.symm (no ▸ listed)
  positive := fun cheque member => (cheque_of_mem member).2

theorem Allowed.isFree (allowed : Allowed doc tenders register)
    (numbered : ∀ cheque ∈ toRegistrableCheques tenders.live, instrumentNo cheque ≠ none)
    (cancelled : Cancelled (toRegistrableCheques tenders.live) register
      (findDocPdcRows doc tenders register) start) :
    ensureInstrumentsAreFree doc start (toRegistrableCheques tenders.live) = .ok () := by
  obtain ⟨numbers, read, same⟩ := mapM_requireInstrumentNo numbered
  unfold ensureInstrumentsAreFree
  rw [read]
  apply if_neg
  intro clash
  obtain ⟨row, member, clashes⟩ := List.any_eq_true.mp clash
  simp only [clashing, Bool.and_eq_true, decide_eq_true_eq, Bool.not_eq_true'] at clashes
  obtain ⟨⟨⟨⟨⟨⟨company, year⟩, party⟩, type⟩, number⟩, isLive⟩, foreign⟩ := clashes
  have listed : some row.apdInstrumentNo ∈ (toRegistrableCheques tenders.live).map instrumentNo := by
    rw [← same]
    exact List.mem_map_of_mem number
  have ours := allowed.free row (cancelled.live row member isLive).1 isLive year company party type
    listed
  have isCheques := ofCheques_iff.mpr (cancelled.ofCheque member ours)
  rw [ofCheques, foreign] at isCheques
  cases isCheques

/-- No row past `HELD` is changed, whatever the call comes to. -/
theorem synced_past (member : row ∈ register.rows) (past : row.apdStatus ≠ .HELD) :
    row ∈ (synced doc rules tenders opts register).rows := by
  unfold synced
  cases done : syncDocPdcRegister doc rules tenders opts register with
  | error problem => exact member
  | ok later =>
      rcases sync_cases done with ⟨_, _, rfl⟩ | ⟨start, _, cancelled, wrote⟩
      · exact member
      · exact (cancelled.loop wrote).past row (cancelled.past row member past) past

theorem Cancelled.unblocked_iff (cancelled : Cancelled (toRegistrableCheques tenders.live) register
      (findDocPdcRows doc tenders register) start) :
    (toRegistrableCheques tenders.live).Pairwise (Unblocked doc start) ↔
      (toRegistrableCheques tenders.live).Pairwise (Unblocked doc register) := by
  apply List.Pairwise.iff_of_mem
  intro cheque other _ otherMem
  unfold Unblocked
  rw [cancelled.ours doc.accYear other otherMem]

/-- With numbers distinct and free and the document's rows held, the call succeeds and
registers the document's cheques exactly where they are registrable; a refusal leaves the
register as it was, and no row past `HELD` ever changes. -/
theorem sync_registers_iff (doc : PdcDocument) (rules : PdcDocumentRules) (tenders : DocTenders)
    (opts : PdcOptions) (register : Register) :
    (Allowed doc tenders register →
      ((∃ later, syncDocPdcRegister doc rules tenders opts register = .ok later ∧
          Registered doc tenders opts register later) ↔
        Registrable doc rules tenders register)) ∧
    (∀ problem, syncDocPdcRegister doc rules tenders opts register = .error problem →
      synced doc rules tenders opts register = register) ∧
    ∀ row ∈ register.rows, row.apdStatus ≠ .HELD →
      row ∈ (synced doc rules tenders opts register).rows := by
  refine ⟨fun allowed => ⟨?_, ?_⟩, ?_, fun row => synced_past⟩
  · rintro ⟨later, done, registered⟩
    rcases sync_cases done with ⟨none, _, _⟩ | ⟨start, numbered, cancelled, wrote⟩
    · constructor <;> rw [none] <;> simp
    · have starts := allowed.starts cancelled
      have loop := cancelled.loop wrote
      have single : ∀ cheque ∈ toRegistrableCheques tenders.live,
          (rowsOf doc.accYear start.rows cheque.tdId).length ≤ 1 := by
        intro cheque member
        obtain ⟨row, one, _⟩ := registered.each cheque member
        have grown := loop.grown cheque member
        rw [one] at grown
        exact grown
      obtain ⟨dated, unblocked⟩ :=
        (loop_iff starts single (Loop.begin _) numbered).mp ⟨later, wrote⟩
      refine ⟨numbered, dated, fun cheque member => ?_, cancelled.unblocked_iff.mp unblocked⟩
      rw [← cancelled.ours doc.accYear cheque member]
      exact single cheque member
  · rintro ⟨numbered, dated, single, unblocked⟩
    have once : ensureNoRepeatedInstrument [] (toRegistrableCheques tenders.live) = .ok () :=
      (ensureNoRepeatedInstrument_iff _ _).mpr ⟨numbered, allowed.distinct, by simp⟩
    obtain ⟨start, gone⟩ : ∃ start, cancelGone doc opts (toRegistrableCheques tenders.live) register
        (findDocPdcRows doc tenders register) = .ok start :=
      cancelGone_isOk stands_existing existing_ids allowed.held
    have cancelled := cancelGone_cancelled stands_existing existing_ids gone
    have starts := allowed.starts cancelled
    have singleStart : ∀ cheque ∈ toRegistrableCheques tenders.live,
        (rowsOf doc.accYear start.rows cheque.tdId).length ≤ 1 := by
      intro cheque member
      rw [cancelled.ours doc.accYear cheque member]
      exact single cheque member
    obtain ⟨later, wrote⟩ := (loop_iff starts singleStart (Loop.begin _) numbered).mpr
      ⟨dated, cancelled.unblocked_iff.mpr unblocked⟩
    by_cases nothing : toRegistrableCheques tenders.live = [] ∧
        findDocPdcRows doc tenders register = []
    · refine ⟨register, ?_, ?_, ?_⟩
      · unfold syncDocPdcRegister
        exact if_pos nothing
      · rw [nothing.1]
        simp
      · rw [nothing.2]
        simp
    · have loop := cancelled.loop wrote
      refine ⟨later, ?_, ?_, ?_⟩
      · unfold syncDocPdcRegister
        simp only [if_neg nothing, once, gone]
        change (ensureInstrumentsAreFree doc start _ >>= _) = _
        rw [allowed.isFree numbered cancelled]
        exact wrote
      · exact fun cheque member => loop.carried cheque member (singleStart cheque member)
      · intro row member
        obtain ⟨inRows, ours⟩ := List.mem_filter.mp member
        rcases loop.come row inRows with stood | ofCheque
        · exact cancelled.ofCheque stood ours
        · exact ofCheque
  · intro problem refused
    unfold synced
    rw [refused]

end Sync

/-! ## A bill with two cheques -/

def billDoc : PdcDocument where
  companyId := "company"
  branchId := "branch"
  tenantId := none
  accYear := "2026-2027"
  docDate := ⟨2026, 9, 19⟩
  partyId := "party"
  salesmanId := none
  userId := none

def billRules : PdcDocumentRules := ⟨false, true⟩

def billOptions : PdcOptions := ⟨some ⟨"voucher", "2026-2027"⟩, true, "removed"⟩

def chequeLine (tdId : String) (rowNo : ℤ) (number : JsString) : PdcTenderLine :=
  ⟨tdId, rowNo, CHEQUE_TENDER_TYPE_ID, 100, some number, some ⟨2026, 9, 25⟩, none⟩

/-- Two cheques held under the numbers 1 and 2. -/
def twoHeld : Register where
  rows := [{ newRow billDoc (chequeLine "first" 1 [49]) [49] ⟨2026, 9, 25⟩ none with apdId := 1 },
    { newRow billDoc (chequeLine "second" 2 [50]) [50] ⟨2026, 9, 25⟩ none with apdId := 2 }]
  ids := by decide
  instruments := by decide +kernel
  checks := by decide +kernel

def billTenders (first second : JsString) : DocTenders :=
  ⟨[chequeLine "first" 1 first, chequeLine "second" 2 second], [], by simp [chequeLine]⟩

theorem bill_dated (cheque : PdcTenderLine) (same : cheque.tdInstrumentDate = some ⟨2026, 9, 25⟩) :
    Dated billDoc billRules cheque := by
  refine ⟨⟨2026, 9, 25⟩, ?_, by decide +kernel, by decide +kernel⟩
  unfold requireInstrumentDate
  rw [same]
  decide +kernel

/-- The second cheque takes the number the first gives up before it. -/
theorem moved_numbers_register :
    ∃ later, syncDocPdcRegister billDoc billRules (billTenders [51] [49]) billOptions twoHeld =
        .ok later ∧
      Registered billDoc (billTenders [51] [49]) billOptions twoHeld later := by
  have allowed : Allowed billDoc (billTenders [51] [49]) twoHeld :=
    ⟨by decide +kernel, by decide +kernel, by decide +kernel⟩
  apply ((sync_registers_iff billDoc billRules (billTenders [51] [49]) billOptions twoHeld).1
    allowed).mpr
  have cheques : toRegistrableCheques (billTenders [51] [49]).live =
      [chequeLine "first" 1 [51], chequeLine "second" 2 [49]] := by decide +kernel
  refine ⟨by decide +kernel, ?_, by decide +kernel, ?_⟩
  · have dates : ∀ cheque ∈ toRegistrableCheques (billTenders [51] [49]).live,
        cheque.tdInstrumentDate = some ⟨2026, 9, 25⟩ := by
      decide +kernel
    exact fun cheque member => bill_dated cheque (dates cheque member)
  · rw [cheques, List.pairwise_pair]
    unfold Unblocked
    decide +kernel

/-- Two cheques that exchange their numbers: the first update repeats the second's. -/
theorem exchanged_numbers_refused :
    ¬∀ (doc : PdcDocument) (rules : PdcDocumentRules) (tenders : DocTenders) (opts : PdcOptions)
      (register : Register), Allowed doc tenders register →
      (∀ cheque ∈ toRegistrableCheques tenders.live,
        instrumentNo cheque ≠ none ∧ Dated doc rules cheque) →
      ∃ later, syncDocPdcRegister doc rules tenders opts register = .ok later ∧
        Registered doc tenders opts register later := by
  intro always
  have lines : ∀ cheque ∈ toRegistrableCheques (billTenders [50] [49]).live,
      instrumentNo cheque ≠ none ∧ cheque.tdInstrumentDate = some ⟨2026, 9, 25⟩ := by
    decide +kernel
  obtain ⟨later, done, _⟩ := always billDoc billRules (billTenders [50] [49]) billOptions twoHeld
    ⟨by decide +kernel, by decide +kernel, by decide +kernel⟩
    fun cheque member => ⟨(lines cheque member).1, bill_dated cheque (lines cheque member).2⟩
  have refused : (syncDocPdcRegister billDoc billRules (billTenders [50] [49]) billOptions
      twoHeld).toOption.isSome = false := by
    decide +kernel
  rw [done] at refused
  cases refused

end ErpServer.Sales.PdcRegister
