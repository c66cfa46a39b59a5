import ErpServer.Lib.Places
import ErpServer.Till.SessionBooks

/-!
# What is left on the till's cash ledger

The legs of a session mirror its rows: its counted float, its live tender rows, its posted
movements and its posted variance.  So the variance brings the legs to what was counted, the
hand-over to what was left, and a reopening back to what the drawer should hold.
-/

namespace ErpServer.Till.Session

open Lib
open Receipt (money money_mem money_of_mem paise)

/-! ## What the rows bring into the drawer -/

def CashRow.standing (row : CashRow) : Decimal := if row.tdIsVoided then 0 else row.row.signed

/-- A movement other than the float's, which is in the counted float. -/
def SessionMovement.intoDrawer (movement : SessionMovement) : Decimal :=
  match movement.tcmKind with
  | .TOP_UP | .PAID_IN => movement.tcmAmount
  | .PICKUP | .DROP | .CLOSE_HANDOVER => -movement.tcmAmount
  | _ => 0

def SessionMovement.standing (movement : SessionMovement) : Decimal :=
  if movement.tcmStatus = .POSTED then movement.intoDrawer else 0

def SessionVariance.booked (variance : SessionVariance) : Decimal :=
  if variance.tvrPosted then variance.tvrCounted - variance.tvrExpected else 0

/-- A float the safe did not issue: it is on the ledger from the session before. -/
def SessionBook.carried (book : SessionBook) : Decimal :=
  if book.tssFloatMode = .CARRIED then book.tssFloatIssued else 0

def SessionBook.tendered (book : SessionBook) : Decimal := (book.rows.map CashRow.standing).sum

def SessionBook.movedIn (book : SessionBook) : Decimal :=
  (book.movements.map SessionMovement.standing).sum

def SessionBook.booked (book : SessionBook) : Decimal :=
  (book.variance.map SessionVariance.booked).getD 0

/-- Where a row's voucher stands, or what it comes to if it has none. -/
def Backed (ledgers : TillLedgers) (book : SessionBook) (source : SessionSource) (size : Decimal) :
    Option ℕ → Prop
  | some voucher => Journal.Stands book.vouchers ledgers.tillCash source voucher size
  | none => size = 0

/-- The legs mirror the rows. -/
structure Mirrored (ledgers : TillLedgers) (book : SessionBook) : Prop where
  tenders : ∀ index row, book.rows[index]? = some row → row.tdIsVoided = false →
    Backed ledgers book (.tender index) row.row.signed (some row.tdVoucherId)
  movements : ∀ index movement, book.movements[index]? = some movement →
    movement.tcmStatus = .POSTED → movement.tcmKind ≠ .FLOAT_ISSUE →
    Backed ledgers book (.movement index) movement.intoDrawer movement.tcmVoucherId
  variance : ∀ variance, book.variance = some variance → variance.tvrPosted = true →
    Backed ledgers book .closeVariance variance.booked variance.tvrVoucherId
  legs : book.tillCashLegs ledgers =
    book.tssFloatCounted - book.carried + book.tendered + book.movedIn + book.booked

/-- Every figure stored is in whole paise. -/
structure InPaise (book : SessionBook) : Prop where
  float : book.tssFloatCounted ∈ paise
  amounts : ∀ movement ∈ book.movements, movement.tcmAmount ∈ paise
  cash : book.tssCashCounted ∈ paise

section Mirroring

variable {ledgers : TillLedgers} {book : SessionBook} {source other : SessionSource} {size : Decimal}
variable {voucher : Option ℕ} {legs : List (LedgerId × Decimal)} {ledger : LedgerId}

theorem Backed.postLegs (backed : Backed ledgers book source size voucher) :
    Backed ledgers (book.postLegs other legs) source size voucher := by
  cases voucher with
  | none => exact backed
  | some id => exact Journal.Stands.post backed other

variable {id row : ℕ} {after : SessionBook} {variance : Option SessionVariance}

theorem Backed.reverseLegs {size' : Decimal} (backed : Backed ledgers book source size voucher)
    (reversed : Backed ledgers book other size' (some id)) (apart : other ≠ source) :
    Backed ledgers (book.reverseLegs id) source size voucher := by
  obtain ⟨entry, found, same, _⟩ := reversed
  cases voucher with
  | none => exact backed
  | some voucher => exact Journal.Stands.reverse backed ⟨entry, found, same⟩ apart

theorem backed_postLegs (comes : Journal.onLedger ledgers.tillCash legs = size) :
    Backed ledgers (book.postLegs source legs) source size (some book.vouchers.length) := by
  rw [← comes]
  exact Journal.stands_post

/-- A ledger a voucher's other leg goes to is not the CASH tender's. -/
theorem TillLedgers.ne_tillCash (ledgers : TillLedgers) (named : ledger ∈ [ledgers.safe,
    ledgers.awaiting, ledgers.shortExcess, ledgers.suspense, ledgers.staffAdvance]) :
    ledger ≠ ledgers.tillCash :=
  fun same => ledgers.apart (same ▸ named)

theorem varianceCounterLedger_apart (ledgers : TillLedgers) (treatment : TillVarianceTreatment) :
    ledgers.varianceCounterLedger treatment ≠ ledgers.tillCash := by
  apply ledgers.ne_tillCash
  cases treatment <;> simp [TillLedgers.varianceCounterLedger]

theorem money_neg (value : Decimal) : money (-value) = -money value := Grid.halfUp_neg

/-- A variance's voucher comes to the variance on the till's cash, in paise. -/
theorem postVarianceVoucher_legs (ledgers : TillLedgers) (book : SessionBook)
    (source : SessionSource) (variance : Decimal) (treatment : TillVarianceTreatment) :
    (book.postVarianceVoucher ledgers source variance treatment).1.tillCashLegs ledgers =
      book.tillCashLegs ledgers + money variance := by
  have counter := varianceCounterLedger_apart ledgers treatment
  rw [SessionBook.postVarianceVoucher]
  by_cases zero : variance = 0
  · simp [zero]
  · rw [if_neg zero, SessionBook.tillCashLegs, SessionBook.postLegs, Journal.balance_post,
      SessionBook.tillCashLegs]
    by_cases short : variance < 0
    · rw [if_pos short, Journal.onLedger_credit counter, abs_of_neg short, money_neg, neg_neg]
    · rw [if_neg short, Journal.onLedger_debit counter, abs_of_nonneg (not_lt.mp short)]

theorem postVarianceVoucher_backed (ledgers : TillLedgers) (book : SessionBook)
    (source : SessionSource) {variance : Decimal} (member : variance ∈ paise) (treatment : TillVarianceTreatment) :
    Backed ledgers (book.postVarianceVoucher ledgers source variance treatment).1 source variance
      (book.postVarianceVoucher ledgers source variance treatment).2 := by
  have counter := varianceCounterLedger_apart ledgers treatment
  rw [SessionBook.postVarianceVoucher]
  by_cases zero : variance = 0
  · simp [zero, Backed]
  · rw [if_neg zero]
    apply backed_postLegs
    by_cases short : variance < 0
    · rw [if_pos short, Journal.onLedger_credit counter, abs_of_neg short, money_neg, neg_neg,
        money_of_mem member]
    · rw [if_neg short, Journal.onLedger_debit counter, abs_of_nonneg (not_lt.mp short),
        money_of_mem member]

theorem postVarianceVoucher_vouchers (ledgers : TillLedgers) (book : SessionBook)
    (source : SessionSource) (variance : Decimal) (treatment : TillVarianceTreatment) :
    ∃ vouchers, (book.postVarianceVoucher ledgers source variance treatment).1 =
      { book with vouchers } := by
  rw [SessionBook.postVarianceVoucher]
  by_cases zero : variance = 0
  · exact ⟨book.vouchers, by simp [zero]⟩
  · rw [if_neg zero]
    exact ⟨_, rfl⟩

theorem Backed.postVarianceVoucher (backed : Backed ledgers book source size voucher)
    (variance : Decimal) (treatment : TillVarianceTreatment) :
    Backed ledgers (book.postVarianceVoucher ledgers other variance treatment).1 source size voucher := by
  rw [SessionBook.postVarianceVoucher]
  by_cases zero : variance = 0
  · simpa [zero] using backed
  · rw [if_neg zero]
    exact backed.postLegs

theorem tillCashLegs_postLegs : (book.postLegs source legs).tillCashLegs ledgers =
    book.tillCashLegs ledgers + Journal.onLedger ledgers.tillCash legs :=
  Journal.balance_post

theorem Backed.tillCashLegs_reverseLegs (backed : Backed ledgers book source size (some id)) :
    (book.reverseLegs id).tillCashLegs ledgers = book.tillCashLegs ledgers - size :=
  Journal.Stands.balance_reverse backed

/-! ## The postings keep the mirror -/

/-- The mirror is kept where a row that is not as before has the voucher it names, every
source but some has its own still, and the legs grow by what the rows do. -/
theorem Mirrored.kept (mirrored : Mirrored ledgers book) (gone : SessionSource → Prop)
    (more : Decimal)
    (carries : ∀ {source size voucher}, ¬gone source → Backed ledgers book source size voucher →
      Backed ledgers after source size voucher)
    (rows : ∀ {index row}, after.rows[index]? = some row → row.tdIsVoided = false →
      ¬gone (.tender index) ∧ book.rows[index]? = some row ∨
        Backed ledgers after (.tender index) row.row.signed (some row.tdVoucherId))
    (movements : ∀ {index movement}, after.movements[index]? = some movement →
      movement.tcmStatus = .POSTED → movement.tcmKind ≠ .FLOAT_ISSUE →
      (¬gone (.movement index) ∧ ∃ was, book.movements[index]? = some was ∧
        was.tcmStatus = .POSTED ∧ was.tcmKind = movement.tcmKind ∧
        was.tcmVoucherId = movement.tcmVoucherId ∧ was.intoDrawer = movement.intoDrawer) ∨
        Backed ledgers after (.movement index) movement.intoDrawer movement.tcmVoucherId)
    (variance : ∀ {variance}, after.variance = some variance → variance.tvrPosted = true →
      ¬gone .closeVariance ∧ book.variance = some variance ∨
        Backed ledgers after .closeVariance variance.booked variance.tvrVoucherId)
    (float : after.tssFloatCounted - after.carried = book.tssFloatCounted - book.carried)
    (sums : after.tendered + after.movedIn + after.booked =
      book.tendered + book.movedIn + book.booked + more)
    (legs : after.tillCashLegs ledgers = book.tillCashLegs ledgers + more) :
    Mirrored ledgers after where
  tenders := by
    intro index row found live
    rcases rows found live with ⟨stays, before⟩ | backed
    · exact carries stays (mirrored.tenders index row before live)
    · exact backed
  movements := by
    intro index movement found posted notFloat
    rcases movements found posted notFloat with
      ⟨stays, was, before, wasPosted, kind, voucher, size⟩ | backed
    · rw [← voucher, ← size]
      exact carries stays (mirrored.movements index was before wasPosted (kind ▸ notFloat))
    · exact backed
  variance := by
    intro row found posted
    rcases variance found posted with ⟨stays, before⟩ | backed
    · exact carries stays (mirrored.variance row before posted)
    · exact backed
  legs := by
    rw [legs, mirrored.legs]
    linarith

theorem otherLedger_apart {settings : SessionSettings} {kind : TillMovementKind}
    (named : kind = .PAID_IN → ledger ≠ ledgers.tillCash) :
    otherLedger ledgers settings kind ledger ≠ ledgers.tillCash := by
  rw [otherLedger]
  split
  · next paidIn => exact named paidIn
  · split <;> exact ledgers.ne_tillCash (by simp)

variable {kind : TillMovementKind} {amount : Decimal} {awaiting : Bool}

/-- What a movement of a kind brings into the drawer. -/
theorem legs_of_kind (amount : Decimal) (apart : ledger ≠ ledgers.tillCash)
    (notFloat : kind ≠ .FLOAT_ISSUE)
    (exchange : kind ≠ .EXCHANGE) (office : kind ≠ .REMIT ∧ kind ≠ .SAFE_TRANSFER)
    (receipt : Option TillReceiptStatus) (id : Option ℕ) :
    Journal.onLedger ledgers.tillCash (if kind ∈ INTO_TILL then
      Journal.between ledgers.tillCash ledger amount else Journal.between ledger ledgers.tillCash amount) =
      SessionMovement.intoDrawer ⟨kind, amount, .POSTED, id, receipt⟩ := by
  cases kind <;> simp_all [INTO_TILL, SessionMovement.intoDrawer, Journal.onLedger_debit,
    Journal.onLedger_credit]

/-- Vouchers that leave every source its own, and rows and a variance as they were. -/
theorem Mirrored.grown (mirrored : Mirrored ledgers book) {more : Decimal}
    (carries : ∀ {source size voucher}, Backed ledgers book source size voucher →
      Backed ledgers after source size voucher) (rows : after.rows = book.rows)
    (variance : after.variance = book.variance)
    (movements : ∀ {index movement}, after.movements[index]? = some movement →
      book.movements[index]? = some movement ∨
        Backed ledgers after (.movement index) movement.intoDrawer movement.tcmVoucherId)
    (float : after.tssFloatCounted - after.carried = book.tssFloatCounted - book.carried)
    (moved : after.movedIn = book.movedIn + more)
    (legs : after.tillCashLegs ledgers = book.tillCashLegs ledgers + more) :
    Mirrored ledgers after := by
  apply mirrored.kept (fun _ => False) more fun _ => carries
  · intro index row found _
    exact Or.inl ⟨id, rows ▸ found⟩
  · intro index movement found posted _
    rcases movements found with before | backed
    · exact Or.inl ⟨id, movement, before, posted, rfl, rfl, rfl⟩
    · exact Or.inr backed
  · intro row found _
    exact Or.inl ⟨id, variance ▸ found⟩
  · exact float
  · rw [SessionBook.tendered, SessionBook.booked, rows, variance, moved, SessionBook.tendered,
      SessionBook.booked]
    ring
  · exact legs

theorem Mirrored.postMovement (mirrored : Mirrored ledgers book) (apart : ledger ≠ ledgers.tillCash)
    (notFloat : kind ≠ .FLOAT_ISSUE) (office : kind ≠ .REMIT ∧ kind ≠ .SAFE_TRANSFER) :
    Mirrored ledgers (book.postMovement ledgers kind amount ledger awaiting) := by
  by_cases exchange : kind = .EXCHANGE
  · rw [SessionBook.postMovement, if_pos exchange]
    refine mirrored.grown (fun backed => backed) rfl rfl ?_ rfl ?_ (add_zero _).symm
    · intro index movement found
      rcases Places.concat_cases found with before | ⟨_, rfl⟩
      · exact Or.inl before
      · right
        simp [Backed, SessionMovement.intoDrawer, exchange]
    · simp [SessionBook.movedIn, SessionMovement.standing, SessionMovement.intoDrawer, exchange]
  · have comes := legs_of_kind (money amount) apart notFloat exchange office
      (if awaiting then some .AWAITING else none) (some book.vouchers.length)
    rw [SessionBook.postMovement, if_neg exchange]
    refine mirrored.grown Backed.postLegs rfl rfl ?_ rfl ?_ tillCashLegs_postLegs
    · intro index movement found
      rcases Places.concat_cases found with before | ⟨rfl, rfl⟩
      · exact Or.inl before
      · exact Or.inr (backed_postLegs comes)
    · rw [comes]
      simp [SessionBook.movedIn, SessionMovement.standing]

/-- A row of the session's voided with the mirror of its voucher. -/
theorem Mirrored.voidMovement (mirrored : Mirrored ledgers book) {movement : SessionMovement}
    (found : book.movements[row]? = some movement) (posted : movement.tcmStatus = .POSTED)
    (notFloat : movement.tcmKind ≠ .FLOAT_ISSUE) :
    Mirrored ledgers (book.voidMovement row movement) := by
  have backed := mirrored.movements row movement found posted notFloat
  have sums := ListSum.sum_map_modify found SessionMovement.standing ({ · with tcmStatus := .VOIDED })
  have moved : ((book.movements.modify row ({ · with tcmStatus := .VOIDED })).map
      SessionMovement.standing).sum = book.movedIn + -movement.intoDrawer := by
    simp only [SessionMovement.standing, posted, if_true, reduceCtorEq, if_false, add_zero] at sums
    rw [SessionBook.movedIn]
    exact eq_add_neg_of_add_eq sums
  have others {index : ℕ} {other : SessionMovement}
      (otherFound : (book.movements.modify row ({ · with tcmStatus := .VOIDED }))[index]? = some other)
      (otherPosted : other.tcmStatus = .POSTED) : row ≠ index ∧ book.movements[index]? = some other := by
    rcases Places.modify_cases otherFound with stays | ⟨_, was, _, rfl⟩
    · exact stays
    · cases otherPosted
  rw [SessionBook.voidMovement]
  cases held : movement.tcmVoucherId with
  | none =>
      rw [held] at backed
      have nothing : movement.intoDrawer = 0 := backed
      rw [nothing, neg_zero] at moved
      refine mirrored.kept (fun _ => False) 0 (fun _ backed => backed) (fun found _ => Or.inl ⟨id, found⟩)
        ?_ (fun found _ => Or.inl ⟨id, found⟩) rfl ?_ (add_zero _).symm
      · intro index other otherFound otherPosted _
        exact Or.inl ⟨id, other, (others otherFound otherPosted).2, otherPosted, rfl, rfl, rfl⟩
      · change book.tendered + ((book.movements.modify row _).map SessionMovement.standing).sum + _ = _
        rw [moved, add_zero, add_zero]
        rfl
  | some id =>
      rw [held] at backed
      refine mirrored.kept (· = .movement row) (-movement.intoDrawer)
        (fun apart standing => standing.reverseLegs backed (Ne.symm apart))
        (fun found _ => Or.inl ⟨by simp, found⟩) ?_ (fun found _ => Or.inl ⟨by simp, found⟩) rfl ?_
        (backed.tillCashLegs_reverseLegs.trans (sub_eq_add_neg _ _))
      · intro index other otherFound otherPosted _
        obtain ⟨apart, before⟩ := others otherFound otherPosted
        exact Or.inl ⟨by simpa using Ne.symm apart, other, before, otherPosted, rfl, rfl, rfl⟩
      · change book.tendered + ((book.movements.modify row _).map SessionMovement.standing).sum +
          book.booked = _
        rw [moved]
        ring

/-- A tender row with its leg. -/
theorem Mirrored.tender (mirrored : Mirrored ledgers book) (row : TenderRow) :
    Mirrored ledgers { book.postLegs (.tender book.rows.length) [(ledgers.tillCash, row.signed)] with
      rows := book.rows ++ [⟨row, false, book.vouchers.length⟩] } := by
  have comes : Journal.onLedger ledgers.tillCash [(ledgers.tillCash, row.signed)] = row.signed := by
    simp [Journal.onLedger]
  refine mirrored.kept (fun _ => False) row.signed (fun _ => Backed.postLegs) ?_
    (fun found posted _ => Or.inl ⟨id, _, found, posted, rfl, rfl, rfl⟩)
    (fun found _ => Or.inl ⟨id, found⟩) rfl ?_
    (tillCashLegs_postLegs.trans (by rw [comes]))
  · intro index entry found _
    rcases Places.concat_cases found with before | ⟨rfl, rfl⟩
    · exact Or.inl ⟨id, before⟩
    · exact Or.inr (backed_postLegs comes)
  · simp only [SessionBook.tendered, List.map_append, List.sum_append, List.map_cons, List.map_nil,
      List.sum_cons, List.sum_nil, CashRow.standing, Bool.false_eq_true, if_false]
    change _ + book.movedIn + book.booked = _
    ring

theorem Mirrored.voidTender (mirrored : Mirrored ledgers book) {entry : CashRow}
    (found : book.rows[row]? = some entry) (live : entry.tdIsVoided = false) :
    Mirrored ledgers { book.reverseLegs entry.tdVoucherId with
      rows := book.rows.modify row ({ · with tdIsVoided := true }) } := by
  have backed := mirrored.tenders row entry found live
  have sums := ListSum.sum_map_modify found CashRow.standing ({ · with tdIsVoided := true })
  refine mirrored.kept (· = .tender row) (-entry.row.signed)
    (fun apart standing => standing.reverseLegs backed (Ne.symm apart)) ?_
    (fun found posted _ => Or.inl ⟨by simp, _, found, posted, rfl, rfl, rfl⟩)
    (fun found _ => Or.inl ⟨by simp, found⟩) rfl ?_
    (backed.tillCashLegs_reverseLegs.trans (sub_eq_add_neg _ _))
  · intro index other otherFound otherLive
    rcases Places.modify_cases otherFound with ⟨apart, before⟩ | ⟨_, was, _, rfl⟩
    · exact Or.inl ⟨by simpa using Ne.symm apart, before⟩
    · cases otherLive
  · simp only [CashRow.standing, live, Bool.false_eq_true, if_true, if_false, add_zero] at sums
    change ((book.rows.modify row _).map CashRow.standing).sum + book.movedIn + book.booked =
      (book.rows.map CashRow.standing).sum + book.movedIn + book.booked + _
    linarith

/-- Legs that leave the till's cash alone. -/
theorem Mirrored.postLegs (mirrored : Mirrored ledgers book)
    (comes : Journal.onLedger ledgers.tillCash legs = 0) : Mirrored ledgers (book.postLegs source legs) := by
  refine mirrored.grown Backed.postLegs rfl rfl Or.inl rfl ?_ tillCashLegs_postLegs
  rw [comes, add_zero]
  rfl

theorem movedIn_markReceived (book : SessionBook) (row : ℕ) :
    ((book.movements.modify row ({ · with tcmReceiptStatus := some .RECEIVED })).map
      SessionMovement.standing).sum = book.movedIn := by
  rw [SessionBook.movedIn, Places.map_modify]
  exact fun _ => rfl

theorem Mirrored.markReceived (mirrored : Mirrored ledgers book) (row : ℕ) :
    Mirrored ledgers { book with
      movements := book.movements.modify row ({ · with tcmReceiptStatus := some .RECEIVED }) } := by
  refine mirrored.kept (fun _ => False) 0 (fun _ backed => backed) (fun found _ => Or.inl ⟨id, found⟩)
    ?_ (fun found _ => Or.inl ⟨id, found⟩) rfl ?_ (add_zero _).symm
  · intro index movement found posted _
    rcases Places.modify_cases found with ⟨_, before⟩ | ⟨_, was, before, rfl⟩
    · exact Or.inl ⟨id, movement, before, posted, rfl, rfl, rfl⟩
    · exact Or.inl ⟨id, was, before, posted, rfl, rfl, rfl⟩
  · have moved := movedIn_markReceived book row
    change book.tendered + ((book.movements.modify row _).map SessionMovement.standing).sum +
      book.booked = _
    rw [moved, add_zero]

/-- A bag is received from one ledger into another, neither the till's cash. -/
theorem Mirrored.postReceive (mirrored : Mirrored ledgers book) (row : ℕ) (received : Decimal) :
    Mirrored ledgers (book.postReceive ledgers row received) := by
  rw [SessionBook.postReceive]
  apply Mirrored.markReceived
  split
  · apply mirrored.postLegs
    exact Journal.onLedger_between (ledgers.ne_tillCash (by simp)) (ledgers.ne_tillCash (by simp))
  · exact mirrored

/-- A variance in place of another, with its vouchers. -/
theorem Mirrored.withVariance (mirrored : Mirrored ledgers book) {vouchers : List SessionVoucher}
    (carries : ∀ {source size voucher}, source ≠ .closeVariance →
      Backed ledgers book source size voucher → Backed ledgers { book with vouchers } source size voucher)
    (posted : ∀ row, variance = some row → row.tvrPosted = true →
      Backed ledgers { book with vouchers } .closeVariance row.booked row.tvrVoucherId)
    (legs : Journal.balance vouchers ledgers.tillCash =
      book.tillCashLegs ledgers + ((variance.map SessionVariance.booked).getD 0 - book.booked)) :
    Mirrored ledgers { book with vouchers, variance } := by
  refine mirrored.kept (· = .closeVariance) _ carries (fun found _ => Or.inl ⟨by simp, found⟩)
    (fun found posted _ => Or.inl ⟨by simp, _, found, posted, rfl, rfl, rfl⟩)
    (fun found standing => Or.inr (posted _ found standing)) rfl ?_ legs
  change book.tendered + book.movedIn + (variance.map SessionVariance.booked).getD 0 = _
  ring

/-- A variance that is not posted counts for nothing. -/
theorem booked_eq_zero (unposted : ∀ row, variance = some row → row.tvrPosted = false) :
    (variance.map SessionVariance.booked).getD 0 = 0 := by
  cases variance with
  | none => rfl
  | some row => simp [SessionVariance.booked, unposted row rfl]

theorem Mirrored.replaceVariance (mirrored : Mirrored ledgers book) (variance : Option SessionVariance)
    (was : book.booked = 0) (unposted : ∀ row, variance = some row → row.tvrPosted = false) :
    Mirrored ledgers { book with variance } := by
  refine mirrored.withVariance (fun _ backed => backed) ?_ ?_
  · intro row found posted
    rw [unposted row found] at posted
    cases posted
  · rw [booked_eq_zero unposted, was, sub_zero, add_zero]
    rfl

/-- The variance posted brings the legs to what was counted. -/
theorem Mirrored.settleVariance (mirrored : Mirrored ledgers book)
    (member : ∀ variance, book.variance = some variance →
      variance.tvrCounted - variance.tvrExpected ∈ paise) :
    Mirrored ledgers (book.settleVariance ledgers) := by
  rw [SessionBook.settleVariance]
  cases found : book.variance with
  | none => exact mirrored
  | some variance =>
      by_cases waits : variance.tvrPosted ∨ variance.tvrTreatment = .PENDING
      · simp only [if_pos waits]
        exact mirrored
      · simp only [if_neg waits]
        have unposted : variance.tvrPosted = false := by simpa using (not_or.mp waits).1
        have gap := member variance found
        have backed := postVarianceVoucher_backed ledgers book .closeVariance gap variance.tvrTreatment
        have legs := postVarianceVoucher_legs ledgers book .closeVariance
          (variance.tvrCounted - variance.tvrExpected) variance.tvrTreatment
        have keeps {source : SessionSource} {size : Decimal} {voucher : Option ℕ}
            (standing : Backed ledgers book source size voucher) :
            Backed ledgers (book.postVarianceVoucher ledgers .closeVariance
              (variance.tvrCounted - variance.tvrExpected) variance.tvrTreatment).1 source size voucher :=
          standing.postVarianceVoucher _ _
        obtain ⟨vouchers, same⟩ := postVarianceVoucher_vouchers ledgers book .closeVariance
          (variance.tvrCounted - variance.tvrExpected) variance.tvrTreatment
        rw [same] at backed legs keeps ⊢
        refine mirrored.withVariance (fun _ => keeps) ?_ ?_
        · intro row rowFound _
          cases rowFound
          simpa [SessionVariance.booked] using backed
        · have nothing : book.booked = 0 := by
            simp [SessionBook.booked, found, SessionVariance.booked, unposted]
          rw [nothing, sub_zero]
          refine legs.trans ?_
          simp [SessionVariance.booked, money_of_mem gap]

/-- The variance mirrored brings them back. -/
theorem Mirrored.reverseVariance (mirrored : Mirrored ledgers book) :
    Mirrored ledgers book.reverseVariance := by
  rw [SessionBook.reverseVariance]
  cases found : book.variance with
  | none => exact mirrored
  | some variance =>
      by_cases posted : variance.tvrPosted = true
      · simp only [if_pos posted]
        have backed := mirrored.variance variance found posted
        have stood : book.booked = variance.booked := by simp [SessionBook.booked, found]
        cases held : variance.tvrVoucherId with
        | none =>
            rw [held] at backed
            have nothing : variance.booked = 0 := backed
            refine mirrored.withVariance (fun _ backed => backed) (by simp) ?_
            change book.tillCashLegs ledgers = _
            simp [stood, nothing]
        | some id =>
            rw [held] at backed
            refine mirrored.withVariance
              (fun apart standing => standing.reverseLegs backed (Ne.symm apart)) (by simp) ?_
            rw [stood, Option.map_none, Option.getD_none, zero_sub, ← sub_eq_add_neg]
            exact backed.tillCashLegs_reverseLegs
      · simp only [if_neg posted]
        exact mirrored

end Mirroring

/-! ## What the drawer should hold -/

section Expected

variable {book : SessionBook}

theorem liveRows_signed : (book.liveRows.map TenderRow.signed).sum = book.tendered := by
  rw [SessionBook.liveRows, List.map_map, ← ListSum.sum_ite_filter, SessionBook.tendered]
  congr 1
  apply List.map_congr_left
  intro row _
  cases voided : row.tdIsVoided <;> simp [CashRow.standing, voided]

/-- The movements of an expectation are all but the hand-over. -/
theorem moved_eq (kept : ∀ movement ∈ book.movements, movement.isHandOver = false) :
    book.moved [.TOP_UP, .PAID_IN] - book.moved [.PICKUP, .DROP] = book.movedIn := by
  rw [SessionBook.moved, SessionBook.moved, ← ListSum.sum_ite_filter, ← ListSum.sum_ite_filter,
    ← ListSum.sum_map_sub, SessionBook.movedIn]
  congr 1
  apply List.map_congr_left
  intro movement member
  have apart := kept movement member
  cases kind : movement.tcmKind <;> cases status : movement.tcmStatus <;>
    simp_all [SessionMovement.standing, SessionMovement.intoDrawer, SessionMovement.isHandOver]

theorem expected_eq (kept : ∀ movement ∈ book.movements, movement.isHandOver = false) :
    book.expectation.expected = book.tssFloatCounted + book.tendered + book.movedIn := by
  rw [SessionBook.expectation, cashExpectation_expected, liveRows_signed, ← moved_eq kept]
  ring

theorem expected_mem (inPaise : InPaise book)
    (kept : ∀ movement ∈ book.movements, movement.isHandOver = false) :
    book.expectation.expected ∈ paise := by
  rw [expected_eq kept]
  apply paise.add_mem
  · apply paise.add_mem inPaise.float
    apply list_sum_mem
    intro value member
    obtain ⟨row, _, rfl⟩ := List.mem_map.mp member
    rw [CashRow.standing]
    split
    · exact paise.zero_mem
    · rw [TenderRow.signed]
      split
      · exact money_mem _
      · exact paise.neg_mem (money_mem _)
  · apply list_sum_mem
    intro value member
    obtain ⟨movement, movementMember, rfl⟩ := List.mem_map.mp member
    have amount := inPaise.amounts movement movementMember
    rw [SessionMovement.standing]
    split
    · rw [SessionMovement.intoDrawer]
      split
      all_goals first | exact amount | exact paise.neg_mem amount | exact paise.zero_mem
    · exact paise.zero_mem

end Expected

/-! ## Between steps -/

/-- The figures of a whole and of a part of it, in paise, differ by the rest in paise. -/
def AddsUp (whole part : Decimal) : Prop := money (whole - part) = money whole - money part

instance (whole part : Decimal) : Decidable (AddsUp whole part) := inferInstanceAs (Decidable (_ = _))

/-- No cash row comes or goes under a count that stands, and a paid-in names another ledger
than the till's cash. -/
def SessionStep.Allowed (ledgers : TillLedgers) (book : SessionBook) : SessionStep → Prop
  | .tender _ _ | .voidTender _ _ => book.tssCloseCount = false
  | .move kind _ ledger => kind = .PAID_IN → ledger ≠ ledgers.tillCash
  | _ => True

instance (ledgers : TillLedgers) (book : SessionBook) :
    (step : SessionStep) → Decidable (step.Allowed ledgers book)
  | .tender _ _ | .voidTender _ _ => inferInstanceAs (Decidable (book.tssCloseCount = false))
  | .move kind _ ledger =>
      inferInstanceAs (Decidable (kind = .PAID_IN → ledger ≠ ledgers.tillCash))
  | .voidMovement _ | .receive _ _ | .suspend | .resume | .endBilling | .count _ _ | .decide _
  | .close _ | .forceClose _ _ _ | .reopen => inferInstanceAs (Decidable True)

/-- The float counted and the float issued differ by whole paise together. -/
def OpenInput.Allowed (settings : SessionSettings) (input : OpenInput) : Prop :=
  ∀ float ∈ openFloat settings input, AddsUp input.lines.sum float.2

instance (settings : SessionSettings) (input : OpenInput) : Decidable (input.Allowed settings) :=
  inferInstanceAs (Decidable (∀ float ∈ openFloat settings input, _))

/-- The mirror, and what a session's status says of its rows: no hand-over and no posted
variance before the close, a count that stands expects what the drawer should hold, and a
closed session's legs come to the float left. -/
structure SessionSound (ledgers : TillLedgers) (book : SessionBook) : Prop extends
    Mirrored ledgers book, InPaise book where
  handOver : book.tssStatus ≠ .CLOSED → ∀ movement ∈ book.movements, movement.isHandOver = false
  unposted : book.tssStatus ≠ .CLOSED → ∀ variance, book.variance = some variance →
    variance.tvrPosted = false
  stands : book.tssCloseCount = true → book.tssStatus ≠ .CLOSED → ∃ variance,
    book.variance = some variance ∧ variance.tvrExpected = book.expectation.expected ∧
      variance.tvrCounted = book.tssCashCounted
  counted : book.tssCloseCount = true → book.tssStatus ∉ MOVABLE
  closed : book.tssStatus = .CLOSED → book.tssCloseCount = true ∧
    book.tillCashLegs ledgers = book.tssFloatLeft - book.carried

section Steps

variable {ledgers : TillLedgers} {settings : SessionSettings} {book next : SessionBook}

/-- What a posted movement leaves: one more, and maybe its voucher. -/
theorem postMovement_cases (ledgers : TillLedgers) (book : SessionBook) (kind : TillMovementKind)
    (amount : Decimal) (other : LedgerId) (awaiting : Bool) : ∃ vouchers movement, movement.tcmKind = kind ∧
      movement.tcmAmount = money amount ∧
      book.postMovement ledgers kind amount other awaiting =
        { book with vouchers, movements := book.movements ++ [movement] } := by
  rw [SessionBook.postMovement]
  split
  · exact ⟨book.vouchers, _, rfl, rfl, rfl⟩
  · exact ⟨_, _, rfl, rfl, rfl⟩

/-- Before a count stands, a step that keeps the mirror and posts nothing of the close's
keeps the session sound. -/
theorem SessionSound.of_mirrored (mirrored : Mirrored ledgers next) (inPaise : InPaise next)
    (status : next.tssStatus ≠ .CLOSED)
    (handOver : ∀ movement ∈ next.movements, movement.isHandOver = false)
    (unposted : ∀ variance, next.variance = some variance → variance.tvrPosted = false)
    (uncounted : next.tssCloseCount = false) : SessionSound ledgers next where
  toMirrored := mirrored
  toInPaise := inPaise
  handOver := fun _ => handOver
  unposted := fun _ => unposted
  stands := fun counted => by simp [uncounted] at counted
  counted := fun counted => by simp [uncounted] at counted
  closed := fun closed => absurd closed status

theorem SessionSound.unclosed (sound : SessionSound ledgers book)
    (uncounted : book.tssCloseCount = false) : book.tssStatus ≠ .CLOSED := by
  intro closed
  simp [(sound.closed closed).1] at uncounted

theorem SessionSound.uncounted (sound : SessionSound ledgers book) (movable : book.tssStatus ∈ MOVABLE) :
    book.tssCloseCount = false := by
  cases counted : book.tssCloseCount with
  | false => rfl
  | true => exact absurd movable (sound.counted counted)

theorem SessionSound.tender (sound : SessionSound ledgers book) (uncounted : book.tssCloseCount = false)
    (row : TenderRow) : SessionSound ledgers
      { book.postLegs (.tender book.rows.length) [(ledgers.tillCash, row.signed)] with
        rows := book.rows ++ [⟨row, false, book.vouchers.length⟩] } := by
  have status := sound.unclosed uncounted
  exact .of_mirrored (sound.toMirrored.tender row) ⟨sound.float, sound.amounts, sound.cash⟩
    status (sound.handOver status) (sound.unposted status) uncounted

variable {row : ℕ} {forced : Bool} {outcome : TillCountOutcome}

theorem SessionSound.voidTender (sound : SessionSound ledgers book)
    (uncounted : book.tssCloseCount = false) {entry : CashRow}
    (found : book.rows[row]? = some entry) (live : entry.tdIsVoided = false) : SessionSound ledgers
      { book.reverseLegs entry.tdVoucherId with
        rows := book.rows.modify row ({ · with tdIsVoided := true }) } := by
  have status := sound.unclosed uncounted
  exact .of_mirrored (sound.toMirrored.voidTender found live)
    ⟨sound.float, sound.amounts, sound.cash⟩ status (sound.handOver status)
    (sound.unposted status) uncounted

theorem SessionSound.move (sound : SessionSound ledgers book) (movable : book.tssStatus ∈ MOVABLE)
    {kind : TillMovementKind} {amount : Decimal} {other : LedgerId} {awaiting : Bool}
    (hand : kind ∈ HAND_MOVEMENTS) (apart : other ≠ ledgers.tillCash) :
    SessionSound ledgers (book.postMovement ledgers kind amount other awaiting) := by
  have uncounted := sound.uncounted movable
  have status := sound.unclosed uncounted
  have mirrored : Mirrored ledgers (book.postMovement ledgers kind amount other awaiting) := by
    apply sound.toMirrored.postMovement apart
    · rintro rfl
      simp [HAND_MOVEMENTS] at hand
    · constructor <;> rintro rfl <;> simp [HAND_MOVEMENTS] at hand
  obtain ⟨vouchers, movement, same, size, posts⟩ :=
    postMovement_cases ledgers book kind amount other awaiting
  rw [posts] at mirrored ⊢
  apply SessionSound.of_mirrored mirrored ⟨sound.float, ?_, sound.cash⟩ status ?_
    (sound.unposted status) uncounted
  · intro row member
    rcases List.mem_append.mp member with before | added
    · exact sound.amounts row before
    · rw [List.mem_singleton.mp added, size]
      exact money_mem _
  · intro row member
    rcases List.mem_append.mp member with before | added
    · exact sound.handOver status row before
    · rw [List.mem_singleton.mp added, SessionMovement.isHandOver, same]
      cases kind <;> simp_all [HAND_MOVEMENTS]

theorem voidMovement_vouchers (book : SessionBook) (row : ℕ) (movement : SessionMovement) :
    ∃ vouchers, book.voidMovement row movement = { book with
      vouchers, movements := book.movements.modify row ({ · with tcmStatus := .VOIDED }) } := by
  rw [SessionBook.voidMovement]
  cases movement.tcmVoucherId with
  | none => exact ⟨book.vouchers, rfl⟩
  | some voucher => exact ⟨_, rfl⟩

theorem SessionSound.voidMovement (sound : SessionSound ledgers book)
    (uncounted : book.tssCloseCount = false) {movement : SessionMovement}
    (found : book.movements[row]? = some movement) (posted : movement.tcmStatus = .POSTED)
    (hand : movement.tcmKind ∈ HAND_MOVEMENTS) :
    SessionSound ledgers (book.voidMovement row movement) := by
  have status := sound.unclosed uncounted
  have mirrored : Mirrored ledgers (book.voidMovement row movement) := by
    apply sound.toMirrored.voidMovement found posted
    intro same
    simp [same, HAND_MOVEMENTS] at hand
  obtain ⟨vouchers, same⟩ := voidMovement_vouchers book row movement
  rw [same] at mirrored ⊢
  apply SessionSound.of_mirrored mirrored ⟨sound.float, ?_, sound.cash⟩ status ?_
    (sound.unposted status) uncounted
  · intro other member
    obtain ⟨was, wasMember, rfl | rfl⟩ := Places.mem_modify member
    · exact sound.amounts other wasMember
    · exact sound.amounts was wasMember
  · intro other member
    obtain ⟨was, wasMember, rfl | rfl⟩ := Places.mem_modify member
    · exact sound.handOver status other wasMember
    · simp [SessionMovement.isHandOver]

theorem SessionSound.receive (sound : SessionSound ledgers book) (row : ℕ) (received : Decimal) :
    SessionSound ledgers (book.postReceive ledgers row received) := by
  have mirrored := sound.toMirrored.postReceive row received
  obtain ⟨vouchers, same⟩ : ∃ vouchers, book.postReceive ledgers row received = { book with
      vouchers
      movements := book.movements.modify row ({ · with tcmReceiptStatus := some .RECEIVED }) } := by
    rw [SessionBook.postReceive]
    split
    · exact ⟨_, rfl⟩
    · exact ⟨book.vouchers, rfl⟩
  rw [same] at mirrored ⊢
  have moved := movedIn_markReceived book row
  have kept : book.tssStatus ≠ .CLOSED → ∀ movement ∈ book.movements.modify row
      ({ · with tcmReceiptStatus := some .RECEIVED }), movement.isHandOver = false := by
    intro status movement member
    obtain ⟨was, wasMember, rfl | rfl⟩ := Places.mem_modify member
    · exact sound.handOver status movement wasMember
    · exact sound.handOver status was wasMember
  constructor
  · exact mirrored
  · refine ⟨sound.float, ?_, sound.cash⟩
    intro movement member
    obtain ⟨was, wasMember, rfl | rfl⟩ := Places.mem_modify member
    · exact sound.amounts movement wasMember
    · exact sound.amounts was wasMember
  · exact kept
  · exact sound.unposted
  · intro counted status
    obtain ⟨variance, found, expected, figure⟩ := sound.stands counted status
    refine ⟨variance, found, ?_, figure⟩
    rw [expected, expected_eq (sound.handOver status), expected_eq (kept status)]
    change _ = book.tssFloatCounted + book.tendered + ((book.movements.modify row
      ({ · with tcmReceiptStatus := some .RECEIVED })).map SessionMovement.standing).sum
    rw [moved]
  · exact sound.counted
  · intro closed
    obtain ⟨counted, law⟩ := sound.closed closed
    refine ⟨counted, ?_⟩
    rw [mirrored.legs]
    change book.tssFloatCounted - book.carried + book.tendered + ((book.movements.modify row
      ({ · with tcmReceiptStatus := some .RECEIVED })).map SessionMovement.standing).sum +
        book.booked = book.tssFloatLeft - book.carried
    rw [moved, ← sound.legs, law]

/-- A change of status, not to or from a close. -/
theorem SessionSound.status (sound : SessionSound ledgers book) (status : TillSessionStatus)
    (was : book.tssStatus ∈ MOVABLE) (unclosed : status ≠ .CLOSED) :
    SessionSound ledgers { book with tssStatus := status } := by
  have uncounted := sound.uncounted was
  have unclosedBefore := sound.unclosed uncounted
  exact .of_mirrored ⟨sound.tenders, sound.movements, sound.variance, sound.legs⟩
    ⟨sound.float, sound.amounts, sound.cash⟩ unclosed (sound.handOver unclosedBefore)
    (sound.unposted unclosedBefore) uncounted

variable {othersOut : Bool} {lines : List Decimal}

/-- What a count leaves: another attempt, or a count that stands. -/
theorem countIn_cases
    (counted : countIn settings book lines othersOut forced = some (next, outcome)) :
    (outcome = .RECOUNT_REQUIRED ∧ next = { book with tssCountAttempts := book.tssCountAttempts + 1 }) ∨
      ∃ treatment, outcome ≠ .RECOUNT_REQUIRED ∧ next = { book with
        tssCountAttempts := book.tssCountAttempts + 1
        tssCloseCount := true
        tssCashCounted := money lines.sum
        tssStatus := if outcome = .SENT_FOR_APPROVAL then .PENDING_APPROVAL else book.tssStatus
        variance := some { tvrExpected := book.expectation.expected
                           tvrCounted := money lines.sum
                           tvrTreatment := treatment } } := by
  rw [countIn] at counted
  split at counted
  · cases counted
  · extract_lets expected figure within attemptNo made attempted at counted
    by_cases recount : made = .RECOUNT_REQUIRED
    · rw [if_pos recount, Option.some.injEq, Prod.mk.injEq] at counted
      exact Or.inl ⟨counted.2 ▸ recount, counted.1.symm⟩
    · rw [if_neg recount, Option.some.injEq, Prod.mk.injEq] at counted
      obtain ⟨rfl, same⟩ := counted
      rw [← same]
      exact Or.inr ⟨_, recount, rfl⟩

/-- A count that is final stands for what the drawer should hold. -/
theorem SessionSound.count (sound : SessionSound ledgers book)
    (counting : book.tssStatus = .COUNTING)
    (counted : countIn settings book lines othersOut forced = some (next, outcome)) :
    SessionSound ledgers next ∧ next.tssStatus ≠ .CLOSED := by
  have status : book.tssStatus ≠ .CLOSED := by simp [counting]
  rcases countIn_cases counted with ⟨rfl, rfl⟩ | ⟨treatment, final, rfl⟩
  · refine ⟨?_, status⟩
    exact ⟨⟨sound.tenders, sound.movements, sound.variance, sound.legs⟩,
      ⟨sound.float, sound.amounts, sound.cash⟩, sound.handOver, sound.unposted, sound.stands,
      sound.counted, sound.closed⟩
  · have unclosed : (if outcome = .SENT_FOR_APPROVAL then TillSessionStatus.PENDING_APPROVAL
        else book.tssStatus) ≠ .CLOSED := by
      split
      · simp
      · exact status
    have unmovable : (if outcome = .SENT_FOR_APPROVAL then TillSessionStatus.PENDING_APPROVAL
        else book.tssStatus) ∉ MOVABLE := by
      split <;> simp [counting, MOVABLE]
    refine ⟨?_, unclosed⟩
    have mirrored := sound.toMirrored.replaceVariance
      (some { tvrExpected := book.expectation.expected
              tvrCounted := money lines.sum
              tvrTreatment := treatment })
      (booked_eq_zero (sound.unposted status)) (by
        intro row found
        cases found
        rfl)
    constructor
    · exact ⟨mirrored.tenders, mirrored.movements, mirrored.variance, mirrored.legs⟩
    · exact ⟨sound.float, sound.amounts, money_mem _⟩
    · exact fun _ => sound.handOver status
    · intro _ row found
      cases found
      rfl
    · exact fun _ _ => ⟨_, rfl, rfl, rfl⟩
    · exact fun _ => unmovable
    · exact fun closed => absurd closed unclosed

theorem SessionSound.decide (sound : SessionSound ledgers book)
    {approval : Option TillVarianceTreatment} (decided : decideVariance book approval = some next) :
    SessionSound ledgers next := by
  simp only [decideVariance] at decided
  split at decided
  · next pending =>
      have status : book.tssStatus ≠ .CLOSED := by simp [pending]
      cases approval with
      | none =>
          cases decided
          exact .of_mirrored ⟨sound.tenders, sound.movements, sound.variance, sound.legs⟩
            ⟨sound.float, sound.amounts, paise.zero_mem⟩ (by simp) (sound.handOver status)
            (sound.unposted status) rfl
      | some treatment =>
          simp only at decided
          split at decided
          · cases decided
            have unposted : ∀ variance, (book.variance.map fun variance =>
                if variance.tvrTreatment = .PENDING then { variance with tvrTreatment := treatment }
                else variance) = some variance → variance.tvrPosted = false := by
              intro variance found
              obtain ⟨was, wasFound, rfl⟩ := Option.map_eq_some_iff.mp found
              have wasUnposted := sound.unposted status was wasFound
              split <;> exact wasUnposted
            have mirrored := sound.toMirrored.replaceVariance _ (booked_eq_zero (sound.unposted status))
              unposted
            constructor
            · exact ⟨mirrored.tenders, mirrored.movements, mirrored.variance, mirrored.legs⟩
            · exact ⟨sound.float, sound.amounts, sound.cash⟩
            · exact fun _ => sound.handOver status
            · exact fun _ => unposted
            · intro counted _
              obtain ⟨variance, found, expected, figure⟩ := sound.stands counted status
              refine ⟨if variance.tvrTreatment = .PENDING then
                { variance with tvrTreatment := treatment } else variance, by simp [found], ?_, ?_⟩
              · split <;> exact expected
              · split <;> exact figure
            · exact fun _ => by simp [MOVABLE]
            · exact fun closed => by simp at closed
          · cases decided
  · cases decided

/-- The variance brings the legs to what was counted. -/
theorem settleVariance_legs (sound : SessionSound ledgers book) (status : book.tssStatus ≠ .CLOSED)
    (counted : book.tssCloseCount = true) (decided : ∀ variance, book.variance = some variance →
      variance.tvrTreatment ≠ .PENDING) :
    Mirrored ledgers (book.settleVariance ledgers) ∧ ∃ vouchers row,
      book.settleVariance ledgers = { book with vouchers, variance := some row } ∧
      (book.settleVariance ledgers).tillCashLegs ledgers = book.tssCashCounted - book.carried := by
  obtain ⟨variance, found, expected, figure⟩ := sound.stands counted status
  have unposted := sound.unposted status variance found
  have gap : variance.tvrCounted - variance.tvrExpected ∈ paise := by
    rw [expected, figure]
    exact paise.sub_mem sound.cash (expected_mem sound.toInPaise (sound.handOver status))
  have mirrored : Mirrored ledgers (book.settleVariance ledgers) := by
    apply sound.toMirrored.settleVariance
    intro row rowFound
    rw [found] at rowFound
    cases rowFound
    exact gap
  refine ⟨mirrored, ?_⟩
  have legs := postVarianceVoucher_legs ledgers book .closeVariance
    (variance.tvrCounted - variance.tvrExpected) variance.tvrTreatment
  obtain ⟨vouchers, same⟩ := postVarianceVoucher_vouchers ledgers book .closeVariance
    (variance.tvrCounted - variance.tvrExpected) variance.tvrTreatment
  have settles : book.settleVariance ledgers = { book with
      vouchers
      variance := some { variance with
        tvrPosted := true
        tvrVoucherId := (book.postVarianceVoucher ledgers .closeVariance
          (variance.tvrCounted - variance.tvrExpected) variance.tvrTreatment).2 } } := by
    have waits : ¬(variance.tvrPosted = true ∨ variance.tvrTreatment = .PENDING) := by
      simp [unposted, decided variance found]
    simp only [SessionBook.settleVariance, found, if_neg waits, same]
  refine ⟨vouchers, _, settles, ?_⟩
  have total : (book.settleVariance ledgers).tillCashLegs ledgers =
      book.tillCashLegs ledgers + money (variance.tvrCounted - variance.tvrExpected) := by
    rw [← legs, settles, same]
    rfl
  rw [total, money_of_mem gap, sound.legs, SessionBook.booked, booked_eq_zero (sound.unposted status), expected, figure,
    expected_eq (sound.handOver status)]
  ring

theorem handOver_mirrored (settings : SessionSettings) (mirrored : Mirrored ledgers book)
    {handedOver : Decimal} (nonneg : 0 ≤ handedOver) : Mirrored ledgers (book.handOver ledgers settings handedOver) ∧
      (book.handOver ledgers settings handedOver).tillCashLegs ledgers =
        book.tillCashLegs ledgers - money handedOver ∧
      ∃ movements vouchers, book.handOver ledgers settings handedOver =
        { book with movements, vouchers } ∧
        ∀ movement ∈ movements, movement ∈ book.movements ∨ movement.tcmAmount = money handedOver := by
  have apart : (if settings.handoverRequired then ledgers.awaiting else ledgers.safe) ≠
      ledgers.tillCash := by
    split <;> exact ledgers.ne_tillCash (by simp)
  rw [SessionBook.handOver]
  by_cases leaves : 0 < handedOver
  · rw [if_pos leaves]
    refine ⟨mirrored.postMovement apart (by simp) (by simp), ?_, _, _, rfl, ?_⟩
    · rw [sub_eq_add_neg, ← Journal.onLedger_credit apart]
      exact Journal.balance_post
    · intro movement member
      rcases List.mem_append.mp member with before | added
      · exact Or.inl before
      · cases List.mem_singleton.mp added
        exact Or.inr rfl
  · rw [if_neg leaves, le_antisymm (not_lt.mp leaves) nonneg]
    exact ⟨mirrored, by simp, book.movements, book.vouchers, rfl, fun _ => Or.inl⟩

theorem SessionSound.close (sound : SessionSound ledgers book) (status : book.tssStatus ≠ .CLOSED)
    {floatLeft : Option Decimal}
    (closed : closeIn ledgers settings book floatLeft = some next) : SessionSound ledgers next := by
  rw [closeIn] at closed
  split at closed
  · cases closed
  · next ready =>
      obtain ⟨_, ready⟩ := not_or.mp ready
      obtain ⟨counted, undecided⟩ := not_or.mp ready
      rw [not_not] at counted
      have decided : ∀ variance, book.variance = some variance → variance.tvrTreatment ≠ .PENDING := by
        intro variance found pending
        simp [found, sound.unposted status variance found, pending] at undecided
      obtain ⟨mirrored, _, row, settles, legs⟩ := settleVariance_legs sound status counted decided
      dsimp only at closed
      split at closed
      · cases closed
      · next range =>
          set left := closeFloat settings book.tssCashCounted floatLeft
          have nonneg : 0 ≤ book.tssCashCounted - left := sub_nonneg.mpr (not_lt.mp (not_or.mp range).2)
          obtain ⟨handedMirrored, handedLegs, movements, vouchers, hands, members⟩ :=
            handOver_mirrored settings mirrored nonneg
          have amounts : ∀ movement ∈ movements, movement.tcmAmount ∈ paise := by
            intro movement member
            rcases members movement member with before | same
            · rw [settles] at before
              exact sound.amounts movement before
            · rw [same]
              exact money_mem _
          split at closed
          · cases closed
          · next placed =>
              have disposed : money (book.tssCashCounted - left) + money left = book.tssCashCounted :=
                not_not.mp (not_or.mp placed).2
              have law : ((book.settleVariance ledgers).handOver ledgers settings
                  (book.tssCashCounted - left)).tillCashLegs ledgers = money left - book.carried := by
                rw [handedLegs, legs]
                linarith
              rw [Option.some.injEq] at closed
              rw [hands, settles] at handedMirrored law closed
              subst closed
              constructor
              · exact ⟨handedMirrored.tenders, handedMirrored.movements, handedMirrored.variance,
                  handedMirrored.legs⟩
              · exact ⟨sound.float, amounts, sound.cash⟩
              · exact fun unclosed => absurd rfl unclosed
              · exact fun unclosed => absurd rfl unclosed
              · exact fun _ unclosed => absurd rfl unclosed
              · exact fun _ => by simp [MOVABLE]
              · intro _
                exact ⟨counted, law⟩

/-! ## Reopening -/

theorem voidHandOver_mirrored (mirrored : Mirrored ledgers book) (row : ℕ) :
    Mirrored ledgers (book.voidHandOver row) := by
  rw [SessionBook.voidHandOver]
  cases found : book.movements[row]? with
  | none => exact mirrored
  | some movement =>
      by_cases handOver : movement.isHandOver
      · simp only [if_pos handOver]
        simp only [SessionMovement.isHandOver, Bool.and_eq_true, decide_eq_true_eq] at handOver
        apply mirrored.voidMovement found handOver.2
        rw [handOver.1]
        simp
      · simp only [if_neg handOver]
        exact mirrored

/-- The movements as they were, but for the hand-overs of some places, which are voided. -/
def HandOversVoided (rows : List ℕ) (before after : List SessionMovement) : Prop :=
  ∀ index movement, after[index]? = some movement → ∃ was, before[index]? = some was ∧
    movement.tcmAmount = was.tcmAmount ∧
      (was.isHandOver = false ∨ index ∈ rows → movement.isHandOver = false)

theorem voidHandOver_vouchers (book : SessionBook) (row : ℕ) :
    ∃ vouchers movements, book.voidHandOver row = { book with vouchers, movements } ∧
      HandOversVoided [row] book.movements movements := by
  -- Nothing is voided where there is no hand-over.
  have same (none : ∀ movement, book.movements[row]? = some movement → movement.isHandOver = false) :
      HandOversVoided [row] book.movements book.movements := by
    intro index movement found
    refine ⟨movement, found, rfl, ?_⟩
    rintro (kept | here)
    · exact kept
    · rw [List.mem_singleton.mp here] at found
      exact none movement found
  rw [SessionBook.voidHandOver]
  cases found : book.movements[row]? with
  | none => exact ⟨_, _, rfl, same fun movement here => by simp [found] at here⟩
  | some movement =>
      by_cases handOver : movement.isHandOver
      · simp only [if_pos handOver]
        obtain ⟨vouchers, voided⟩ := voidMovement_vouchers book row movement
        refine ⟨vouchers, _, voided, ?_⟩
        intro index other otherFound
        rcases Places.modify_cases otherFound with ⟨apart, before⟩ | ⟨_, was, before, rfl⟩
        · refine ⟨other, before, rfl, fun kept => kept.resolve_right fun here => ?_⟩
          exact apart (List.mem_singleton.mp here).symm
        · exact ⟨was, before, rfl, fun _ => by simp [SessionMovement.isHandOver]⟩
      · simp only [if_neg handOver]
        refine ⟨_, _, rfl, same ?_⟩
        intro other otherFound
        rw [found] at otherFound
        cases otherFound
        simpa using handOver

/-- The hand-overs of some places voided, one after the other. -/
theorem voidHandOvers (rows : List ℕ) (mirrored : Mirrored ledgers book) :
    Mirrored ledgers (rows.foldl SessionBook.voidHandOver book) ∧
      ∃ vouchers movements, rows.foldl SessionBook.voidHandOver book = { book with vouchers, movements } ∧
        HandOversVoided rows book.movements movements := by
  induction rows generalizing book with
  | nil =>
      refine ⟨mirrored, _, _, rfl, ?_⟩
      intro index movement found
      exact ⟨movement, found, rfl, fun kept => by simpa using kept⟩
  | cons row rest ih =>
      obtain ⟨vouchers, movements, voided, were⟩ := voidHandOver_vouchers book row
      obtain ⟨kept, restVouchers, restMovements, restVoided, restWere⟩ :=
        ih (voidHandOver_mirrored mirrored row)
      rw [voided] at restWere
      rw [List.foldl_cons]
      refine ⟨kept, restVouchers, restMovements, ?_, ?_⟩
      · rw [restVoided, voided]
      · intro index movement found
        obtain ⟨was, wasFound, amount, handOver⟩ := restWere index movement found
        obtain ⟨before, beforeFound, beforeAmount, beforeHandOver⟩ := were index was wasFound
        refine ⟨before, beforeFound, amount.trans beforeAmount, ?_⟩
        rintro (unhanded | member)
        · exact handOver (Or.inl (beforeHandOver (Or.inl unhanded)))
        · rcases List.mem_cons.mp member with rfl | later
          · exact handOver (Or.inl (beforeHandOver (Or.inr List.mem_cons_self)))
          · exact handOver (Or.inr later)

theorem SessionSound.reopen (sound : SessionSound ledgers book)
    (reopened : reopenSession book = some next) : SessionSound ledgers next := by
  simp only [reopenSession] at reopened
  split at reopened
  · cases reopened
  · obtain ⟨mirrored, vouchers, movements, voided, were⟩ :=
      voidHandOvers (List.range book.movements.length) sound.toMirrored
    have reversed := mirrored.reverseVariance
    have kept : ∀ movement ∈ movements, movement.isHandOver = false ∧ movement.tcmAmount ∈ paise := by
      intro movement member
      obtain ⟨index, found⟩ := List.mem_iff_getElem?.mp member
      obtain ⟨was, wasFound, amount, handOver⟩ := were index movement found
      have within := (List.getElem?_eq_some_iff.mp wasFound).1
      refine ⟨handOver (Or.inr (List.mem_range.mpr within)), ?_⟩
      rw [amount]
      exact sound.amounts was (List.mem_of_getElem? wasFound)
    rw [voided] at reversed reopened
    obtain ⟨mirrors, variance, reverses, unposted⟩ : ∃ mirrors variance,
        SessionBook.reverseVariance { book with vouchers, movements } =
          { book with vouchers := mirrors, movements, variance } ∧
        ∀ row, variance = some row → row.tvrPosted = false := by
      rw [SessionBook.reverseVariance]
      cases found : book.variance with
      | none => exact ⟨vouchers, none, by simp, by simp⟩
      | some row =>
          by_cases posted : row.tvrPosted
          · simp only [if_pos posted]
            cases row.tvrVoucherId with
            | none => exact ⟨vouchers, none, rfl, by simp⟩
            | some voucher => exact ⟨_, none, rfl, by simp⟩
          · simp only [if_neg posted]
            refine ⟨vouchers, some row, rfl, ?_⟩
            intro other otherFound
            cases otherFound
            simpa using posted
    rw [reverses] at reversed reopened
    cases reopened
    exact .of_mirrored ⟨reversed.tenders, reversed.movements, reversed.variance, reversed.legs⟩
      ⟨sound.float, fun movement member => (kept movement member).2, paise.zero_mem⟩ (by simp)
      (fun movement member => (kept movement member).1) unposted rfl

/-! ## Opening -/

/-- A session with no row but the float's movement. -/
theorem mirrored_opened {opened : SessionBook} (rows : opened.rows = [])
    (movements : ∀ movement ∈ opened.movements, movement.tcmKind = .FLOAT_ISSUE)
    (variance : opened.variance = none)
    (legs : opened.tillCashLegs ledgers = opened.tssFloatCounted - opened.carried) :
    Mirrored ledgers opened := by
  refine ⟨?_, ?_, ?_, ?_⟩
  · intro index row found
    simp [rows] at found
  · intro index movement found _ apart
    exact absurd (movements movement (List.mem_of_getElem? found)) apart
  · intro row found
    simp [variance] at found
  · have still : opened.movedIn = 0 := by
      apply List.sum_eq_zero
      intro value member
      obtain ⟨movement, movementMember, rfl⟩ := List.mem_map.mp member
      simp [SessionMovement.standing, SessionMovement.intoDrawer, movements movement movementMember]
    rw [legs, still]
    simp [SessionBook.tendered, SessionBook.booked, rows, variance]

/-- The float's movement is the only one, and its leg what was issued. -/
theorem issueFloat_legs (ledgers : TillLedgers) (book : SessionBook) (floatIssued : Decimal)
    (vouchers : book.vouchers = [])
    (movements : book.movements = []) :
    (∃ vouchers movements, book.issueFloat ledgers floatIssued = { book with vouchers, movements } ∧
      ∀ movement ∈ movements, movement.tcmKind = .FLOAT_ISSUE ∧ movement.tcmAmount ∈ paise) ∧
    (book.issueFloat ledgers floatIssued).tillCashLegs ledgers =
      if book.tssFloatMode = .ISSUED then money floatIssued else 0 := by
  have apart : ledgers.safe ≠ ledgers.tillCash := ledgers.ne_tillCash (by simp)
  have nothing : book.tillCashLegs ledgers = 0 := by
    simp [SessionBook.tillCashLegs, Journal.balance, vouchers]
  rw [SessionBook.issueFloat]
  by_cases issues : book.tssFloatMode = .ISSUED ∧ floatIssued ≠ 0
  · rw [if_pos issues, if_pos issues.1]
    refine ⟨⟨_, _, rfl, ?_⟩, ?_⟩
    · intro movement member
      rw [movements] at member
      cases List.mem_singleton.mp member
      exact ⟨rfl, money_mem _⟩
    · have posts : (book.postMovement ledgers .FLOAT_ISSUE floatIssued ledgers.safe false).tillCashLegs
          ledgers = book.tillCashLegs ledgers + Journal.onLedger ledgers.tillCash
            (Journal.between ledgers.tillCash ledgers.safe (money floatIssued)) := Journal.balance_post
      rw [posts, nothing, Journal.onLedger_debit apart, zero_add]
  · rw [if_neg issues]
    refine ⟨⟨book.vouchers, book.movements, rfl, by simp [movements]⟩, ?_⟩
    rw [nothing]
    split
    · next issued =>
        have zero : floatIssued = 0 := by
          by_contra some
          exact issues ⟨issued, some⟩
        simp [zero]
    · rfl

theorem openSession_sound {input : OpenInput} (allowed : input.Allowed settings)
    (opens : openSession ledgers settings input = some book) : SessionSound ledgers book := by
  rw [openSession] at opens
  cases float : openFloat settings input with
  | none => simp [float] at opens
  | some issued =>
      obtain ⟨floatMode, floatIssued⟩ := issued
      have adds := allowed _ float
      simp only [float] at opens
      split at opens
      · cases opens
      · next kept =>
          split at opens
          · next none =>
              cases opens
              have empty : input.lines = [] := by
                by_contra lines
                exact kept (Or.inl ⟨none, lines⟩)
              apply SessionSound.of_mirrored
              · apply mirrored_opened rfl (by simp) rfl
                simp [SessionBook.tillCashLegs, Journal.balance, SessionBook.carried, empty, none]
              · exact ⟨money_mem _, by simp, paise.zero_mem⟩
              · simp
              · simp
              · simp
              · rfl
          · next drawer =>
              rw [Option.some.injEq] at opens
              set opened : SessionBook :=
                { tssStatus := .OPEN
                  tssFloatMode := floatMode
                  tssFloatIssued := money floatIssued
                  tssFloatCounted := money input.lines.sum }
              obtain ⟨⟨vouchers, movements, floats, members⟩, floated⟩ :=
                issueFloat_legs ledgers opened floatIssued rfl rfl
              have legs := postVarianceVoucher_legs ledgers (opened.issueFloat ledgers floatIssued)
                .openVariance (input.lines.sum - floatIssued) .EXPENSE
              obtain ⟨posted, posts⟩ := postVarianceVoucher_vouchers ledgers
                (opened.issueFloat ledgers floatIssued) .openVariance (input.lines.sum - floatIssued)
                .EXPENSE
              rw [opens, floated, adds] at legs
              rw [opens, floats] at posts
              have carried : opened.carried = if floatMode = .CARRIED then money floatIssued else 0 := rfl
              have law : book.tillCashLegs ledgers = money input.lines.sum - opened.carried := by
                rw [legs, carried]
                change (if floatMode = .ISSUED then money floatIssued else 0) + _ = _
                cases floatMode with
                | ISSUED => simp
                | CARRIED => simp
                | NONE => exact absurd rfl drawer
              rw [posts] at law ⊢
              apply SessionSound.of_mirrored
              · exact mirrored_opened rfl (fun movement member => (members movement member).1) rfl law
              · exact ⟨money_mem _, fun movement member => (members movement member).2, paise.zero_mem⟩
              · simp [opened]
              · intro movement member
                simp [SessionMovement.isHandOver, (members movement member).1]
              · simp [opened]
              · rfl

/-! ## Every run -/

theorem SessionSound.forceClose (sound : SessionSound ledgers book)
    (live : book.tssStatus ∈ MOVABLE ∨ book.tssStatus = .COUNTING) {floatLeft : Option Decimal}
    (closed : forceCloseIn ledgers settings book lines othersOut floatLeft = some next) :
    SessionSound ledgers next := by
  have ended : SessionSound ledgers (if book.tssStatus = .COUNTING then book else book.endBilling) ∧
      (if book.tssStatus = .COUNTING then book else book.endBilling).tssStatus = .COUNTING := by
    by_cases counting : book.tssStatus = .COUNTING
    · rw [if_pos counting]
      exact ⟨sound, counting⟩
    · rw [if_neg counting]
      exact ⟨sound.status .COUNTING (live.resolve_right counting) (by simp), rfl⟩
  simp only [forceCloseIn] at closed
  split at closed
  · next counted count =>
      obtain ⟨countedSound, status⟩ := ended.1.count ended.2 count
      exact countedSound.close status closed
  · next counted outcome _ count =>
      cases closed
      exact (ended.1.count ended.2 count).1
  · cases closed

/-- What one step keeps. -/
theorem SessionSound.step (sound : SessionSound ledgers book) {step : SessionStep}
    (allowed : step.Allowed ledgers book)
    (stepped : sessionStep ledgers settings book step = some next) : SessionSound ledgers next := by
  cases step with
  | tender row late =>
      simp only [sessionStep] at stepped
      split at stepped <;> cases stepped
      exact sound.tender allowed row
  | voidTender row retender =>
      simp only [sessionStep] at stepped
      split at stepped
      · next entry found =>
          split at stepped
          · next live =>
              cases stepped
              exact sound.voidTender allowed found (by simpa using live.1)
          · cases stepped
      · cases stepped
  | move kind amount ledger =>
      simp only [sessionStep] at stepped
      split at stepped
      · next taken =>
          cases stepped
          exact sound.move taken.2.1 taken.1 (otherLedger_apart allowed)
      · cases stepped
  | voidMovement row =>
      simp only [sessionStep] at stepped
      split at stepped
      · next movement found =>
          split at stepped
          · next taken =>
              cases stepped
              exact sound.voidMovement (by simpa using taken.2.1) found taken.2.2.1 taken.2.2.2.1
          · cases stepped
      · cases stepped
  | receive row received =>
      simp only [sessionStep] at stepped
      split at stepped
      · split at stepped <;> cases stepped
        exact sound.receive row received
      · cases stepped
  | suspend =>
      simp only [sessionStep] at stepped
      split at stepped
      · next live =>
          cases stepped
          exact sound.status .SUSPENDED (by simp [live, MOVABLE]) (by simp)
      · cases stepped
  | resume =>
      simp only [sessionStep] at stepped
      split at stepped
      · next live =>
          cases stepped
          exact sound.status .OPEN (by simp [live, MOVABLE]) (by simp)
      · cases stepped
  | endBilling =>
      simp only [sessionStep] at stepped
      split at stepped
      · next live =>
          cases stepped
          exact sound.status .COUNTING live (by simp)
      · cases stepped
  | count lines othersOut =>
      simp only [sessionStep] at stepped
      split at stepped
      · next counting =>
          obtain ⟨⟨counted, outcome⟩, count, rfl⟩ := Option.map_eq_some_iff.mp stepped
          exact (sound.count counting count).1
      · cases stepped
  | decide approval => exact sound.decide stepped
  | close floatLeft =>
      simp only [sessionStep] at stepped
      split at stepped
      · next status =>
          apply sound.close _ stepped
          rcases status with counting | pending
          · simp [counting]
          · simp [pending]
      · cases stepped
  | forceClose lines othersOut floatLeft =>
      simp only [sessionStep] at stepped
      split at stepped
      · next live => exact sound.forceClose live stepped
      · cases stepped
  | reopen => exact sound.reopen stepped

end Steps

/-- The sessions that runs reach whose steps all meet the condition, whatever settings each
reads. -/
inductive SessionRun (ledgers : TillLedgers) : SessionBook → Prop where
  | opened {settings : SessionSettings} {input : OpenInput} {book : SessionBook} :
      input.Allowed settings → openSession ledgers settings input = some book →
      SessionRun ledgers book
  | step {settings : SessionSettings} {step : SessionStep} {book next : SessionBook} :
      SessionRun ledgers book → step.Allowed ledgers book →
      sessionStep ledgers settings book step = some next → SessionRun ledgers next

variable {ledgers : TillLedgers} {book : SessionBook}

theorem SessionRun.sound (run : SessionRun ledgers book) : SessionSound ledgers book := by
  induction run with
  | opened allowed opens => exact openSession_sound allowed opens
  | step _ allowed stepped ih => exact ih.step allowed stepped

/-- The till session cash law: whenever the session is closed, its till-cash legs come to the
float left, less a float that was carried into it. -/
theorem session_cash_law (run : SessionRun ledgers book) (closed : book.tssStatus = .CLOSED) :
    book.tillCashLegs ledgers = book.tssFloatLeft - book.carried :=
  (run.sound.closed closed).2

/-- Steps under given settings, each checked against the condition. -/
def runSteps (ledgers : TillLedgers) (settings : SessionSettings) (book : SessionBook) :
    List SessionStep → Option SessionBook
  | [] => some book
  | step :: rest =>
      if step.Allowed ledgers book then
        (sessionStep ledgers settings book step).bind fun next => runSteps ledgers settings next rest
      else none

theorem SessionRun.runSteps {settings : SessionSettings} {steps : List SessionStep}
    {final : SessionBook} (run : SessionRun ledgers book)
    (ran : Session.runSteps ledgers settings book steps = some final) : SessionRun ledgers final := by
  induction steps generalizing book with
  | nil =>
      cases ran
      exact run
  | cons step rest ih =>
      rw [Session.runSteps] at ran
      split at ran
      · next allowed =>
          obtain ⟨next, stepped, restRan⟩ := Option.bind_eq_some_iff.mp ran
          exact ih (run.step allowed stepped) restRan
      · cases ran

def counterLedgers : TillLedgers := ⟨0, 1, 2, 3, 4, 5, by decide⟩

def counterSettings : SessionSettings := ⟨.ISSUED, 100, 1, 5, false⟩

/-- A float counted short, a bill and one cancelled, a drop and a pickup voided, a count out
of tolerance sent back and one approved, the close, and again after a reopening. -/
def counterSteps : List SessionStep :=
  [.tender ⟨.SALE_BILL, .DR, 250, 0⟩ false, .tender ⟨.PAYMENT, .CR, 30, 0⟩ false,
    .tender ⟨.SALE_BILL, .DR, 70, 0⟩ false, .voidTender 2 false, .move .DROP 100 0,
    .move .PICKUP 40 0, .voidMovement 2, .endBilling, .count [100] false, .count [200] false,
    .decide none, .count [210] false, .decide (some .RECOVER), .close (some 50), .reopen,
    .count [218] false, .close (some (25 / 2))]

theorem counter_cash_law : ∃ book : SessionBook,
    book.tssStatus = .CLOSED ∧
      book.tillCashLegs counterLedgers = book.tssFloatLeft - book.carried := by
  have runs : ((openSession counterLedgers counterSettings { lines := [98] }).bind fun opened =>
      runSteps counterLedgers counterSettings opened counterSteps).any
        (·.tssStatus = .CLOSED) = true := by
    decide +kernel
  obtain ⟨book, ran, runs⟩ := (Option.any_eq_true _ _).mp runs
  rw [decide_eq_true_eq] at runs
  obtain ⟨opened, opens, ran⟩ := Option.bind_eq_some_iff.mp ran
  have allowed : OpenInput.Allowed counterSettings { lines := [98] } := by decide +kernel
  exact ⟨book, runs, session_cash_law ((SessionRun.opened allowed opens).runSteps ran) runs⟩

/-- A float of a hundred rupees and half a paisa, two hundred counted: the paisa is both issued
and found over, and no later count misses it. -/
theorem half_paisa_issued :
    ¬∀ (ledgers : TillLedgers) (settings : SessionSettings) (input : OpenInput)
      (steps : List SessionStep) (opened book : SessionBook),
      openSession ledgers settings input = some opened →
      steps.foldlM (sessionStep ledgers settings) opened = some book →
      book.tssStatus = .CLOSED → book.tillCashLegs ledgers = book.tssFloatLeft - book.carried := by
  intro always
  let input : OpenInput := { floatIssued := some (20001 / 200), lines := [200] }
  let steps : List SessionStep := [.endBilling, .count [200] false, .close (some 10)]
  have runs : ((openSession counterLedgers counterSettings input).bind fun opened =>
      steps.foldlM (sessionStep counterLedgers counterSettings) opened).any (fun book =>
        book.tssStatus = .CLOSED &&
          book.tillCashLegs counterLedgers ≠ book.tssFloatLeft - book.carried) = true := by
    decide +kernel
  obtain ⟨book, ran, runs⟩ := (Option.any_eq_true _ _).mp runs
  rw [Bool.and_eq_true, decide_eq_true_eq, decide_eq_true_eq] at runs
  obtain ⟨opened, opens, ran⟩ := Option.bind_eq_some_iff.mp ran
  exact runs.2 (always counterLedgers counterSettings input steps opened book opens ran runs.1)

/-- A bill that arrives at a closed session adds its leg to it. -/
example : ((openSession counterLedgers counterSettings { lines := [100] }).bind fun opened =>
    List.foldlM (sessionStep counterLedgers counterSettings) opened
      [.endBilling, .count [100] false, .close (some 10), .tender ⟨.SALE_BILL, .DR, 25, 0⟩ true]).map
        (fun book => (book.tssStatus, book.tillCashLegs counterLedgers, book.tssFloatLeft)) =
      some (.CLOSED, 35, 10) := by
  decide +kernel

end ErpServer.Till.Session
