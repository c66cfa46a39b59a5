import ErpServer.Vouchers.Leaves
import ErpServer.Vouchers.VoucherLegs

/-!
# The leaves of two derivations

The leaves of one derivation follow on in their books.  A second derivation of the same object
follows on from the first, so it draws the same leaves only where neither draws any.
-/

namespace ErpServer.Vouchers

open Lib
open Receipt (Decimal DrCr)

variable {cases : Text.CaseMapping} {input : DeriveInput} {derived : Derived}
variable {promised next : Promised} {line : TypedLineInput} {ins : InstrumentInput}
variable {ledger : LedgerFacts}

/-- Two leaves of a width are never written alike. -/
theorem formatLeaf_inj {left right width : ℕ}
    (same : formatLeaf left width = formatLeaf right width) : left = right := by
  have number (leaf : ℕ) : Nat.ofDigitChars 10 (formatLeaf leaf width) 0 = leaf := by
    rw [formatLeaf, Nat.toString_eq_repr, Nat.toList_repr, List.leftpad, Nat.ofDigitChars_append,
      Nat.ofDigitChars_replicate_zero, Nat.mul_zero, Nat.ofDigitChars_ten_toDigits]
  rw [← number left, same, number right]

/-! ## One instrument -/

/-- The leaves of a book promised so far. -/
def Promised.count (promised : Promised) (bookId : Uuid) : ℕ := (promised.get? bookId).getD 0

theorem count_set (promised : Promised) (bookId other : Uuid) (leaves : ℕ) :
    Promised.count (promised.set bookId leaves) other =
      if other = bookId then leaves else promised.count other := by
  rw [Promised.count, OrderedMap.get?_set]
  split
  · rfl
  · rfl

/-- The book is open, of the company and of the bank, and the leaf is within it. -/
structure GivesLeaf (input : DeriveInput) (promised : Promised) (ins : InstrumentInput)
    (bankLedgerId : Option Uuid) (book : ChequeBookFacts) (leafNo : ℕ) : Prop where
  named : ins.chequeBookId.bind input.chequeBooks = some book
  live : book.isDeleted = false
  ofCompany : book.companyId = input.company.companyId
  ofBank : some book.bankLedgerId = bankLedgerId
  active : book.status = .ACTIVE
  next : leafNo = book.nextLeaf + promised.count book.chequeBookId
  within : leafNo ≤ book.leafTo

variable {book : ChequeBookFacts} {source : IssuedFrom} {row : ℕ} {tax : Decimal}
variable {group : List TypedLeg}

theorem nextLeafOf_ok {leafNo : ℕ} :
    nextLeafOf input promised line ins source = .ok (book, leafNo) ↔
      GivesLeaf input promised ins source.bankLedgerId book leafNo := by
  constructor
  · intro ok
    rw [nextLeafOf] at ok
    split at ok
    · cases ok
    · next found named =>
        obtain ⟨known, live⟩ := Option.filter_eq_some_iff.mp named
        rw [Bool.and_eq_true, Bool.not_eq_true', decide_eq_true_eq] at live
        simp only at ok
        split at ok
        · cases ok
        · next ofBank =>
            split at ok
            · cases ok
            · next usable =>
                cases ok
                rw [not_or, not_not, not_lt] at usable
                exact ⟨known, live.1, live.2, not_not.mp ofBank, usable.1, rfl, usable.2⟩
  · intro gives
    have named : ((ins.chequeBookId.bind input.chequeBooks).filter fun book =>
        !book.isDeleted && book.companyId = input.company.companyId) = some book := by
      rw [gives.named, Option.filter_some, gives.live, gives.ofCompany]
      simp
    have within := gives.within
    rw [gives.next, Promised.count] at within
    rw [nextLeafOf, named]
    simp only
    rw [if_neg (not_not.mpr gives.ofBank), if_neg, gives.next, Promised.count]
    rw [not_or, not_not, not_lt]
    exact ⟨gives.active, within⟩

/-- The bank a payment's instrument is drawn on. -/
structure DrawnOn (cases : Text.CaseMapping) (input : DeriveInput) (ins : InstrumentInput)
    (tender : TenderFacts) (bank : LedgerFacts) : Prop where
  notCash : tender.isCash = false
  named : ∃ bankId, ins.bankLedgerId = some bankId ∧ input.ledgers bankId = some bank
  ofBanks : isBankLedger cases bank = true
  active : bank.isActive = true
  live : bank.isDeleted = false

variable {tender : TenderFacts} {read : InstrumentRead} {typed : List TypedLeg} {run : LineRun}

theorem issuedFrom_bank {bankLedgerId : Uuid}
    (ok : issuedFrom cases input line ins tender = .ok source)
    (isBank : source.bankLedgerId = some bankLedgerId) :
    ∃ bank, DrawnOn cases input ins tender bank ∧ bank.ledId = bankLedgerId := by
  rw [issuedFrom] at ok
  split at ok
  · cases ok
    cases isBank
  · next notCash =>
      split at ok
      · cases ok
      · next bankId named =>
          split at ok
          · cases ok
          · next bank known =>
              obtain ⟨known, live⟩ := Option.filter_eq_some_iff.mp known
              rw [Bool.and_eq_true, Bool.and_eq_true, Bool.not_eq_true'] at live
              split at ok
              · cases ok
              · cases ok
                exact ⟨bank, ⟨Bool.eq_false_iff.mpr notCash, ⟨bankId, named, known⟩, live.1.1,
                  live.1.2, live.2⟩, Option.some.inj isBank⟩

theorem issuedFrom_drawn {bank : LedgerFacts} (cheque : tender.typeId = CHEQUE_TENDER_TYPE_ID)
    (drawn : DrawnOn cases input ins tender bank) :
    issuedFrom cases input line ins tender = .ok ⟨bank.ledId, bank.name, some bank.ledId⟩ := by
  obtain ⟨bankId, named, known⟩ := drawn.named
  have live : ((input.ledgers bankId).filter fun bank =>
      isBankLedger cases bank && bank.isActive && !bank.isDeleted) = some bank := by
    rw [known, Option.filter_some, drawn.ofBanks, drawn.active, drawn.live]
    rfl
  rw [issuedFrom, if_neg (Bool.eq_false_iff.mp drawn.notCash), named]
  simp only
  rw [live]
  simp only
  rw [if_neg (fun needs => needs.1 cheque)]

/-- A cheque of a payment draws a leaf. -/
structure ChequeDraws (cases : Text.CaseMapping) (input : DeriveInput) (promised : Promised)
    (line : TypedLineInput) (ins : InstrumentInput) (tender : TenderFacts)
    (read : InstrumentRead) (book : ChequeBookFacts) : Prop where
  cheque : tender.typeId = CHEQUE_TENDER_TYPE_ID
  gives : ∃ bank, DrawnOn cases input ins tender bank ∧ GivesLeaf input promised ins
    (some bank.ledId) book (book.nextLeaf + promised.count book.chequeBookId)
  leaf : read.instrument.leaf = some ⟨line.rowNo, book,
    formatLeaf (book.nextLeaf + promised.count book.chequeBookId) book.leafWidth⟩
  counted : read.promised =
    promised.set book.chequeBookId (promised.count book.chequeBookId + 1)

theorem readIssuedInstrument_ok
    (ok : readIssuedInstrument cases input promised line ins ledger tender = .ok read) :
    (read.instrument.leaf = none ∧ read.promised = promised) ∨
      ∃ book, ChequeDraws cases input promised line ins tender read book := by
  rw [readIssuedInstrument] at ok
  split at ok
  · cases ok
  · cases issued : issuedFrom cases input line ins tender with
    | error refusal =>
        rw [issued] at ok
        cases ok
    | ok source =>
        rw [issued] at ok
        simp only [bind, Except.bind] at ok
        split at ok
        · next cheque =>
            right
            split at ok
            · cases ok
            · next found ran =>
                obtain ⟨book, leafNo⟩ := found
                have given := nextLeafOf_ok.mp ran
                obtain ⟨bank, drawn, same⟩ := issuedFrom_bank issued given.ofBank.symm
                have numbered := given.next
                subst numbered
                have atBank := given.ofBank
                cases ok
                refine ⟨book, cheque, ⟨bank, drawn, ?_⟩, rfl, rfl⟩
                rw [same, atBank]
                exact given
        · left
          cases ok
          exact ⟨rfl, rfl⟩

theorem readIssuedInstrument_draws {tender : TenderFacts} {bank : LedgerFacts}
    {book : ChequeBookFacts} {leafNo : ℕ} (cheque : tender.typeId = CHEQUE_TENDER_TYPE_ID)
    (drawn : DrawnOn cases input ins tender bank)
    (gives : GivesLeaf input promised ins (some bank.ledId) book leafNo) :
    ∃ read, readIssuedInstrument cases input promised line ins ledger tender = .ok read ∧
      read.instrument.leaf ≠ none := by
  have payable : tender.typeId ∈ PAYABLE_TENDER_TYPES := by
    rw [cheque]
    decide
  have ran : nextLeafOf input promised line ins ⟨bank.ledId, bank.name, some bank.ledId⟩ =
      .ok (book, leafNo) :=
    nextLeafOf_ok.mpr gives
  rw [readIssuedInstrument, if_neg (not_not.mpr payable), issuedFrom_drawn cheque drawn]
  simp only [bind, Except.bind, if_pos cheque, ran]
  exact ⟨_, rfl, Option.some_ne_none _⟩

theorem readReceivedInstrument_ok
    (ok : readReceivedInstrument input promised line ins ledger tender = .ok read) :
    read.instrument.leaf = none ∧ read.promised = promised := by
  rw [readReceivedInstrument] at ok
  split at ok
  · cases ok
  · cases ok
    exact ⟨rfl, rfl⟩

/-- The leaf an instrument read draws, and what that takes of the line. -/
structure LineDraws (cases : Text.CaseMapping) (input : DeriveInput) (promised : Promised)
    (line : TypedLineInput) (ins : InstrumentInput) (read : InstrumentRead)
    (book : ChequeBookFacts) : Prop where
  takesInstruments : input.type.instruments = true
  payment : input.type.partySide = .DR
  debited : line.drCr = .DR
  tender : ∃ tender, input.tenders ins.tenderId = some tender ∧ tender.isDeleted = false ∧
    tender.companyId = input.company.companyId ∧ tender.isActive = true ∧
      ChequeDraws cases input promised line ins tender read book

theorem readInstrument_ok (ok : readInstrument cases input promised line ins ledger = .ok read) :
    (read.instrument.leaf = none ∧ read.promised = promised) ∨
      ∃ book, LineDraws cases input promised line ins read book := by
  rw [readInstrument] at ok
  split at ok
  · cases ok
  · next takes =>
      split at ok
      · cases ok
      · next side =>
          split at ok
          · cases ok
          · next tender known =>
              obtain ⟨known, live⟩ := Option.filter_eq_some_iff.mp known
              rw [Bool.and_eq_true, Bool.not_eq_true', decide_eq_true_eq] at live
              split at ok
              · cases ok
              · next active =>
                  split at ok
                  · cases ok
                  · split at ok
                    · next payment =>
                        rw [payment] at side
                        cases readIssuedInstrument_ok ok with
                        | inl other => exact Or.inl other
                        | inr draws =>
                            obtain ⟨book, draws⟩ := draws
                            refine Or.inr ⟨book, ?_, payment, ?_, tender, known, live.1, live.2,
                              ?_, draws⟩
                            · simpa using takes
                            · simpa [PartySide.fixed] using side
                            · simpa using active
                    · exact Or.inl (readReceivedInstrument_ok ok)

theorem LineDraws.drawsLeaf (known : input.ledgers line.ledgerId = some ledger)
    (carries : line.instrument = some ins)
    (draws : LineDraws cases input promised line ins read book) : DrawsLeaf cases input line := by
  obtain ⟨tender, listed, undeleted, ofCompany, active, cheque⟩ := draws.tender
  obtain ⟨bank, drawn, gives⟩ := cheque.gives
  obtain ⟨bankId, named, isLedger⟩ := drawn.named
  exact
    { known := ⟨ledger, known⟩
      takesInstruments := draws.takesInstruments
      payment := draws.payment
      debited := draws.debited
      cheque := ⟨ins, tender, bankId, bank, book, carries, listed, undeleted, ofCompany, active,
        cheque.cheque, drawn.notCash, named, isLedger, drawn.ofBanks, drawn.active, drawn.live,
        gives.named, gives.live, gives.ofCompany, Option.some.inj gives.ofBank, gives.active,
        le_trans (Nat.le_add_right _ _) gives.within⟩ }

/-- With nothing promised, a cheque that finds a leaf draws it. -/
theorem DrawsLeaf.draws (draws : DrawsLeaf cases input line) :
    ∃ ledger ins read, input.ledgers line.ledgerId = some ledger ∧ line.instrument = some ins ∧
      readInstrument cases input .empty line ins ledger = .ok read ∧
      read.instrument.leaf ≠ none := by
  obtain ⟨ledger, known⟩ := draws.known
  obtain ⟨ins, tender, bankId, bank, book, carries, listed, undeleted, ofCompany, active, cheque,
    notCash, named, isLedger, ofBanks, bankActive, bankLive, bookNamed, bookLive, bookCompany,
    ofBank, bookActive, within⟩ := draws.cheque
  have gives : GivesLeaf input .empty ins (some bank.ledId) book book.nextLeaf :=
    ⟨bookNamed, bookLive, bookCompany, congrArg some ofBank, bookActive, rfl, within⟩
  obtain ⟨read, ran, leaf⟩ := @readIssuedInstrument_draws cases input .empty line ins ledger
    tender bank book _ cheque ⟨notCash, ⟨bankId, named, isLedger⟩, ofBanks, bankActive, bankLive⟩
    gives
  have live : ((input.tenders ins.tenderId).filter fun tender =>
      !tender.isDeleted && tender.companyId = input.company.companyId) = some tender := by
    rw [listed, Option.filter_some, undeleted, ofCompany]
    simp
  have included : tender.typeId ∉ EXCLUDED_INSTRUMENT_TYPES := by
    rw [cheque]
    decide
  refine ⟨ledger, ins, read, known, carries, ?_, leaf⟩
  rw [readInstrument, draws.takesInstruments, draws.payment, draws.debited, live]
  simpa [active, included, PartySide.fixed] using ran

/-! ## One line -/

/-- The leaves the lines read so far draw. -/
def LineRun.leaves (run : LineRun) : List Leaf :=
  run.typed.filterMap fun leg => leg.instrument.bind InternalInstrument.leaf

/-- What a line does to the leaves and the promises. -/
inductive LineStep (cases : Text.CaseMapping) (input : DeriveInput) (run : LineRun)
    (line : TypedLineInput) (after : LineRun) : Prop where
  | other : after.leaves = run.leaves → after.promised = run.promised →
      LineStep cases input run line after
  | drawn (book : ChequeBookFacts) : line.rowNo ∉ run.seenRows → DrawsLeaf cases input line →
      book.nextLeaf + run.promised.count book.chequeBookId ≤ book.leafTo →
      after.leaves = run.leaves ++ [⟨line.rowNo, book,
        formatLeaf (book.nextLeaf + run.promised.count book.chequeBookId) book.leafWidth⟩] →
      after.promised = run.promised.set book.chequeBookId
        (run.promised.count book.chequeBookId + 1) →
      LineStep cases input run line after

theorem leaves_append {leg : TypedLeg} :
    (typed ++ [leg]).filterMap (fun leg => leg.instrument.bind InternalInstrument.leaf) =
      typed.filterMap (fun leg => leg.instrument.bind InternalInstrument.leaf) ++
        (leg.instrument.bind InternalInstrument.leaf).toList := by
  rw [List.filterMap_append, List.filterMap_cons, List.filterMap_nil]
  cases leg.instrument.bind InternalInstrument.leaf with
  | none => rfl
  | some leaf => rfl

theorem deriveLine_step (run : LineRun) :
    LineStep cases input run line (deriveLine cases input run line) := by
  rw [deriveLine]
  split
  · exact .other rfl rfl
  · next fresh =>
      split
      · exact .other rfl rfl
      · next ledger known =>
          simp only
          split
          · exact .other (leaves_append.trans (List.append_nil _)) rfl
          · next ins carries =>
              split
              · exact .other (leaves_append.trans (List.append_nil _)) rfl
              · next read ran =>
                  cases readInstrument_ok ran with
                  | inl other =>
                      obtain ⟨noLeaf, kept⟩ := other
                      refine .other (leaves_append.trans ?_) kept
                      rw [typedLeg, Option.bind_some, noLeaf]
                      exact List.append_nil _
                  | inr draws =>
                      obtain ⟨book, draws⟩ := draws
                      obtain ⟨tender, _, _, _, _, cheque⟩ := draws.tender
                      obtain ⟨bank, _, gives⟩ := cheque.gives
                      refine .drawn book fresh (draws.drawsLeaf known carries) gives.within
                        (leaves_append.trans ?_) cheque.counted
                      rw [typedLeg, Option.bind_some, cheque.leaf]
                      rfl

theorem mem_seenRows_deriveLine :
    row ∈ (deriveLine cases input run line).seenRows ↔ row = line.rowNo ∨ row ∈ run.seenRows := by
  rw [deriveLine]
  split
  · next seen =>
      constructor
      · exact Or.inr
      · rintro (rfl | before)
        · exact seen
        · exact before
  · have added : row ∈ line.rowNo :: run.seenRows ↔ row = line.rowNo ∨ row ∈ run.seenRows :=
      List.mem_cons
    split
    · exact added
    · simp only
      split
      · exact added
      · split
        · exact added
        · exact added

/-- With nothing promised, the first line of its row that finds a leaf draws it. -/
theorem deriveLine_draws (nonePromised : run.promised = .empty) (fresh : line.rowNo ∉ run.seenRows)
    (draws : DrawsLeaf cases input line) : (deriveLine cases input run line).leaves ≠ [] := by
  obtain ⟨ledger, ins, read, known, carries, ran, leaf⟩ := draws.draws
  rw [deriveLine, if_neg fresh, known]
  simp only [carries, nonePromised, ran]
  intro noLeaves
  have last := leaves_append.symm.trans noLeaves
  rw [typedLeg, Option.bind_some, List.append_eq_nil_iff, Option.toList_eq_nil_iff] at last
  exact leaf last.2

/-! ## Leaves drawn one after another -/

/-- Leaves each the next of its book, after those promised, and the promises they end with. -/
inductive Drawn : Promised → List Leaf → Promised → Prop
  | nil {promised : Promised} : Drawn promised [] promised
  | cons {promised next : Promised} {leaf : Leaf} {rest : List Leaf} :
      leaf.number = formatLeaf (leaf.book.nextLeaf + promised.count leaf.book.chequeBookId)
        leaf.book.leafWidth →
      leaf.book.nextLeaf + promised.count leaf.book.chequeBookId ≤ leaf.book.leafTo →
      Drawn (promised.set leaf.book.chequeBookId
        (promised.count leaf.book.chequeBookId + 1)) rest next →
      Drawn promised (leaf :: rest) next

namespace Drawn

variable {leaves : List Leaf}

theorem ofNil (drawn : Drawn promised [] next) : next = promised := by
  cases drawn
  rfl

/-- A leaf is numbered by the leaves of its book before it. -/
theorem numbered (drawn : Drawn promised leaves next) :
    ∀ {bookId index leaf}, (leavesOfBook bookId leaves)[index]? = some leaf →
      leaf.number = formatLeaf (leaf.book.nextLeaf + (promised.count bookId + index))
        leaf.book.leafWidth ∧
      leaf.book.nextLeaf + (promised.count bookId + index) ≤ leaf.book.leafTo := by
  induction drawn with
  | nil =>
      intro bookId index leaf found
      cases found
  | @cons promised next first rest number within drawn ih =>
      intro bookId index leaf found
      rw [leavesOfBook, List.filter_cons] at found
      split at found
      · next ofBook =>
          rw [decide_eq_true_eq] at ofBook
          subst ofBook
          cases index with
          | zero =>
              cases Option.some.inj found
              exact ⟨number, within⟩
          | succ index =>
              have later := ih found
              rw [count_set, if_pos rfl, Nat.add_right_comm, Nat.add_assoc _ index 1] at later
              exact later
      · next otherBook =>
          rw [decide_eq_true_eq] at otherBook
          have later := ih found
          rw [count_set, if_neg (Ne.symm otherBook)] at later
          exact later

/-- No leaf is drawn twice. -/
theorem distinct (drawn : Drawn promised leaves next) :
    leaves.Pairwise fun earlier later =>
      earlier.book = later.book → earlier.number ≠ later.number := by
  induction drawn with
  | nil => exact List.Pairwise.nil
  | @cons promised next first rest number within drawn ih =>
      refine List.Pairwise.cons ?_ ih
      intro later listed sameBook sameNumber
      have ofBook : later ∈ leavesOfBook first.book.chequeBookId rest :=
        List.mem_filter.mpr ⟨listed, decide_eq_true (congrArg (·.chequeBookId) sameBook.symm)⟩
      obtain ⟨index, found⟩ := List.mem_iff_getElem?.mp ofBook
      have laterNumber := (drawn.numbered found).1
      rw [count_set, if_pos rfl, ← sameNumber, number, ← sameBook] at laterNumber
      have equal := formatLeaf_inj laterNumber
      omega

/-- The promises count the leaves drawn. -/
theorem count (drawn : Drawn promised leaves next) (bookId : Uuid) :
    next.count bookId = promised.count bookId + (leavesOfBook bookId leaves).length := by
  induction drawn with
  | nil => rfl
  | @cons promised next first rest number within drawn ih =>
      rw [ih, count_set, leavesOfBook, leavesOfBook, List.filter_cons]
      by_cases ofBook : first.book.chequeBookId = bookId
      · rw [if_pos ofBook.symm, if_pos (decide_eq_true ofBook), List.length_cons, ofBook]
        omega
      · rw [if_neg (Ne.symm ofBook), if_neg (by simpa using ofBook)]

/-- The same leaves drawn twice over are none: the second time their books have gone on. -/
theorem twice {later : Promised} (drawn : Drawn .empty leaves next)
    (again : Drawn next leaves later) : leaves = [] := by
  cases leaves with
  | nil => rfl
  | cons first rest =>
      exfalso
      have counted := drawn.count first.book.chequeBookId
      have listed : (leavesOfBook first.book.chequeBookId (first :: rest)) =
          first :: leavesOfBook first.book.chequeBookId rest :=
        List.filter_cons_of_pos (decide_eq_true rfl)
      have found : (leavesOfBook first.book.chequeBookId (first :: rest))[0]? = some first := by
        rw [listed]
        rfl
      have firstNumber := (drawn.numbered found).1
      rw [(again.numbered found).1] at firstNumber
      have equal := formatLeaf_inj firstNumber
      rw [listed, List.length_cons] at counted
      omega

end Drawn

/-! ## All the lines -/

/-- What the lines read add to the leaves. -/
structure Adds (cases : Text.CaseMapping) (input : DeriveInput) (run : LineRun)
    (lines : List TypedLineInput) (after : LineRun) (added : List Leaf) : Prop where
  leaves : after.leaves = run.leaves ++ added
  drawn : Drawn run.promised added after.promised
  ofLines : (added.map (·.row)).Sublist (lines.map (·.rowNo))
  fresh : ∀ leaf ∈ added, leaf.row ∉ run.seenRows
  once : (added.map (·.row)).Nodup
  caused : added ≠ [] → ∃ before line rest, lines = before ++ line :: rest ∧
    line.rowNo ∉ run.seenRows ∧ line.rowNo ∉ before.map (·.rowNo) ∧ DrawsLeaf cases input line

theorem Adds.cons {run : LineRun} {rest : List TypedLineInput} {after : LineRun}
    {added : List Leaf}
    (adds : Adds cases input (deriveLine cases input run line) rest after added) :
    ∃ all, Adds cases input run (line :: rest) after all := by
  have unseen {row : ℕ} (isFresh : row ∉ (deriveLine cases input run line).seenRows) :
      row ≠ line.rowNo ∧ row ∉ run.seenRows := by
    rw [mem_seenRows_deriveLine, not_or] at isFresh
    exact isFresh
  have causedLater (someLeaf : added ≠ []) : ∃ before later tail,
      line :: rest = before ++ later :: tail ∧ later.rowNo ∉ run.seenRows ∧
        later.rowNo ∉ before.map (·.rowNo) ∧ DrawsLeaf cases input later := by
    obtain ⟨before, later, tail, rfl, isFresh, first, draws⟩ := adds.caused someLeaf
    refine ⟨line :: before, later, tail, rfl, (unseen isFresh).2, ?_, draws⟩
    rw [List.map_cons, List.mem_cons, not_or]
    exact ⟨(unseen isFresh).1, first⟩
  cases @deriveLine_step cases input line run with
  | other noLeaf kept =>
      refine ⟨added, ?_, ?_, adds.ofLines.cons _, ?_, adds.once, causedLater⟩
      · rw [adds.leaves, noLeaf]
      · rw [← kept]
        exact adds.drawn
      · exact fun leaf listed => (unseen (adds.fresh leaf listed)).2
  | drawn book isFresh draws within oneLeaf counted =>
      have drawnOn : Drawn run.promised (⟨line.rowNo, book, formatLeaf
          (book.nextLeaf + run.promised.count book.chequeBookId) book.leafWidth⟩ :: added)
          after.promised := by
        refine .cons rfl within ?_
        rw [← counted]
        exact adds.drawn
      refine ⟨_, ?_, drawnOn, adds.ofLines.cons_cons _, ?_, ?_, ?_⟩
      · rw [adds.leaves, oneLeaf, List.append_assoc, List.singleton_append]
      · intro leaf listed
        cases List.mem_cons.mp listed with
        | inl same =>
            rw [same]
            exact isFresh
        | inr later => exact (unseen (adds.fresh leaf later)).2
      · refine List.Nodup.cons ?_ adds.once
        intro repeated
        obtain ⟨leaf, listed, same⟩ := List.mem_map.mp repeated
        exact (unseen (adds.fresh leaf listed)).1 same
      · intro _
        exact ⟨[], line, rest, rfl, isFresh, List.not_mem_nil, draws⟩

theorem foldl_adds (lines : List TypedLineInput) (run : LineRun) :
    ∃ added, Adds cases input run lines (lines.foldl (deriveLine cases input) run) added := by
  induction lines generalizing run with
  | nil =>
      exact ⟨[], (List.append_nil _).symm, .nil, List.Sublist.slnil,
        fun leaf listed => absurd listed List.not_mem_nil, List.nodup_nil,
        fun someLeaf => absurd rfl someLeaf⟩
  | cons line rest ih =>
      obtain ⟨added, adds⟩ := ih (deriveLine cases input run line)
      exact adds.cons

theorem mem_seenRows_foldl (lines : List TypedLineInput) (run : LineRun) :
    row ∈ (lines.foldl (deriveLine cases input) run).seenRows ↔
      row ∈ lines.map (·.rowNo) ∨ row ∈ run.seenRows := by
  induction lines generalizing run with
  | nil =>
      constructor
      · exact Or.inr
      · exact fun either => either.resolve_left List.not_mem_nil
  | cons line rest ih =>
      rw [List.foldl_cons, ih, mem_seenRows_deriveLine, List.map_cons, List.mem_cons]
      tauto

/-- A run that drew nothing keeps its promises. -/
theorem Adds.kept {after : LineRun} {lines : List TypedLineInput} {added : List Leaf}
    (adds : Adds cases input run lines after added) (noLeaf : added = []) :
    after.promised = run.promised := by
  have drawn := adds.drawn
  rw [noLeaf] at drawn
  exact drawn.ofNil

/-- A line that finds a leaf is not passed over by a run that started with no promise. -/
theorem foldl_draws {before rest : List TypedLineInput} {run : LineRun}
    (nonePromised : run.promised = .empty) (fresh : line.rowNo ∉ run.seenRows)
    (first : line.rowNo ∉ before.map (·.rowNo)) (draws : DrawsLeaf cases input line) :
    ((before ++ line :: rest).foldl (deriveLine cases input) run).leaves ≠ [] := by
  obtain ⟨early, earlyAdds⟩ := @foldl_adds cases input before run
  obtain ⟨late, lateAdds⟩ := @foldl_adds cases input rest
    (deriveLine cases input (before.foldl (deriveLine cases input) run) line)
  rw [List.foldl_append, List.foldl_cons, lateAdds.leaves]
  intro empty
  have noneYet := (List.append_eq_nil_iff.mp empty).1
  cases early with
  | nil =>
      have promised := (earlyAdds.kept rfl).trans nonePromised
      refine deriveLine_draws promised ?_ draws noneYet
      rw [mem_seenRows_foldl, not_or]
      exact ⟨first, fresh⟩
  | cons leaf others =>
      have grew := earlyAdds.leaves
      have grown := @deriveLine_step cases input line
        (before.foldl (deriveLine cases input) run)
      cases grown with
      | other same _ =>
          rw [same, grew, List.append_eq_nil_iff] at noneYet
          cases noneYet.2
      | drawn book _ _ _ more _ =>
          rw [more, List.append_eq_nil_iff] at noneYet
          cases noneYet.2

/-! ## The legs of tax deducted draw no leaf -/

def OfTds (legs : List InternalLeg) : Prop := ∀ leg ∈ legs, leg.source = .TDS

theorem OfTds.nil : OfTds [] := fun _ listed => absurd listed List.not_mem_nil

theorem OfTds.tdsLeg {ledger : ResolvedRoleLedger} {remarks : String} {rows : List ℕ}
    {postDated : Bool} {postsOn : Option IsoDate} :
    OfTds [tdsLeg ledger tax remarks rows postDated postsOn] := by
  intro leg listed
  rw [List.mem_singleton.mp listed]
  rfl

theorem OfTds.append {left right : List InternalLeg} (ofLeft : OfTds left)
    (ofRight : OfTds right) : OfTds (left ++ right) := by
  intro leg listed
  cases List.mem_append.mp listed with
  | inl onLeft => exact ofLeft leg onLeft
  | inr onRight => exact ofRight leg onRight

theorem deriveTdsOne_ofTds {read : PartyRead} {one : TdsOne}
    (ok : deriveTdsOne cases input read typed = .ok one) : OfTds one.legs := by
  rw [deriveTdsOne] at ok
  split at ok
  · split at ok
    · simp only at ok
      split at ok
      · cases ok
        exact .nil
      · split at ok
        · cases ok
          exact .nil
        · simp only [deductOne] at ok
          split at ok
          · cases ok
          · split at ok
            · cases ok
              exact .nil
            · cases ok
              simp only
              split
              · exact .nil
              · split
                · exact .tdsLeg
                · exact .nil
    · cases ok
      exact .nil
  · cases ok
    exact .nil

theorem withhold_ofTds {run : TdsRun} {party : LedgerFacts} {first : ℕ} {tdsSection : Text}
    {rate : TdsRateFacts} {base : Decimal} (ofTds : OfTds run.legs) :
    OfTds (withhold cases input run party group first tdsSection rate base tax).legs := by
  rw [withhold]
  split
  · split
    · exact ofTds
    · exact ofTds
  · split
    · exact ofTds
    · apply ofTds.append
      split
      · exact .tdsLeg
      · exact .nil

theorem deductGroup_ofTds {run after : TdsRun} (ofTds : OfTds run.legs)
    (ok : deductGroup cases input run group = .ok after) : OfTds after.legs := by
  cases group with
  | nil =>
      cases ok
      exact ofTds
  | cons leg rest =>
      simp only [deductGroup] at ok
      split at ok
      · cases ok
        exact ofTds
      · split at ok
        · cases ok
          exact ofTds
        · split at ok
          · cases ok
            exact ofTds
          · simp only [deductMany] at ok
            split at ok
            · cases ok
            · split at ok
              · cases ok
                exact ofTds
              · cases ok
                exact withhold_ofTds ofTds

theorem deriveTdsMany_ofTds {many : TdsRun} (ok : deriveTdsMany cases input typed = .ok many) :
    OfTds many.legs := by
  rw [deriveTdsMany] at ok
  split at ok
  · exact Fold.foldlM_invariant ok (motive := fun _ run => OfTds run.legs) .nil
      fun _ _ _ _ _ ofTds ran => deductGroup_ofTds ofTds ran
  · cases ok
    exact .nil

/-! ## The leaves of a voucher -/

/-- Only the legs of instruments draw leaves. -/
theorem filterMap_leaf_nil {legs : List InternalLeg}
    (others : ∀ leg ∈ legs, leg.source ≠ .INSTRUMENT) :
    legs.filterMap InternalLeg.leaf = [] := by
  rw [List.filterMap_eq_nil_iff]
  intro leg listed
  rw [InternalLeg.leaf, if_neg (others leg listed)]

theorem filterMap_leaf_instrumentLegs (typed : List TypedLeg) :
    (instrumentLegs typed).filterMap InternalLeg.leaf =
      typed.filterMap fun leg => leg.instrument.bind InternalInstrument.leaf := by
  rw [instrumentLegs, List.filterMap_filterMap]
  apply List.filterMap_congr
  intro leg _
  cases leg.instrument with
  | none => rfl
  | some ins => rfl

theorem leavesOf_assemble {bands : Bands} {billwise : Billwise} :
    leavesOf (assemble input bands billwise) =
      bands.allLegs.filterMap InternalLeg.leaf := by
  have bare (legs : List InternalLeg) : legs.filterMap InternalLeg.leaf =
      (legs.map InternalLeg.bare).filterMap InternalLeg.leaf := by
    rw [List.filterMap_map]
    rfl
  rw [bare bands.allLegs, ← @voucherLegs_bare bands input.type, ← bare]
  rfl

/-- A voucher draws the leaves its lines drew. -/
theorem leavesOf_run (ok : deriveFromRun cases run input = .ok derived) :
    leavesOf derived = run.leaves := by
  obtain ⟨one, oneOk, ok⟩ := Fold.bind_eq_ok ok
  obtain ⟨many, manyOk, ok⟩ := Fold.bind_eq_ok ok
  obtain ⟨billwise, _, ok⟩ := Fold.bind_eq_ok ok
  cases ok
  have typed : (many.typed.map TypedLeg.toLeg).filterMap InternalLeg.leaf = [] := by
    apply filterMap_leaf_nil
    intro leg listed
    rw [toLeg_source many.typed listed]
    decide
  have gst : (deriveGst cases input (readParty cases input) run.typed).legs.filterMap
      InternalLeg.leaf = [] := by
    apply filterMap_leaf_nil
    intro leg listed
    cases deriveGst_source listed with
    | inl same => rw [same]; decide
    | inr same => rw [same]; decide
  have tds {legs : List InternalLeg} (ofTds : OfTds legs) :
      legs.filterMap InternalLeg.leaf = [] := by
    apply filterMap_leaf_nil
    intro leg listed
    rw [ofTds leg listed]
    decide
  have party : (bandsFrom cases run input one many).balancing.legs.filterMap
      InternalLeg.leaf = [] := by
    apply filterMap_leaf_nil
    intro leg listed
    rw [balancing_source listed]
    decide
  rw [leavesOf_assemble, Bands.allLegs, List.filterMap_append, party, List.append_nil, bandsFrom]
  simp only [List.filterMap_append]
  rw [typed, gst, tds (deriveTdsOne_ofTds oneOk), tds (deriveTdsMany_ofTds manyOk),
    filterMap_leaf_instrumentLegs]
  simp only [List.nil_append, List.append_nil]
  rfl

/-! ## One derivation and the next -/

theorem sortedLines_rows : ((sortedLines input).map (·.rowNo)).Pairwise (· ≤ ·) := by
  rw [List.pairwise_map]
  exact List.pairwise_insertionSort (fun left right : TypedLineInput => left.rowNo ≤ right.rowNo)
    input.lines

/-- The run of a derivation adds its leaves to none. -/
theorem deriveLinesFrom_adds (cases : Text.CaseMapping) (promised : Promised)
    (input : DeriveInput) : ∃ run, run.promised = promised ∧ run.seenRows = [] ∧
      Adds cases input run (sortedLines input) (deriveLinesFrom cases promised input)
        (deriveLinesFrom cases promised input).leaves := by
  obtain ⟨added, adds⟩ := @foldl_adds cases input (sortedLines input)
    ⟨[], promised, [],
      if input.lines = [] then [ofHeader .NO_LINES "Type at least one line" "lines"] else []⟩
  have all : (deriveLinesFrom cases promised input).leaves = added := adds.leaves
  rw [all]
  exact ⟨_, rfl, rfl, adds⟩

theorem deriveLinesFrom_drawn (cases : Text.CaseMapping) (promised : Promised)
    (input : DeriveInput) : Drawn promised (deriveLinesFrom cases promised input).leaves
      (deriveLinesFrom cases promised input).promised := by
  obtain ⟨run, same, _, adds⟩ := deriveLinesFrom_adds cases promised input
  rw [← same]
  exact same ▸ adds.drawn

/-- The leaves of a first derivation follow on in their books. -/
theorem leaves_inOrder (ok : derive cases input = .ok derived) :
    LeavesInOrder (leavesOf derived) := by
  rw [← deriveFrom_empty] at ok
  rw [leavesOf_run ok]
  obtain ⟨run, _, _, adds⟩ := deriveLinesFrom_adds cases .empty input
  have drawn := deriveLinesFrom_drawn cases .empty input
  constructor
  · have ordered := List.Pairwise.sublist adds.ofLines sortedLines_rows
    have strictly := ordered.and adds.once
    rw [List.pairwise_map] at strictly
    exact strictly.imp fun both => lt_of_le_of_ne both.1 both.2
  · intro bookId index leaf found
    have numbered := drawn.numbered found
    rw [Promised.count, OrderedMap.get?_empty, Option.getD_none, Nat.zero_add] at numbered
    exact numbered
  · exact drawn.distinct

/-- No leaf is drawn exactly where no line finds one. -/
theorem noLeafDrawn_iff : (deriveLinesFrom cases .empty input).leaves = [] ↔
    NoLeafDrawn cases input := by
  constructor
  · intro noLeaf before line rest lines first draws
    apply @foldl_draws cases input line before rest ⟨[], .empty, [],
      if input.lines = [] then [ofHeader .NO_LINES "Type at least one line" "lines"] else []⟩
      rfl List.not_mem_nil first draws
    rw [← lines]
    exact noLeaf
  · intro noneFinds
    by_contra someLeaf
    obtain ⟨run, _, _, adds⟩ := deriveLinesFrom_adds cases .empty input
    obtain ⟨before, line, rest, lines, _, first, draws⟩ := adds.caused someLeaf
    exact noneFinds before line rest lines first draws

/-- A derivation draws its leaves in order, and the next one of the same object draws the same,
exactly where no line finds a leaf to draw. -/
theorem same_leaves_again (ok : derive cases input = .ok derived) :
    (LeavesInOrder (leavesOf derived) ∧
      ∃ again, deriveAgain cases input = .ok again ∧ leavesOf again = leavesOf derived) ↔
    NoLeafDrawn cases input := by
  have drawn := deriveLinesFrom_drawn cases .empty input
  have first := ok
  rw [← deriveFrom_empty] at first
  constructor
  · rintro ⟨_, again, againOk, same⟩
    rw [← noLeafDrawn_iff]
    have secondDrawn := deriveLinesFrom_drawn cases (deriveFrom cases .empty input).2 input
    rw [leavesOf_run first, leavesOf_run againOk] at same
    rw [same] at secondDrawn
    exact drawn.twice secondDrawn
  · intro noneFinds
    have noLeaf := noLeafDrawn_iff.mpr noneFinds
    rw [noLeaf] at drawn
    have kept : (deriveFrom cases .empty input).2 = .empty := drawn.ofNil
    refine ⟨leaves_inOrder ok, derived, ?_, rfl⟩
    rw [deriveAgain, kept]
    exact first

/-! ## A cheque derived twice -/

private theorem payment_unraised (raise : BillwiseMode.OFF = .RAISE) :
    (none : Option BillType) ≠ none := by
  cases raise

private def paymentType : VoucherTypeRules where
  typeCode := "Pay"
  typeName := "Payment"
  nature := .PAYMENT
  partyMode := .MANY
  partySide := .DR
  billwiseMode := .OFF
  raiseBillType := none
  drGroups := []
  crGroups := []
  gstRegister := none
  gstSide := none
  tdsMode := .OFF
  instruments := true
  raise_named := payment_unraised

private def canara : LedgerFacts :=
  { plainLedger 6 "Canara" with groupNames := ["bank accounts".toList] }

/-- 300 paid to a supplier by this type of tender, of a book with leaves 41 and 42. -/
private def paidOnce (typeId : ℕ) : DeriveInput :=
  { blank paymentType with
    lines := [⟨1, .DR, 5, 300, none, none, none,
      some ⟨2, none, none, none, none, some 6, some 9, none, none⟩, none⟩]
    ledgers := fun ledgerId => some (if ledgerId = 6 then canara else
      { plainLedger 5 "Arasan Mills" with isParty := true })
    tenders := fun _ => some ⟨"Tender", typeId, "Tender", typeId = 1, false, 30, "Held", none,
      true, false, 1⟩
    chequeBooks := fun _ => some ⟨9, 1, 6, "Canara", "B-1", 42, 41, 6, .ACTIVE, false⟩ }

private def draws (numbers : List String) (derived : Derived) : Bool :=
  decide ((leavesOf derived).map (·.number) = numbers.map String.toList)

theorem cash_draws_none : ∃ derived, derive ⟨id, id⟩ (paidOnce 1) = .ok derived ∧
    ∃ again, deriveAgain ⟨id, id⟩ (paidOnce 1) = .ok again ∧
      leavesOf again = leavesOf derived := by
  have passes : (derive ⟨id, id⟩ (paidOnce 1)).toOption.any (fun _ => true) = true := by
    decide +kernel
  obtain ⟨derived, ok, _⟩ := exists_derived passes
  refine ⟨derived, ok, ((same_leaves_again ok).mpr ?_).2⟩
  intro before line after _ _ draws
  obtain ⟨ins, tender, _, _, _, _, listed, _, _, _, cheque, _⟩ := draws.cheque
  cases Option.some.inj listed
  cases cheque

/-- The second derivation of a payment by cheque draws the leaf after. -/
theorem leaf_counted_twice :
    ¬∀ (cases : Text.CaseMapping) (input : DeriveInput) (derived : Derived),
      derive cases input = .ok derived → derived.Accepted input.ctx →
        LeavesInOrder (leavesOf derived) ∧
          ∃ again, deriveAgain cases input = .ok again ∧ leavesOf again = leavesOf derived := by
  intro claimed
  have passes : (derive ⟨id, id⟩ (paidOnce 5)).toOption.any (fun derived =>
      decide (derived.Accepted (paidOnce 5).ctx) && draws ["000041"] derived) = true := by
    decide +kernel
  have second : (deriveAgain ⟨id, id⟩ (paidOnce 5)).toOption.any (draws ["000042"]) = true := by
    decide +kernel
  obtain ⟨derived, ok, checked⟩ := exists_derived passes
  rw [Bool.and_eq_true, decide_eq_true_eq] at checked
  obtain ⟨again, againOk, same⟩ := (claimed _ _ derived ok checked.1).2
  rw [againOk] at second
  have later : (leavesOf again).map (·.number) = ["000042".toList] := of_decide_eq_true second
  rw [same, of_decide_eq_true checked.2] at later
  exact absurd later (by decide)

end ErpServer.Vouchers
