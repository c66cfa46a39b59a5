import ErpServer.Vouchers.Bills

/-!
# The derivation of a voucher

The typed lines, then the legs the masters generate from them, then the party's; the bills
come last, over the amounts the lines end with.  Everything wrong is reported together.
-/

namespace ErpServer.Vouchers

open Lib
open Receipt (Decimal DrCr)

variable (cases : Text.CaseMapping)

/-- The legs by their place in the voucher. -/
def numberLegs (legs : List InternalLeg) : List InternalLeg :=
  legs.mapIdx fun index leg => { leg with rowNo := index + 1 }

/-- A post-dated cheque line posts on a voucher of its own, with the leg of its money and the
tax deducted on it. -/
def postDatedLine (legs : List InternalLeg) (entry : TypedLeg × ℕ) : Option InternalPostDated :=
  let leg := entry.1
  (leg.instrument.filter (·.isPostDated)).bind fun ins =>
    ins.postsOn.bind fun postsOn =>
      (legs.find? fun other =>
        other.source = .INSTRUMENT ∧ other.fromRows.head? = some leg.lineRowNo).map fun drLeg =>
          { lineRowNo := leg.lineRowNo
            partyLegRowNo := entry.2 + 1
            instrumentLegRowNo := drLeg.rowNo
            extraLegRowNos := (legs.filter fun other => other.source = .TDS && other.postDated &&
              leg.lineRowNo ∈ other.fromRows).map (·.rowNo)
            party := leg.ledger
            amount := leg.amount
            postsOn := postsOn
            accYear := postsOn.accYearOfDate
            instrument := ins }

/-- The bands below the party leg: the lines as they end, the legs and the notes. -/
structure Bands where
  read : PartyRead
  typed : List TypedLeg
  gst : Option InternalGst
  tds : Option InternalTds
  tdsLines : List InternalTds
  legs : List InternalLeg
  notes : List Note

namespace Bands

variable (bands : Bands) (type : VoucherTypeRules)

def balancing : Balancing := balanceParty bands.read bands.typed bands.legs

def ledgerIds : List Uuid := partyLedgerIds type bands.balancing.party bands.typed

/-- The legs of the voucher. -/
def voucherLegs : List InternalLeg :=
  numberLegs (nameOpposite (bands.ledgerIds type) (bands.legs ++ bands.balancing.legs))

def lines : List PartyLine := partyLines type bands.balancing.party bands.typed

end Bands

def bandsFrom (run : LineRun) (input : DeriveInput) (one : TdsOne) (many : TdsRun) : Bands :=
  let read := readParty cases input
  let band := deriveGst cases input read run.typed
  { read := read
    typed := many.typed
    gst := band.gst
    tds := one.record
    tdsLines := one.record.toList ++ many.records
    legs := many.typed.map TypedLeg.toLeg ++ instrumentLegs run.typed ++ band.legs ++
      one.legs ++ many.legs
    notes := backdatedNotes input ++ docRefnoNotes input ++ run.notes.map .refuse ++
      read.notes.map .refuse ++ band.notes.map .refuse ++ one.notes ++ many.notes }

def bandsOf (input : DeriveInput) : TdsOne → TdsRun → Bands :=
  bandsFrom cases (deriveLines cases input) input

def deriveBands (input : DeriveInput) : Except DeriveFault Bands := do
  let typed := (deriveLines cases input).typed
  let one ← deriveTdsOne cases input (readParty cases input) typed
  let many ← deriveTdsMany cases input typed
  .ok (bandsOf cases input one many)

/-- A voucher, and what is reported of it. -/
structure Derived where
  voucher : DerivedInternal
  notes : List Note

/-- The context once everything is reported to it. -/
def Derived.report (derived : Derived) (ctx : GuardContext) : GuardContext :=
  derived.notes.foldl (fun ctx note => note.report ctx) ctx

/-- The derivation refuses nothing. -/
def Derived.Accepted (derived : Derived) (ctx : GuardContext) : Prop :=
  (derived.report ctx).refusals = ctx.refusals

def assemble (input : DeriveInput) (bands : Bands) (billwise : Billwise) : Derived :=
  let legs := bands.voucherLegs input.type
  let totals := totalsOf legs
  { voucher :=
      { legs := legs
        debit := totals.debit
        credit := totals.credit
        difference := totals.difference
        party := bands.balancing.party
        gst := bands.gst
        tds := bands.tds
        tdsLines := bands.tdsLines
        bills := billwise.bills
        allocations := billwise.allocations
        postDated := bands.typed.zipIdx.filterMap (postDatedLine legs) }
    notes := bands.notes ++ bands.balancing.notes ++ balanceNotes input.type bands.typed legs ++
      billwise.notes }

def derive (input : DeriveInput) : Except DeriveFault Derived := do
  let bands ← deriveBands cases input
  let billwise ← deriveBills input
    (settlementModeOf cases bands.typed (bands.ledgerIds input.type)) (bands.lines input.type)
  .ok (assemble input bands billwise)

end ErpServer.Vouchers

namespace ErpServer.Vouchers

open Lib
open Receipt (Decimal DrCr money money_mem money_nonneg paise)

/-! ## A derivation that refuses nothing

The steps a derivation went through, and what each of them cannot have reported when nothing
is refused.  Then every typed line is a leg of its own, in row order. -/

variable {cases : Text.CaseMapping} {input : DeriveInput} {derived : Derived} {ctx : GuardContext}

/-! ## Reports -/

def Note.refusal : Note → Refusal
  | .refuse refusal => refusal
  | .warn refusal => refusal

/-- A report leaves what refuses as it is. -/
theorem Note.refuses_report (reported note : Note) :
    note.refuses (reported.report ctx) = note.refuses ctx := by
  have same : (reported.report ctx).overrides = ctx.overrides ∧
      (reported.report ctx).canOverride = ctx.canOverride ∧
      (reported.report ctx).dryRun = ctx.dryRun := by
    cases reported with
    | refuse refusal => exact ⟨rfl, rfl, rfl⟩
    | warn refusal =>
        simp only [Note.report, VoucherGuardContext.warn]
        split
        · exact ⟨rfl, rfl, rfl⟩
        · exact ⟨rfl, rfl, rfl⟩
  cases note with
  | refuse refusal => rfl
  | warn refusal => simp only [Note.refuses, same.1, same.2.1, same.2.2]

theorem Note.report_refusals (note : Note) :
    (note.report ctx).refusals =
      ctx.refusals ++ if note.refuses ctx then [note.refusal] else [] := by
  cases note with
  | refuse refusal => rfl
  | warn refusal =>
      simp only [Note.report, VoucherGuardContext.warn]
      split
      · next passed =>
          have quiet : (Note.warn refusal).refuses ctx = false := by
            rw [Note.refuses, passed, Bool.not_true]
          rw [quiet]
          exact (List.append_nil _).symm
      · next failed =>
          have refuses : (Note.warn refusal).refuses ctx = true := by
            rw [Note.refuses, Bool.eq_false_iff.mpr failed, Bool.not_false]
          rw [refuses]
          rfl

/-- What a run of reports adds: the refusals among them. -/
theorem reported_refusals (notes : List Note) (ctx : GuardContext) :
    (notes.foldl (fun ctx note => note.report ctx) ctx).refusals =
      ctx.refusals ++ (notes.filter (·.refuses ctx)).map Note.refusal := by
  induction notes generalizing ctx with
  | nil => exact (List.append_nil _).symm
  | cons note rest ih =>
      rw [List.foldl_cons, ih, Note.report_refusals, List.append_assoc]
      simp only [Note.refuses_report, List.filter_cons]
      cases note.refuses ctx with
      | true => rfl
      | false => rfl

theorem accepted_iff : derived.Accepted ctx ↔ ∀ note ∈ derived.notes, note.refuses ctx = false := by
  rw [Derived.Accepted, Derived.report, reported_refusals]
  constructor
  · intro same note member
    have none := List.map_eq_nil_iff.mp (List.self_eq_append_right.mp same.symm)
    have kept := List.filter_eq_nil_iff.mp none note member
    exact Bool.eq_false_iff.mpr kept
  · intro quiet
    have none : derived.notes.filter (·.refuses ctx) = [] := by
      apply List.filter_eq_nil_iff.mpr
      intro note member refuses
      rw [quiet note member] at refuses
      cases refuses
    rw [none, List.map_nil, List.append_nil]

/-- Nothing among these notes refuses. -/
def Quiet (ctx : GuardContext) (notes : List Note) : Prop :=
  ∀ note ∈ notes, note.refuses ctx = false

theorem quiet_append {left right : List Note} :
    Quiet ctx (left ++ right) ↔ Quiet ctx left ∧ Quiet ctx right :=
  List.forall_mem_append

/-- A list of refusals is quiet when it is empty. -/
theorem Quiet.refusals {refusals : List Refusal} (quiet : Quiet ctx (refusals.map .refuse)) :
    refusals = [] := by
  cases refusals with
  | nil => rfl
  | cons refusal rest => cases quiet (.refuse refusal) List.mem_cons_self

/-! ## The steps of a derivation -/

/-- The results of the steps that may fail, and the derivation they lead to. -/
structure Ran (cases : Text.CaseMapping) (input : DeriveInput) (one : TdsOne) (many : TdsRun)
    (billwise : Billwise) (derived : Derived) : Prop where
  one_ok : deriveTdsOne cases input (readParty cases input) (deriveLines cases input).typed =
    .ok one
  many_ok : deriveTdsMany cases input (deriveLines cases input).typed = .ok many
  bills_ok : deriveBills input
    (settlementModeOf cases many.typed ((bandsOf cases input one many).ledgerIds input.type))
    ((bandsOf cases input one many).lines input.type) = .ok billwise
  derived_eq : derived = assemble input (bandsOf cases input one many) billwise

theorem derive_ran (ok : derive cases input = .ok derived) :
    ∃ one many billwise, Ran cases input one many billwise derived := by
  obtain ⟨bands, bandsOk, afterBands⟩ := Fold.bind_eq_ok ok
  obtain ⟨billwise, billsOk, last⟩ := Fold.bind_eq_ok afterBands
  obtain ⟨one, oneOk, afterOne⟩ := Fold.bind_eq_ok bandsOk
  obtain ⟨many, manyOk, made⟩ := Fold.bind_eq_ok afterOne
  cases Except.ok.inj made
  exact ⟨one, many, billwise, oneOk, manyOk, billsOk, (Except.ok.inj last).symm⟩

/-- What was reported at each step. -/
structure QuietSteps (cases : Text.CaseMapping) (input : DeriveInput) (one : TdsOne)
    (many : TdsRun) (billwise : Billwise) : Prop where
  lines : (deriveLines cases input).notes = []
  read : (readParty cases input).notes = []
  band : (deriveGst cases input (readParty cases input)
    (deriveLines cases input).typed).notes = []
  deductedOne : Quiet input.ctx one.notes
  deductedMany : Quiet input.ctx many.notes
  balancing : Quiet input.ctx (bandsOf cases input one many).balancing.notes
  balance : Quiet input.ctx (balanceNotes input.type many.typed
    ((bandsOf cases input one many).voucherLegs input.type))
  bills : Quiet input.ctx billwise.notes

theorem Ran.quiet {one : TdsOne} {many : TdsRun} {billwise : Billwise}
    (ran : Ran cases input one many billwise derived) (accepted : derived.Accepted input.ctx) :
    QuietSteps cases input one many billwise := by
  have quiet : Quiet input.ctx derived.notes := accepted_iff.mp accepted
  rw [ran.derived_eq] at quiet
  obtain ⟨⟨⟨bands, balancing⟩, balance⟩, bills⟩ :=
    (quiet_append.trans (and_congr_left' (quiet_append.trans (and_congr_left' quiet_append)))).mp
      quiet
  obtain ⟨afterOne, many⟩ := quiet_append.mp bands
  obtain ⟨afterBand, one⟩ := quiet_append.mp afterOne
  obtain ⟨afterRead, band⟩ := quiet_append.mp afterBand
  obtain ⟨afterLines, read⟩ := quiet_append.mp afterRead
  exact ⟨(quiet_append.mp afterLines).2.refusals, read.refusals, band.refusals, one, many,
    balancing, balance, bills⟩

/-! ## A derivation on one input -/

instance (derived : Derived) (ctx : GuardContext) : Decidable (derived.Accepted ctx) :=
  inferInstanceAs (Decidable (_ = _))

/-- A derivation that passes a check has a voucher that passes it. -/
theorem exists_derived {check : Derived → Bool}
    (passes : (derive cases input).toOption.any check = true) :
    ∃ derived, derive cases input = .ok derived ∧ check derived = true := by
  cases ran : derive cases input with
  | error fault =>
      rw [ran] at passes
      cases passes
  | ok derived =>
      rw [ran] at passes
      exact ⟨derived, rfl, passes⟩

private theorem no_bills {billId : Uuid} {year : String} {bill : BillFacts}
    (found : (none : Option BillFacts) = some bill) :
    bill.ablId = billId ∧ bill.ablAccYear = year := by
  cases found

/-- A voucher of a type with nothing on it, and no master behind it. -/
def blank (type : VoucherTypeRules) : DeriveInput where
  type := type
  header := ⟨⟨2026, 9, 15⟩, none, none, false, none⟩
  lines := []
  allocations := []
  newBillDueDays := none
  company := ⟨1, ['3', '3']⟩
  ledgers _ := none
  instrumentLedgers _ := false
  generatedRoleLedgers _ := false
  taxRates _ := none
  roleLedgers _ _ _ := none
  party := none
  creditDaysByLedger _ := none
  tds := none
  tdsByParty _ := none
  bills _ _ := none
  bills_keyed := no_bills
  docRefnoClash := none
  backdateMode := .OFF
  allowAdvance := none
  today := ⟨2026, 9, 15⟩
  ctx := ⟨false, [], false, [], []⟩
  tenders _ := none
  registeredCheques _ _ _ := false
  closedYears _ := none
  chequeBooks _ := none

/-- A live ledger of no group. -/
def plainLedger (ledId : Uuid) (name : String) : LedgerFacts where
  ledId := ledId
  name := name
  isActive := true
  isDeleted := false
  groupName := ""
  groupPath := []
  groupNames := []
  isParty := false
  isBillByBill := false
  itcEligibility := none
  isTdsApplicable := false
  tdsSection := none
  tdsDeducteeType := none
  pan := none
  gstin := none
  stateCode := none

end ErpServer.Vouchers
