import ErpServer.Vouchers.VoucherLegs

/-!
# Post-dated cheques

A post-dated cheque posts on a voucher of its own: the leg of its line, the leg of its money
and the tax withheld on it.  Each such group balances, and the legs outside them are today's.
-/

namespace ErpServer.Vouchers

open Lib
open Receipt (Decimal DrCr Figure money money_mem money_of_mem paise)

variable {cases : Text.CaseMapping} {input : DeriveInput}

/-! ## Dates -/

/-- A post-dated instrument has its date. -/
def InternalInstrument.Dated (ins : InternalInstrument) : Prop :=
  ins.isPostDated = true → ins.postsOn.isSome = true

variable {ins : InstrumentInput} {read : InstrumentRead} {ledger : LedgerFacts}
variable {promised : Promised} {line : TypedLineInput} {leg : InternalLeg} {typed : List TypedLeg}

variable {tender : TenderFacts}

theorem readIssuedInstrument_dated
    (ok : readIssuedInstrument cases input promised line ins ledger tender = .ok read) :
    read.instrument.Dated := by
  simp only [readIssuedInstrument] at ok
  split at ok
  · cases ok
  · obtain ⟨from_, _, rest⟩ := Fold.bind_eq_ok ok
    split at rest
    · next cheque =>
        obtain ⟨leaf, _, made⟩ := Fold.bind_eq_ok rest
        cases made
        intro late
        simp only at late ⊢
        rw [if_pos late]
        rfl
    · next other =>
        cases rest
        intro late
        simp [other] at late

theorem readReceivedInstrument_dated
    (ok : readReceivedInstrument input promised line ins ledger tender = .ok read) :
    read.instrument.Dated := by
  simp only [readReceivedInstrument] at ok
  split at ok
  · cases ok
  · cases ok
    intro late
    simp only at late ⊢
    rw [if_pos late]
    rw [Bool.and_eq_true, Option.any_eq_true] at late
    obtain ⟨_, date, isDate, _⟩ := late
    rw [isDate]
    rfl

theorem readInstrument_dated (ok : readInstrument cases input promised line ins ledger = .ok read) :
    read.instrument.Dated := by
  rw [readInstrument] at ok
  split at ok
  · cases ok
  · split at ok
    · cases ok
    · split at ok
      · cases ok
      · split at ok
        · cases ok
        · split at ok
          · cases ok
          · split at ok
            · exact readIssuedInstrument_dated ok
            · exact readReceivedInstrument_dated ok

/-- Every typed line's instrument has its date. -/
def DatedLines (typed : List TypedLeg) : Prop :=
  ∀ leg ∈ typed, ∀ ins, leg.instrument = some ins → ins.Dated

theorem deriveLine_dated {run : LineRun} (held : DatedLines run.typed) :
    DatedLines (deriveLine cases input run line).typed := by
  have append {ledger : LedgerFacts} {instrument : Option InternalInstrument}
      (dated : ∀ ins, instrument = some ins → ins.Dated) :
      DatedLines (run.typed ++ [typedLeg line ledger instrument]) := by
    apply List.forall_mem_append.mpr ⟨held, _⟩
    intro leg member ins isInstrument
    rw [List.mem_singleton.mp member] at isInstrument
    exact dated ins isInstrument
  have bare {ledger : LedgerFacts} : DatedLines (run.typed ++ [typedLeg line ledger none]) := by
    apply append
    intro ins isInstrument
    cases isInstrument
  rw [deriveLine]
  split
  · exact held
  · simp only
    split
    · exact held
    · split
      · exact bare
      · split
        · exact bare
        · next ok =>
            apply append
            intro ins isInstrument
            cases isInstrument
            exact readInstrument_dated ok

theorem deriveLines_dated : DatedLines (deriveLines cases input).typed := by
  rw [deriveLines]
  apply @List.foldlRecOn _ _ (fun run : LineRun => DatedLines run.typed)
  · intro leg member
    cases member
  · exact fun run held line _ => deriveLine_dated held

/-- The tax of a header's party is today's. -/
theorem DeductsOne.today {ctx : GuardContext} {read : PartyRead} {one : TdsOne}
    (deducts : DeductsOne cases input typed read one) (quiet : Quiet ctx one.notes)
    (member : leg ∈ one.legs) : leg.postDated = false ∧ 0 < leg.amount := by
  cases deducts with
  | nothing exempt => cases member
  | deducted deducts known rated ok =>
      obtain ⟨_, records⟩ := deductOne_records ok quiet
      cases records with
      | below within => cases member
      | above crosses =>
          simp only at member
          split at member
          · next positive =>
              rw [List.mem_singleton.mp member]
              exact ⟨rfl, positive⟩
          · cases member

/-- So is the tax of the GST band. -/
theorem deriveGst_today {read : PartyRead} (member : leg ∈ (deriveGst cases input read typed).legs) :
    leg.postDated = false := by
  rw [deriveGst] at member
  split at member
  · simp only at member
    split at member
    · cases member
    · obtain ⟨entry, _, rfl⟩ := List.mem_map.mp member
      rfl
  · cases member

/-- And the party's leg. -/
theorem balanceParty_today {read : PartyRead} {legs : List InternalLeg}
    (member : leg ∈ (balanceParty read typed legs).legs) : leg.postDated = false := by
  rw [balanceParty] at member
  split at member
  · simp only at member
    split at member
    · cases member
    · rw [List.mem_singleton.mp member]
      rfl
  · cases member

/-! ## The legs of a row -/

/-- A leg of a row: its line, the money of its instrument, the tax that travels with it. -/
def ofRow (row : ℕ) (leg : InternalLeg) : Bool :=
  (leg.source = .TYPED && leg.lineRowNo = some row) ||
    (leg.source = .INSTRUMENT && leg.fromRows.head? = some row) ||
    (leg.source = .TDS && travelsWith row leg)

/-- The row of a leg that was typed, or goes with one. -/
def rowOf (leg : InternalLeg) : Option ℕ :=
  match leg.source with
  | .TYPED => leg.lineRowNo
  | .INSTRUMENT => leg.fromRows.head?
  | .TDS => leg.fromRows.head?
  | _ => none

section Rows

variable {one : TdsOne} {many : TdsRun} {done : List (Uuid × List TypedLeg)}
variable {price : TypedLeg → Decimal}

/-- What the rows of the legs rest on. -/
structure Rowed (cases : Text.CaseMapping) (input : DeriveInput) (one : TdsOne) (many : TdsRun)
    (done : List (Uuid × List TypedLeg)) (price : TypedLeg → Decimal) : Prop where
  rows : ((deriveLines cases input).typed.map (·.lineRowNo)).Nodup
  held : Deducting input (deriveLines cases input).typed done price many
  oneCredits : CreditsOfTax one.legs
  oneToday : ∀ leg ∈ one.legs, leg.postDated = false ∧ 0 < leg.amount

/-- A line once the deductions are done. -/
def atPrice (price : TypedLeg → Decimal) (line : TypedLeg) : TypedLeg :=
  { line with amount := price line }

variable {line : TypedLeg} {leg : InternalLeg}

theorem typedLegs_ofRow (rowed : Rowed cases input one many done price)
    (member : line ∈ (deriveLines cases input).typed) :
    (many.typed.map TypedLeg.toLeg).filter (ofRow line.lineRowNo) =
      [(atPrice price line).toLeg] := by
  have only := ListSum.filter_key_eq rowed.rows member
  have keeps : (ofRow line.lineRowNo ∘ TypedLeg.toLeg) ∘ atPrice price =
      fun leg : TypedLeg => decide (leg.lineRowNo = line.lineRowNo) := by
    funext leg
    simp [ofRow, TypedLeg.toLeg, atPrice]
  rw [rowed.held.repriced, List.filter_map, List.filter_map]
  change List.map _ (List.map (atPrice price) (List.filter
    ((ofRow line.lineRowNo ∘ TypedLeg.toLeg) ∘ atPrice price) _)) = _
  rw [keeps, only]
  rfl

theorem instrumentLegs_ofRow (row : ℕ) : (instrumentLegs typed).filter (ofRow row) =
      instrumentLegs (typed.filter fun leg => leg.lineRowNo = row) := by
  induction typed with
  | nil => rfl
  | cons leg rest ih =>
      rw [instrumentLegs] at ih
      rw [instrumentLegs, List.filterMap_cons, List.filter_cons]
      cases ins : leg.instrument with
      | none =>
          simp only [Option.map_none]
          split
          · rw [instrumentLegs, List.filterMap_cons, ins]
            exact ih
          · exact ih
      | some instrument =>
          have side : ofRow row (instrumentLeg leg instrument) =
              decide (leg.lineRowNo = row) := by
            simp [ofRow, instrumentLeg]
          simp only [Option.map_some, List.filter_cons, side]
          split
          · rw [instrumentLegs, List.filterMap_cons, ins, ih]
            rfl
          · exact ih

/-- The legs of a post-dated line: its own, its money's, and the tax that travels with it. -/
theorem allLegs_ofRow (rowed : Rowed cases input one many done price)
    (member : line ∈ (deriveLines cases input).typed) {ins : InternalInstrument}
    (isInstrument : line.instrument = some ins) :
    (bandsOf cases input one many).allLegs.filter (ofRow line.lineRowNo) =
      (atPrice price line).toLeg :: instrumentLeg line ins ::
        many.legs.filter (travelsWith line.lineRowNo) := by
  have apart {leg : InternalLeg} (kept : ofRow line.lineRowNo leg = true) :
      leg.source = .TYPED ∨ leg.source = .INSTRUMENT ∨ leg.source = .TDS := by
    simp only [ofRow, Bool.or_eq_true, Bool.and_eq_true, decide_eq_true_eq] at kept
    rcases kept with (typed | money) | tax
    · exact Or.inl typed.1
    · exact Or.inr (Or.inl money.1)
    · exact Or.inr (Or.inr tax.1)
  have noTax : ∀ leg, ofRow line.lineRowNo leg = true → leg.source ≠ .GST ∧ leg.source ≠ .RCM := by
    intro leg kept
    rcases apart kept with source | source | source
    · rw [source]
      exact ⟨LegSource.noConfusion, LegSource.noConfusion⟩
    · rw [source]
      exact ⟨LegSource.noConfusion, LegSource.noConfusion⟩
    · rw [source]
      exact ⟨LegSource.noConfusion, LegSource.noConfusion⟩
  have noParty : ∀ leg, ofRow line.lineRowNo leg = true → leg.source ≠ .PARTY := by
    intro leg kept
    rcases apart kept with source | source | source
    · rw [source]
      exact LegSource.noConfusion
    · rw [source]
      exact LegSource.noConfusion
    · rw [source]
      exact LegSource.noConfusion
  have withTax {legs : List InternalLeg} (credits : CreditsOfTax legs) :
      legs.filter (ofRow line.lineRowNo) = legs.filter (travelsWith line.lineRowNo) := by
    apply List.filter_congr
    intro leg legMember
    simp [ofRow, (credits leg legMember).1]
  have noOne : one.legs.filter (travelsWith line.lineRowNo) = [] := by
    apply List.filter_eq_nil_iff.mpr
    intro leg legMember travels
    rw [travelsWith, (rowed.oneToday leg legMember).1] at travels
    cases travels
  rw [filter_allLegs, typedLegs_ofRow rowed member, instrumentLegs_ofRow,
    ListSum.filter_key_eq rowed.rows member, filter_gstLegs noTax, withTax rowed.oneCredits, noOne,
    withTax rowed.held.legs, filter_other_source noParty
      fun leg => @balancing_source (bandsOf cases input one many) leg,
    List.append_nil, List.nil_append, List.nil_append, instrumentLegs, List.filterMap_cons,
    isInstrument]
  rfl

/-- A tax leg that travels goes with one line, on the debit side. -/
theorem travelling (rowed : Rowed cases input one many done price) {row : ℕ}
    (member : leg ∈ many.legs) (travels : travelsWith row leg = true) :
    leg.source = .TDS ∧ leg.postDated = true ∧ leg.fromRows = [row] ∧
      ∃ line ∈ (deriveLines cases input).typed, line.drCr = .DR ∧ line.lineRowNo = row := by
  rw [travelsWith, Bool.and_eq_true, decide_eq_true_eq] at travels
  obtain ⟨line, lineMember, _, debit, fromRows⟩ := rowed.held.dated leg member travels.1
  have same := travels.2
  rw [fromRows, List.mem_singleton] at same
  refine ⟨(rowed.held.legs leg member).1, travels.1, ?_, line, lineMember, debit, same.symm⟩
  rw [fromRows, same]

/-- The legs of a post-dated line balance. -/
theorem ofRow_balanced (rowed : Rowed cases input one many done price)
    (member : line ∈ (deriveLines cases input).typed) (dated : line.postDated = true) :
    sideSum .DR ((bandsOf cases input one many).allLegs.filter (ofRow line.lineRowNo)) =
      sideSum .CR ((bandsOf cases input one many).allLegs.filter (ofRow line.lineRowNo)) := by
  obtain ⟨ins, isInstrument, _⟩ := (Option.any_eq_true _ _).mp dated
  have grossed := rowed.held.travels line member dated
  have credits : ∀ leg ∈ many.legs.filter (travelsWith line.lineRowNo), leg.drCr = .CR :=
    fun leg legMember => (rowed.held.legs leg (List.mem_of_mem_filter legMember)).2.1
  have debitSide : sideSum .DR (many.legs.filter (travelsWith line.lineRowNo)) = 0 := by
    have none : (many.legs.filter (travelsWith line.lineRowNo)).filter (fun leg => leg.drCr = .DR) =
        [] := by
      apply List.filter_eq_nil_iff.mpr
      intro leg legMember debit
      rw [credits leg legMember] at debit
      cases of_decide_eq_true debit
    rw [sideSum, none]
    rfl
  have creditSide : sideSum .CR (many.legs.filter (travelsWith line.lineRowNo)) =
      price line - line.amount := by
    have all : (many.legs.filter (travelsWith line.lineRowNo)).filter (fun leg => leg.drCr = .CR) =
        many.legs.filter (travelsWith line.lineRowNo) := by
      apply List.filter_eq_self.mpr
      intro leg legMember
      exact decide_eq_true (credits leg legMember)
    rw [sideSum, all, grossed]
  rw [allLegs_ofRow rowed member isInstrument]
  simp only [sideSum_cons, debitSide, creditSide]
  cases drCr : line.drCr with
  | DR =>
      simp only [TypedLeg.toLeg, atPrice, instrumentLeg, drCr, opposite, if_true, reduceCtorEq,
        if_false]
      ring
  | CR =>
      -- nothing travels with a line on the credit side, so it is as typed
      have none : many.legs.filter (travelsWith line.lineRowNo) = [] := by
        apply List.filter_eq_nil_iff.mpr
        intro leg legMember travels
        obtain ⟨_, _, _, other, otherMember, debit, same⟩ := travelling rowed legMember travels
        rw [List.inj_on_of_nodup_map rowed.rows otherMember member same, drCr] at debit
        cases debit
      rw [none, List.map_nil, List.sum_nil] at grossed
      simp only [TypedLeg.toLeg, atPrice, instrumentLeg, drCr, opposite, if_true, reduceCtorEq,
        if_false]
      linarith

/-- A leg of a post-dated line is post-dated, and of no other row. -/
theorem ofRow_dated (rowed : Rowed cases input one many done price)
    (member : line ∈ (deriveLines cases input).typed) (dated : line.postDated = true)
    (legMember : leg ∈ (bandsOf cases input one many).allLegs)
    (isOfRow : ofRow line.lineRowNo leg = true) :
    leg.postDated = true ∧ rowOf leg = some line.lineRowNo := by
  obtain ⟨ins, isInstrument, late⟩ := (Option.any_eq_true _ _).mp dated
  have listed := List.mem_filter.mpr ⟨legMember, isOfRow⟩
  rw [allLegs_ofRow rowed member isInstrument, List.mem_cons, List.mem_cons] at listed
  rcases listed with rfl | rfl | travels
  · exact ⟨dated, rfl⟩
  · exact ⟨late, rfl⟩
  · obtain ⟨source, isDated, fromRows, _⟩ :=
      travelling rowed (List.mem_of_mem_filter travels) (List.mem_filter.mp travels).2
    refine ⟨isDated, ?_⟩
    rw [rowOf, source, fromRows]
    rfl

/-- A leg that is post-dated is of a post-dated line. -/
theorem dated_ofRow (rowed : Rowed cases input one many done price)
    (member : leg ∈ (bandsOf cases input one many).allLegs) (late : leg.postDated = true) :
    ∃ line ∈ (deriveLines cases input).typed, line.postDated = true ∧
      ofRow line.lineRowNo leg = true := by
  rw [Bands.allLegs, bandsOf_legs, generatedLegs] at member
  simp only [List.mem_append] at member
  rcases member with (typed | money | tax | ofOne | ofMany) | party
  · rw [rowed.held.repriced, List.map_map] at typed
    obtain ⟨line, listed, rfl⟩ := List.mem_map.mp typed
    refine ⟨line, listed, late, ?_⟩
    simp [ofRow, TypedLeg.toLeg]
  · obtain ⟨line, listed, made⟩ := List.mem_filterMap.mp money
    obtain ⟨ins, isInstrument, rfl⟩ := Option.map_eq_some_iff.mp made
    refine ⟨line, listed, ?_, ?_⟩
    · rw [TypedLeg.postDated, isInstrument]
      exact late
    · simp [ofRow, instrumentLeg]
  · rw [deriveGst_today tax] at late
    cases late
  · rw [(rowed.oneToday leg ofOne).1] at late
    cases late
  · obtain ⟨line, listed, isDated, _, fromRows⟩ := rowed.held.dated leg ofMany late
    refine ⟨line, listed, isDated, ?_⟩
    simp [ofRow, travelsWith, (rowed.held.legs leg ofMany).1, late, fromRows]
  · rw [balanceParty_today party] at late
    cases late

end Rows

/-! ## The entries -/

section Entries

variable {bands : Bands} {type : VoucherTypeRules}

/-- A leg by its number. -/
theorem voucherLegs_inj {left right : InternalLeg} (leftMember : left ∈ bands.voucherLegs type)
    (rightMember : right ∈ bands.voucherLegs type) (same : left.rowNo = right.rowNo) :
    left = right := by
  obtain ⟨leftIndex, leftWithin, rfl⟩ := List.getElem_of_mem leftMember
  obtain ⟨rightIndex, rightWithin, rfl⟩ := List.getElem_of_mem rightMember
  have equal : leftIndex = rightIndex := by
    simpa [Bands.voucherLegs, numberLegs] using same
  subst equal
  rfl

/-- A kind with one leg in the bands has one in the voucher. -/
theorem voucherLegs_only {keep : InternalLeg → Bool} (keeps : ∀ leg, keep leg.bare = keep leg)
    {only : InternalLeg} (single : bands.allLegs.filter keep = [only]) :
    ∃ leg, (bands.voucherLegs type).filter keep = [leg] ∧ leg.bare = only.bare := by
  have bare (legs : List InternalLeg) :
      (legs.map InternalLeg.bare).filter keep = (legs.filter keep).map InternalLeg.bare := by
    rw [List.filter_map]
    congr 1
    apply List.filter_congr
    intro leg _
    exact keeps leg
  have same := congrArg (List.filter keep) (@voucherLegs_bare bands type)
  rw [bare, bare, single, List.map_singleton, List.map_eq_singleton_iff] at same
  exact same

/-- The leg at a place of the bands, at its number in the voucher. -/
theorem voucherLegs_at {index : ℕ} {leg : InternalLeg} (here : bands.allLegs[index]? = some leg) :
    ∃ numbered ∈ bands.voucherLegs type, numbered.rowNo = index + 1 ∧ numbered.bare = leg.bare := by
  have same := congrArg (fun legs => legs[index]?) (@voucherLegs_bare bands type)
  simp only [List.getElem?_map, here, Option.map_some, Option.map_eq_some_iff] at same
  obtain ⟨numbered, found, bare⟩ := same
  refine ⟨numbered, List.mem_of_getElem? found, ?_, bare⟩
  simp only [Bands.voucherLegs, numberLegs, List.getElem?_mapIdx, Option.map_eq_some_iff] at found
  obtain ⟨_, _, rfl⟩ := found
  rfl

end Entries

/-- A leg a post-dated entry carries. -/
def InternalPostDated.carries (entry : InternalPostDated) (leg : InternalLeg) : Bool :=
  leg.rowNo = entry.partyLegRowNo || leg.rowNo = entry.instrumentLegRowNo ||
    leg.rowNo ∈ entry.extraLegRowNos

section Carried

variable {one : TdsOne} {many : TdsRun} {done : List (Uuid × List TypedLeg)}
variable {price : TypedLeg → Decimal}

def isTypedOf (row : ℕ) (leg : InternalLeg) : Bool :=
  leg.source = .TYPED && leg.lineRowNo = some row

def isMoneyOf (row : ℕ) (leg : InternalLeg) : Bool :=
  leg.source = .INSTRUMENT && leg.fromRows.head? = some row

def isTaxOf (row : ℕ) (leg : InternalLeg) : Bool := leg.source = .TDS && travelsWith row leg

theorem ofRow_eq (row : ℕ) (leg : InternalLeg) :
    ofRow row leg = (isTypedOf row leg || isMoneyOf row leg || isTaxOf row leg) := rfl

theorem filter_ofRow {row : ℕ} {keep : InternalLeg → Bool}
    (within : ∀ leg, keep leg = true → ofRow row leg = true) (legs : List InternalLeg) :
    legs.filter keep = (legs.filter (ofRow row)).filter keep := by
  rw [List.filter_filter]
  apply List.filter_congr
  intro leg _
  cases kept : keep leg with
  | false => rfl
  | true => rw [within leg kept, Bool.and_self]

variable {line : TypedLeg}

/-- A post-dated line has one leg of its own and one of its money. -/
theorem onlyLegs (rowed : Rowed cases input one many done price)
    (member : line ∈ (deriveLines cases input).typed) {ins : InternalInstrument}
    (isInstrument : line.instrument = some ins) :
    (bandsOf cases input one many).allLegs.filter (isTypedOf line.lineRowNo) =
        [(atPrice price line).toLeg] ∧
      (bandsOf cases input one many).allLegs.filter (isMoneyOf line.lineRowNo) =
        [instrumentLeg line ins] := by
  have noTyped : (many.legs.filter (travelsWith line.lineRowNo)).filter
      (isTypedOf line.lineRowNo) = [] := by
    apply List.filter_eq_nil_iff.mpr
    intro leg legMember kept
    rw [isTypedOf, (rowed.held.legs leg (List.mem_of_mem_filter legMember)).1] at kept
    cases kept
  have noMoney : (many.legs.filter (travelsWith line.lineRowNo)).filter
      (isMoneyOf line.lineRowNo) = [] := by
    apply List.filter_eq_nil_iff.mpr
    intro leg legMember kept
    rw [isMoneyOf, (rowed.held.legs leg (List.mem_of_mem_filter legMember)).1] at kept
    cases kept
  have typed : ∀ leg, isTypedOf line.lineRowNo leg = true → ofRow line.lineRowNo leg = true := by
    intro leg kept
    rw [ofRow_eq, kept]
    rfl
  have money : ∀ leg, isMoneyOf line.lineRowNo leg = true → ofRow line.lineRowNo leg = true := by
    intro leg kept
    rw [ofRow_eq, kept, Bool.or_true]
    rfl
  rw [filter_ofRow typed, filter_ofRow money, allLegs_ofRow rowed member isInstrument]
  constructor
  · rw [List.filter_cons, List.filter_cons, noTyped]
    simp [isTypedOf, TypedLeg.toLeg, instrumentLeg, atPrice]
  · rw [List.filter_cons, List.filter_cons, noMoney]
    simp [isMoneyOf, TypedLeg.toLeg, instrumentLeg]

/-- An entry carries the legs of its row. -/
theorem postDatedLine_carries (rowed : Rowed cases input one many done price)
    (member : line ∈ (deriveLines cases input).typed) {index : ℕ}
    (here : many.typed[index]? = some (atPrice price line)) {entry : InternalPostDated}
    (made : postDatedLine ((bandsOf cases input one many).voucherLegs input.type)
      (atPrice price line, index) = some entry) :
    line.postDated = true ∧ entry.lineRowNo = line.lineRowNo ∧
      ∀ leg ∈ (bandsOf cases input one many).voucherLegs input.type,
        entry.carries leg = ofRow line.lineRowNo leg := by
  obtain ⟨ins, isDated, rest⟩ := Option.bind_eq_some_iff.mp made
  obtain ⟨postsOn, _, last⟩ := Option.bind_eq_some_iff.mp rest
  obtain ⟨money, found, rfl⟩ := Option.map_eq_some_iff.mp last
  obtain ⟨isInstrument, late⟩ := Option.filter_eq_some_iff.mp isDated
  have lineInstrument : line.instrument = some ins := isInstrument
  obtain ⟨onlyTyped, onlyMoney⟩ := onlyLegs rowed member lineInstrument
  obtain ⟨typedLeg, typedOnly, _⟩ := @voucherLegs_only _ input.type
    (isTypedOf line.lineRowNo) (fun _ => rfl) _ onlyTyped
  obtain ⟨moneyLeg, moneyOnly, _⟩ := @voucherLegs_only _ input.type
    (isMoneyOf line.lineRowNo) (fun _ => rfl) _ onlyMoney
  have place : (bandsOf cases input one many).allLegs[index]? =
      some (atPrice price line).toLeg := by
    have within : index < (many.typed.map TypedLeg.toLeg).length := by
      rw [List.length_map]
      exact (List.getElem?_eq_some_iff.mp here).1
    rw [Bands.allLegs, bandsOf_legs, List.append_assoc, List.getElem?_append_left within,
      List.getElem?_map, here]
    rfl
  obtain ⟨numbered, numberedMember, number, bare⟩ := @voucherLegs_at _ input.type _ _ place
  have typedIff {leg : InternalLeg}
      (legMember : leg ∈ (bandsOf cases input one many).voucherLegs input.type) :
      leg.rowNo = index + 1 ↔ isTypedOf line.lineRowNo leg = true := by
    have ofNumbered : isTypedOf line.lineRowNo numbered = true := by
      have same := congrArg (isTypedOf line.lineRowNo) bare
      have ofLine : isTypedOf line.lineRowNo (atPrice price line).toLeg = true := by
        simp [isTypedOf, TypedLeg.toLeg, atPrice]
      exact same.trans ofLine
    constructor
    · intro same
      rw [voucherLegs_inj legMember numberedMember (same.trans number.symm)]
      exact ofNumbered
    · intro ofLeg
      have first := List.mem_filter.mpr ⟨legMember, ofLeg⟩
      have second := List.mem_filter.mpr ⟨numberedMember, ofNumbered⟩
      rw [typedOnly, List.mem_singleton] at first second
      rw [first, ← second, number]
  have moneyIff {leg : InternalLeg}
      (legMember : leg ∈ (bandsOf cases input one many).voucherLegs input.type) :
      leg.rowNo = money.rowNo ↔ isMoneyOf line.lineRowNo leg = true := by
    have ofMoney : isMoneyOf line.lineRowNo money = true := by
      have kept := List.find?_some found
      rw [decide_eq_true_eq] at kept
      rw [isMoneyOf, Bool.and_eq_true, decide_eq_true_eq, decide_eq_true_eq]
      exact kept
    have moneyMember := List.mem_of_find?_eq_some found
    constructor
    · intro same
      rw [voucherLegs_inj legMember moneyMember same]
      exact ofMoney
    · intro ofLeg
      have first := List.mem_filter.mpr ⟨legMember, ofLeg⟩
      have second := List.mem_filter.mpr ⟨moneyMember, ofMoney⟩
      rw [moneyOnly, List.mem_singleton] at first second
      rw [first, ← second]
  have taxIff {leg : InternalLeg}
      (legMember : leg ∈ (bandsOf cases input one many).voucherLegs input.type) :
      leg.rowNo ∈ (((bandsOf cases input one many).voucherLegs input.type).filter fun other =>
        other.source = .TDS && other.postDated && line.lineRowNo ∈ other.fromRows).map (·.rowNo) ↔
          isTaxOf line.lineRowNo leg = true := by
    have shape (other : InternalLeg) : (other.source = .TDS && other.postDated &&
        line.lineRowNo ∈ other.fromRows : Bool) = isTaxOf line.lineRowNo other :=
      Bool.and_assoc _ _ _
    simp only [shape, List.mem_map]
    constructor
    · rintro ⟨other, listed, same⟩
      rw [List.mem_filter] at listed
      rw [← voucherLegs_inj listed.1 legMember same]
      exact listed.2
    · intro ofLeg
      exact ⟨leg, List.mem_filter.mpr ⟨legMember, ofLeg⟩, rfl⟩
  refine ⟨?_, rfl, ?_⟩
  · rw [TypedLeg.postDated, lineInstrument]
    exact late
  · intro leg legMember
    apply Bool.eq_iff_iff.mpr
    rw [InternalPostDated.carries, ofRow_eq, Bool.or_eq_true, Bool.or_eq_true, Bool.or_eq_true,
      Bool.or_eq_true, decide_eq_true_eq, decide_eq_true_eq, decide_eq_true_eq]
    exact or_congr (or_congr (typedIff legMember) (moneyIff legMember)) (taxIff legMember)

/-- Every post-dated line has its entry. -/
theorem postDatedLine_some (rowed : Rowed cases input one many done price)
    (member : line ∈ (deriveLines cases input).typed) (dated : line.postDated = true) (index : ℕ) :
    ∃ entry, postDatedLine ((bandsOf cases input one many).voucherLegs input.type)
      (atPrice price line, index) = some entry := by
  obtain ⟨ins, isInstrument, late⟩ := (Option.any_eq_true _ _).mp dated
  obtain ⟨postsOn, isDate⟩ :=
    Option.isSome_iff_exists.mp (deriveLines_dated line member ins isInstrument late)
  obtain ⟨money, only, _⟩ := @voucherLegs_only _ input.type (isMoneyOf line.lineRowNo)
    (fun _ => rfl) _ (onlyLegs rowed member isInstrument).2
  have listed := List.mem_filter.mp (only ▸ List.mem_singleton_self money)
  have found : (((bandsOf cases input one many).voucherLegs input.type).find? fun other =>
      other.source = .INSTRUMENT ∧ other.fromRows.head? = some line.lineRowNo).isSome := by
    rw [List.find?_isSome]
    refine ⟨money, listed.1, ?_⟩
    have kept := listed.2
    rw [isMoneyOf, Bool.and_eq_true, decide_eq_true_eq, decide_eq_true_eq] at kept
    exact decide_eq_true kept
  obtain ⟨first, isFirst⟩ := Option.isSome_iff_exists.mp found
  have read : (atPrice price line).instrument.filter (·.isPostDated) = some ins := by
    rw [Option.filter_eq_some_iff]
    exact ⟨isInstrument, late⟩
  simp only [postDatedLine, read, Option.bind_some, isDate]
  refine ⟨_, Option.map_eq_some_iff.mpr ⟨first, ?_, rfl⟩⟩
  exact isFirst

/-- The entry of a line, wherever it stands. -/
structure EntryOf (legs : List InternalLeg) (line : TypedLeg) (entry : InternalPostDated) :
    Prop where
  dated : line.postDated = true
  row : entry.lineRowNo = line.lineRowNo
  carries : ∀ leg ∈ legs, entry.carries leg = ofRow line.lineRowNo leg

theorem zipIdx_line (rowed : Rowed cases input one many done price) {place : TypedLeg × ℕ}
    (member : place ∈ many.typed.zipIdx) :
    ∃ line ∈ (deriveLines cases input).typed, place.1 = atPrice price line ∧
      many.typed[place.2]? = some (atPrice price line) := by
  have here := List.mem_zipIdx_iff_getElem?.mp member
  have listed := List.mem_of_getElem? here
  rw [rowed.held.repriced] at listed
  obtain ⟨line, lineMember, same⟩ := List.mem_map.mp listed
  refine ⟨line, lineMember, same.symm, ?_⟩
  rw [here, ← same]
  rfl

/-- The post-dated entries of a voucher are those of its post-dated lines. -/
theorem entries_of_lines (rowed : Rowed cases input one many done price) :
    (∀ entry ∈ many.typed.zipIdx.filterMap
        (postDatedLine ((bandsOf cases input one many).voucherLegs input.type)),
      ∃ line ∈ (deriveLines cases input).typed,
        EntryOf ((bandsOf cases input one many).voucherLegs input.type) line entry) ∧
    ∀ line ∈ (deriveLines cases input).typed, line.postDated = true →
      ∃ entry ∈ many.typed.zipIdx.filterMap
          (postDatedLine ((bandsOf cases input one many).voucherLegs input.type)),
        EntryOf ((bandsOf cases input one many).voucherLegs input.type) line entry := by
  constructor
  · intro entry member
    obtain ⟨place, listed, made⟩ := List.mem_filterMap.mp member
    obtain ⟨line, lineMember, same, here⟩ := zipIdx_line rowed listed
    have atLine : place = (atPrice price line, place.2) := Prod.ext same rfl
    rw [atLine] at made
    obtain ⟨dated, row, carries⟩ := postDatedLine_carries rowed lineMember here made
    exact ⟨line, lineMember, dated, row, carries⟩
  · intro line member dated
    have listed : atPrice price line ∈ many.typed := by
      rw [rowed.held.repriced]
      exact List.mem_map_of_mem member
    obtain ⟨index, within, here⟩ := List.getElem_of_mem listed
    have place : many.typed[index]? = some (atPrice price line) :=
      List.getElem?_eq_some_iff.mpr ⟨within, here⟩
    obtain ⟨entry, made⟩ := postDatedLine_some rowed member dated index
    obtain ⟨_, row, carries⟩ := postDatedLine_carries rowed member place made
    refine ⟨entry, List.mem_filterMap.mpr ⟨_, ?_, made⟩, dated, row, carries⟩
    exact List.mem_zipIdx_iff_getElem?.mpr place

/-- No two entries are of one line. -/
theorem entries_nodup (rowed : Rowed cases input one many done price) (legs : List InternalLeg) :
    ((many.typed.zipIdx.filterMap (postDatedLine legs)).map (·.lineRowNo)).Nodup := by
  have rows : many.typed.zipIdx.map (fun place => place.1.lineRowNo) =
      (deriveLines cases input).typed.map (·.lineRowNo) := by
    have first := List.zipIdx_map_fst 0 many.typed
    calc many.typed.zipIdx.map (fun place => place.1.lineRowNo)
      _ = (many.typed.zipIdx.map Prod.fst).map (·.lineRowNo) := (List.map_map).symm
      _ = ((deriveLines cases input).typed.map (·.lineRowNo)) := by
          rw [first, rowed.held.repriced, List.map_map]
          rfl
  have nodup := rowed.rows
  rw [← rows] at nodup
  apply List.Nodup.sublist _ nodup
  generalize many.typed.zipIdx = places
  induction places with
  | nil => exact List.Sublist.slnil
  | cons place rest ih =>
      rw [List.filterMap_cons, List.map_cons]
      cases made : postDatedLine legs place with
      | none => exact ih.cons _
      | some entry =>
          have row : entry.lineRowNo = place.1.lineRowNo := by
            obtain ⟨_, _, later⟩ := Option.bind_eq_some_iff.mp made
            obtain ⟨_, _, last⟩ := Option.bind_eq_some_iff.mp later
            obtain ⟨_, _, rfl⟩ := Option.map_eq_some_iff.mp last
            rfl
          rw [List.map_cons, row]
          exact ih.cons_cons _

end Carried

end ErpServer.Vouchers
