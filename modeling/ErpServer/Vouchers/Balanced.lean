import ErpServer.Vouchers.GstRuns
import ErpServer.Vouchers.PostDated

/-!
# Every voucher balances

The legs dated today have equal debits and credits, so has the group of every post-dated
cheque, and a leg is of one of these only.  Every leg is of an amount above zero where every
line typed comes to a paisa.
-/

namespace ErpServer.Vouchers

open Lib
open Receipt (Decimal DrCr Figure money money_mem money_of_mem paise)

variable {cases : Text.CaseMapping} {input : DeriveInput} {derived : Derived}

/-! ## The law -/

/-- The legs no post-dated entry carries. -/
def postedToday (voucher : DerivedInternal) : List InternalLeg :=
  voucher.legs.filter fun leg => !voucher.postDated.any (·.carries leg)

structure BalancedVoucher (voucher : DerivedInternal) : Prop where
  today : sideSum .DR (postedToday voucher) = sideSum .CR (postedToday voucher)
  apart : ∀ entry ∈ voucher.postDated,
    sideSum .DR (voucher.legs.filter entry.carries) =
      sideSum .CR (voucher.legs.filter entry.carries)
  /-- The legs carried are those dated later. -/
  dated : ∀ leg ∈ voucher.legs, voucher.postDated.any (·.carries leg) = leg.postDated
  once : ∀ leg ∈ voucher.legs, (voucher.postDated.filter (·.carries leg)).length ≤ 1
  positive : ∀ leg ∈ voucher.legs, 0 < leg.amount

/-! ## Groups -/

section Groups

variable {one : TdsOne} {many : TdsRun} {done : List (Uuid × List TypedLeg)}
variable {price : TypedLeg → Decimal}

/-- Sides of a group, in the voucher as in the bands. -/
theorem sideSum_ofRow (row : ℕ) (side : DrCr) :
    sideSum side (((bandsOf cases input one many).voucherLegs input.type).filter (ofRow row)) =
      sideSum side ((bandsOf cases input one many).allLegs.filter (ofRow row)) := by
  have keeps : ∀ leg : InternalLeg, (leg.bare.drCr = side && ofRow row leg.bare : Bool) =
      (leg.drCr = side && ofRow row leg : Bool) := fun _ => rfl
  rw [sideSum, sideSum, List.filter_filter, List.filter_filter, sum_voucherLegs keeps]

variable {leg : InternalLeg}

/-- A leg of the voucher is one of the bands, but for its number and its opposite. -/
theorem bare_of_mem (member : leg ∈ (bandsOf cases input one many).voucherLegs input.type) :
    ∃ other ∈ (bandsOf cases input one many).allLegs, leg.postDated = other.postDated ∧
      rowOf leg = rowOf other ∧ leg.amount = other.amount ∧
      ∀ row, ofRow row leg = ofRow row other := by
  obtain ⟨index, within, _, bare⟩ := mem_voucherLegs member
  have samePostDated : leg.bare.postDated = _ := congrArg InternalLeg.postDated bare
  have sameRow : rowOf leg.bare = _ := congrArg rowOf bare
  have sameAmount : leg.bare.amount = _ := congrArg InternalLeg.amount bare
  have sameOf (row : ℕ) : ofRow row leg.bare = _ := congrArg (ofRow row) bare
  exact ⟨_, List.get_mem _ _, samePostDated, sameRow, sameAmount, sameOf⟩

/-- A leg of a post-dated line is one dated later, and the other way about. -/
theorem ofRow_iff (rowed : Rowed cases input one many done price) {line : TypedLeg}
    (member : line ∈ (deriveLines cases input).typed) (dated : line.postDated = true)
    (legMember : leg ∈ (bandsOf cases input one many).voucherLegs input.type) :
    ofRow line.lineRowNo leg = true ↔
      leg.postDated = true ∧ rowOf leg = some line.lineRowNo := by
  obtain ⟨other, otherMember, samePostDated, sameRow, _, sameOf⟩ := bare_of_mem legMember
  rw [samePostDated, sameRow, sameOf]
  constructor
  · intro isOfRow
    exact ofRow_dated rowed member dated otherMember isOfRow
  · rintro ⟨late, ofLine⟩
    obtain ⟨owner, ownerMember, ownerDated, isOfRow⟩ := dated_ofRow rowed otherMember late
    have ofOwner := (ofRow_dated rowed ownerMember ownerDated otherMember isOfRow).2
    rw [ofLine, Option.some.injEq] at ofOwner
    rw [ofOwner]
    exact isOfRow

/-- A leg dated later is of one post-dated line. -/
theorem exists_line (rowed : Rowed cases input one many done price)
    (legMember : leg ∈ (bandsOf cases input one many).voucherLegs input.type)
    (late : leg.postDated = true) :
    ∃ line ∈ (deriveLines cases input).typed, line.postDated = true ∧
      rowOf leg = some line.lineRowNo := by
  obtain ⟨other, otherMember, samePostDated, sameRow, _⟩ := bare_of_mem legMember
  rw [samePostDated] at late
  obtain ⟨line, lineMember, dated, isOfRow⟩ := dated_ofRow rowed otherMember late
  refine ⟨line, lineMember, dated, ?_⟩
  rw [sameRow]
  exact (ofRow_dated rowed lineMember dated otherMember isOfRow).2

/-- The legs dated later balance, group by group. -/
theorem later_balanced (rowed : Rowed cases input one many done price) :
    sideSum .DR (((bandsOf cases input one many).voucherLegs input.type).filter (·.postDated)) =
      sideSum .CR
        (((bandsOf cases input one many).voucherLegs input.type).filter (·.postDated)) := by
  have bySide (side : DrCr) :
      sideSum side (((bandsOf cases input one many).voucherLegs input.type).filter
        (·.postDated)) = (((deriveLines cases input).typed.filter (·.postDated)).map fun line =>
          sideSum side ((bandsOf cases input one many).allLegs.filter
            (ofRow line.lineRowNo))).sum := by
    have rows : (((deriveLines cases input).typed.filter (·.postDated)).map
        (·.lineRowNo)).Nodup := rowed.rows.sublist (List.filter_sublist.map _)
    have owned : ∀ leg ∈ (((bandsOf cases input one many).voucherLegs input.type).filter
        (·.postDated)).filter (fun leg => leg.drCr = side),
          ∃ line ∈ (deriveLines cases input).typed.filter (·.postDated),
            rowOf leg = some line.lineRowNo := by
      intro leg listed
      obtain ⟨legMember, late⟩ := List.mem_filter.mp (List.mem_of_mem_filter listed)
      obtain ⟨line, member, dated, ofLine⟩ := exists_line rowed legMember late
      exact ⟨line, List.mem_filter.mpr ⟨member, dated⟩, ofLine⟩
    rw [sideSum, ListSum.sum_by_owner rows InternalLeg.amount owned]
    congr 1
    apply List.map_congr_left
    intro line listed
    obtain ⟨member, dated⟩ := List.mem_filter.mp listed
    rw [← sideSum_ofRow, sideSum, List.filter_filter, List.filter_filter, List.filter_filter]
    congr 2
    apply List.filter_congr
    intro leg legMember
    apply Bool.eq_iff_iff.mpr
    simp only [Bool.and_eq_true, decide_eq_true_eq, ofRow_iff rowed member dated legMember]
    constructor
    · rintro ⟨⟨ofLine, onSide⟩, late⟩
      exact ⟨onSide, late, ofLine⟩
    · rintro ⟨onSide, late, ofLine⟩
      exact ⟨⟨ofLine, onSide⟩, late⟩
  rw [bySide, bySide]
  congr 1
  apply List.map_congr_left
  intro line listed
  obtain ⟨member, dated⟩ := List.mem_filter.mp listed
  exact ofRow_balanced rowed member dated

end Groups

/-! ## Today -/

section Today

variable {one : TdsOne} {many : TdsRun} {done : List (Uuid × List TypedLeg)}
variable {price : TypedLeg → Decimal} {billwise : Billwise}

theorem Ran.rowed (ran : Ran cases input one many billwise derived)
    (quiet : QuietSteps cases input one many billwise) :
    ∃ done price, Rowed cases input one many done price := by
  have read := deriveLines_read quiet.lines
  have figures := fun leg (member : leg ∈ (deriveLines cases input).typed) => read.figure member
  obtain ⟨done, price, held, _⟩ :=
    deriveTdsMany_deducting figures read.rows_nodup ran.many_ok quiet.deductedMany
  have deducts := deriveTdsOne_deducts ran.one_ok quiet.deductedOne
  exact ⟨done, price, read.rows_nodup, held, deducts.credits figures quiet.deductedOne,
    fun leg member => deducts.today quiet.deductedOne member⟩

theorem sideSum_voucherLegs (side : DrCr) :
    sideSum side ((bandsOf cases input one many).voucherLegs input.type) =
      sideSum side (bandsOf cases input one many).allLegs := by
  have keeps : ∀ leg : InternalLeg, (leg.bare.drCr = side : Bool) = (leg.drCr = side : Bool) :=
    fun _ => rfl
  exact sum_voucherLegs keeps

theorem sideSum_today (side : DrCr) (legs : List InternalLeg) :
    sideSum side legs = sideSum side (legs.filter (·.postDated)) + sideSum side (todayLegs legs) :=
  sideSum_split (·.postDated) side legs

/-- The legs of a voucher with one party balance: the party's does it. -/
theorem whole_balanced (exact : ∀ leg ∈ (bandsOf cases input one many).legs, leg.amount ∈ paise)
    (mode : input.type.partyMode = .ONE) (clean : (readParty cases input).notes = [])
    (quiet : Quiet input.ctx (bandsOf cases input one many).balancing.notes) :
    sideSum .DR (bandsOf cases input one many).allLegs =
      sideSum .CR (bandsOf cases input one many).allLegs := by
  obtain ⟨party, side, isParty, isSide⟩ := readParty_clean mode clean
  have balanced := congrArg Balancing.legs (balanceParty_ok isParty isSide quiet)
  have left : leftForParty side (bandsOf cases input one many).legs ∈ paise := by
    rw [leftForParty_eq]
    exact sub_mem (sideSum_mem exact _) (sideSum_mem exact _)
  have added : (bandsOf cases input one many).balancing.legs = [partyLeg party side
      (leftForParty side (bandsOf cases input one many).legs) many.typed] := balanced
  have nothing (other : DrCr) : sideSum other [] = 0 := rfl
  have amount := (money_of_mem left).trans (leftForParty_eq _ _)
  rw [Bands.allLegs, added, sideSum_append, sideSum_append, sideSum_cons, sideSum_cons, nothing,
    nothing]
  simp only [partyLeg, amount]
  cases side with
  | DR =>
      simp only [opposite, if_true, reduceCtorEq, if_false]
      ring
  | CR =>
      simp only [opposite, if_true, reduceCtorEq, if_false]
      ring

variable {legs : List InternalLeg} {typed : List TypedLeg}

/-- A voucher with no header party is refused unless today's legs balance. -/
theorem checked_balanced (exact : ∀ leg ∈ legs, leg.amount ∈ paise) (some : typed ≠ [])
    (mode : input.type.partyMode ≠ .ONE)
    (quiet : Quiet input.ctx (balanceNotes input.type typed legs)) :
    sideSum .DR (todayLegs legs) = sideSum .CR (todayLegs legs) := by
  have later := (quiet_append.mp quiet).2
  split at later
  · cases later _ List.mem_cons_self
  · next equal =>
      have none : (totalsOf legs).difference = 0 := by
        by_contra differs
        exact equal ⟨differs, some, mode⟩
      have todays : ∀ leg ∈ todayLegs legs, leg.amount ∈ paise :=
        fun leg member => exact leg (List.mem_of_mem_filter member)
      simp only [totalsOf, debits_eq, credits_eq] at none
      rw [money_of_mem (sideSum_mem todays _), money_of_mem (sideSum_mem todays _)] at none
      exact sub_eq_zero.mp none

theorem balanceParty_exact {read : PartyRead} {leg : InternalLeg}
    (member : leg ∈ (balanceParty read typed legs).legs) : leg.amount ∈ paise := by
  rw [balanceParty] at member
  split at member
  · simp only at member
    split at member
    · cases member
    · rw [List.mem_singleton.mp member]
      exact money_mem _
  · cases member

theorem lines_some (clean : (deriveLines cases input).notes = []) : input.lines ≠ [] := by
  intro none
  have sorted : sortedLines input = [] := by
    rw [sortedLines, none]
    rfl
  rw [deriveLines, sorted, if_pos none] at clean
  cases clean

/-- Today's legs balance, whoever the party is. -/
theorem today_balanced (ran : Ran cases input one many billwise derived)
    (quiet : QuietSteps cases input one many billwise) :
    sideSum .DR (todayLegs ((bandsOf cases input one many).voucherLegs input.type)) =
      sideSum .CR (todayLegs ((bandsOf cases input one many).voucherLegs input.type)) := by
  obtain ⟨done, price, rowed⟩ := ran.rowed quiet
  obtain ⟨_, typedExact, _, manyCredits⟩ := ran.typed quiet
  have read := deriveLines_read quiet.lines
  have exact : ∀ leg ∈ (bandsOf cases input one many).legs, leg.amount ∈ paise :=
    fun leg member => bandsOf_exact rowed.oneCredits manyCredits typedExact
      (fun leg member => read.figure member) member
  by_cases mode : input.type.partyMode = .ONE
  · have whole := whole_balanced exact mode quiet.read quiet.balancing
    rw [← sideSum_voucherLegs, ← sideSum_voucherLegs, sideSum_today, sideSum_today .CR,
      later_balanced rowed] at whole
    exact add_left_cancel whole
  · have some : many.typed ≠ [] := by
      intro none
      have lengths := read.legs.length_eq
      have sorted := (List.perm_insertionSort (fun left right : TypedLineInput =>
        left.rowNo ≤ right.rowNo) input.lines).length_eq
      have typed := congrArg List.length rowed.held.repriced
      rw [none, List.length_map, ← lengths, sortedLines, sorted, List.length_nil] at typed
      exact lines_some quiet.lines (List.length_eq_zero_iff.mp typed.symm)
    refine checked_balanced ?_ some mode quiet.balance
    intro leg member
    obtain ⟨other, otherMember, _, _, amount, _⟩ := bare_of_mem member
    rw [amount]
    cases List.mem_append.mp otherMember with
    | inl ofBands => exact exact other ofBands
    | inr party => exact balanceParty_exact party

end Today

/-! ## Above zero -/

section Positive

variable {one : TdsOne} {many : TdsRun} {done : List (Uuid × List TypedLeg)}
variable {price : TypedLeg → Decimal} {billwise : Billwise}

variable {leg : InternalLeg}

variable {typed : List TypedLeg} {read : PartyRead}

/-- The legs of the GST band are above zero. -/
theorem deriveGst_positive (figures : ∀ leg ∈ typed, Figure leg.amount)
    (clean : (deriveGst cases input read typed).notes = [])
    (member : leg ∈ (deriveGst cases input read typed).legs) : 0 < leg.amount := by
  rw [deriveGst] at clean member
  split at member
  · next side partySide isSide onSide =>
      simp only [isSide, onSide] at clean member
      split at member
      · cases member
      · next some =>
          rw [if_neg some] at clean
          obtain ⟨entry, listed, rfl⟩ := List.mem_map.mp member
          have nonneg : ∀ entry ∈ gstTyped input typed, 0 ≤ entry.1.amount := by
            intro entry entryMember
            rw [gstTyped] at entryMember
            split at entryMember
            · obtain ⟨leg, legMember, made⟩ := List.mem_filterMap.mp entryMember
              obtain ⟨_, _, rfl⟩ := Option.map_eq_some_iff.mp made
              exact (figures leg legMember).nonneg
            · cases entryMember
          have positive := ((runGst_taxing nonneg clean).books entry listed).2.1
          change 0 < money entry.2.amount
          rw [money_of_mem positive.1]
          exact positive.2
  · cases member

theorem balanceParty_positive {legs : List InternalLeg} (exact : ∀ leg ∈ legs, leg.amount ∈ paise)
    (member : leg ∈ (balanceParty read typed legs).legs) : 0 < leg.amount := by
  rw [balanceParty] at member
  split at member
  · next party side _ _ =>
      simp only at member
      split at member
      · cases member
      · next some =>
          have left : leftForParty side legs ∈ paise := by
            rw [leftForParty_eq]
            exact sub_mem (sideSum_mem exact _) (sideSum_mem exact _)
          rw [List.mem_singleton.mp member]
          change 0 < money (leftForParty side legs)
          rw [money_of_mem left]
          exact not_le.mp some
  · cases member

/-- Every leg is above zero when every typed line is. -/
theorem legs_positive (ran : Ran cases input one many billwise derived)
    (quiet : QuietSteps cases input one many billwise)
    (positive : ∀ leg ∈ (deriveLines cases input).typed, 0 < leg.amount)
    (member : leg ∈ (bandsOf cases input one many).allLegs) : 0 < leg.amount := by
  obtain ⟨done, price, rowed⟩ := ran.rowed quiet
  obtain ⟨_, typedExact, _, manyCredits⟩ := ran.typed quiet
  have read := deriveLines_read quiet.lines
  have figures : ∀ leg ∈ (deriveLines cases input).typed, Figure leg.amount :=
    fun leg member => read.figure member
  rw [Bands.allLegs, List.mem_append] at member
  cases member with
  | inr party =>
      exact balanceParty_positive (fun leg member =>
        bandsOf_exact rowed.oneCredits manyCredits typedExact figures member) party
  | inl ofBands =>
      rw [bandsOf_legs, generatedLegs] at ofBands
      simp only [List.mem_append] at ofBands
      rcases ofBands with typed | money | tax | ofOne | ofMany
      · rw [rowed.held.repriced, List.map_map] at typed
        obtain ⟨line, listed, rfl⟩ := List.mem_map.mp typed
        exact (rowed.held.figures line listed).2.mpr (positive line listed)
      · obtain ⟨line, listed, made⟩ := List.mem_filterMap.mp money
        obtain ⟨_, _, rfl⟩ := Option.map_eq_some_iff.mp made
        exact positive line listed
      · exact deriveGst_positive figures quiet.band tax
      · exact (rowed.oneToday leg ofOne).2
      · exact rowed.held.positive leg ofMany

/-- A typed line is above zero when its leg is. -/
theorem typed_positive (rowed : Rowed cases input one many done price)
    (positive : ∀ leg ∈ (bandsOf cases input one many).voucherLegs input.type, 0 < leg.amount)
    {line : TypedLeg} (member : line ∈ (deriveLines cases input).typed) : 0 < line.amount := by
  have listed : (atPrice price line).toLeg.bare ∈
      ((bandsOf cases input one many).voucherLegs input.type).map InternalLeg.bare := by
    rw [voucherLegs_bare]
    apply List.mem_map_of_mem
    rw [Bands.allLegs, bandsOf_legs, rowed.held.repriced]
    apply List.mem_append_left
    apply List.mem_append_left
    exact List.mem_map_of_mem (List.mem_map_of_mem member)
  obtain ⟨leg, legMember, bare⟩ := List.mem_map.mp listed
  have amount : leg.bare.amount = price line := congrArg InternalLeg.amount bare
  have above : 0 < leg.bare.amount := positive leg legMember
  rw [amount] at above
  exact (rowed.held.figures line member).2.mp above

end Positive

/-! ## The entries of a voucher -/

section Entries

variable {one : TdsOne} {many : TdsRun} {done : List (Uuid × List TypedLeg)}
variable {price : TypedLeg → Decimal} {entries : List InternalPostDated}

/-- The entries are those of the post-dated lines, each with the legs of its row. -/
structure EntriesOf (input : DeriveInput) (typed : List TypedLeg) (legs : List InternalLeg)
    (entries : List InternalPostDated) : Prop where
  ofLine : ∀ entry ∈ entries, ∃ line ∈ typed, EntryOf legs line entry
  ofEntry : ∀ line ∈ typed, line.postDated = true → ∃ entry ∈ entries, EntryOf legs line entry
  rows : (entries.map (·.lineRowNo)).Nodup

theorem EntriesOf.dated (rowed : Rowed cases input one many done price)
    (entriesOf : EntriesOf input (deriveLines cases input).typed
      ((bandsOf cases input one many).voucherLegs input.type) entries) {leg : InternalLeg}
    (member : leg ∈ (bandsOf cases input one many).voucherLegs input.type) :
    entries.any (·.carries leg) = leg.postDated := by
  apply Bool.eq_iff_iff.mpr
  rw [List.any_eq_true]
  constructor
  · rintro ⟨entry, listed, carries⟩
    obtain ⟨line, lineMember, ofLine⟩ := entriesOf.ofLine entry listed
    rw [ofLine.carries leg member] at carries
    exact ((ofRow_iff rowed lineMember ofLine.dated member).mp carries).1
  · intro late
    obtain ⟨line, lineMember, dated, ofRow⟩ := exists_line rowed member late
    obtain ⟨entry, listed, ofLine⟩ := entriesOf.ofEntry line lineMember dated
    refine ⟨entry, listed, ?_⟩
    rw [ofLine.carries leg member]
    exact (ofRow_iff rowed lineMember dated member).mpr ⟨late, ofRow⟩

theorem EntriesOf.apart (rowed : Rowed cases input one many done price)
    (entriesOf : EntriesOf input (deriveLines cases input).typed
      ((bandsOf cases input one many).voucherLegs input.type) entries)
    {entry : InternalPostDated} (listed : entry ∈ entries) :
    sideSum .DR (((bandsOf cases input one many).voucherLegs input.type).filter entry.carries) =
      sideSum .CR
        (((bandsOf cases input one many).voucherLegs input.type).filter entry.carries) := by
  obtain ⟨line, lineMember, ofLine⟩ := entriesOf.ofLine entry listed
  rw [List.filter_congr ofLine.carries, sideSum_ofRow, sideSum_ofRow]
  exact ofRow_balanced rowed lineMember ofLine.dated

/-- Entries that carry one leg are of one row, so there is at most one. -/
theorem EntriesOf.once (rowed : Rowed cases input one many done price)
    (entriesOf : EntriesOf input (deriveLines cases input).typed
      ((bandsOf cases input one many).voucherLegs input.type) entries) {leg : InternalLeg}
    (member : leg ∈ (bandsOf cases input one many).voucherLegs input.type) :
    (entries.filter (·.carries leg)).length ≤ 1 := by
  have sameRow : ∀ entry ∈ entries.filter (·.carries leg),
      rowOf leg = some entry.lineRowNo := by
    intro entry carrying
    obtain ⟨listed, carries⟩ := List.mem_filter.mp carrying
    obtain ⟨line, lineMember, ofLine⟩ := entriesOf.ofLine entry listed
    rw [ofLine.carries leg member] at carries
    rw [ofLine.row]
    exact ((ofRow_iff rowed lineMember ofLine.dated member).mp carries).2
  have nodup : ((entries.filter (·.carries leg)).map (·.lineRowNo)).Nodup :=
    entriesOf.rows.sublist (List.filter_sublist.map _)
  cases carrying : entries.filter (·.carries leg) with
  | nil => exact Nat.zero_le _
  | cons first rest =>
      cases rest with
      | nil => exact le_rfl
      | cons second others =>
          rw [carrying] at sameRow nodup
          have firstRow := sameRow first List.mem_cons_self
          have secondRow := sameRow second (List.mem_cons_of_mem _ List.mem_cons_self)
          rw [firstRow, Option.some.injEq] at secondRow
          rw [List.map_cons, List.map_cons, secondRow] at nodup
          exact absurd List.mem_cons_self (List.nodup_cons.mp nodup).1

end Entries

/-- A voucher that refuses nothing balances, today's legs and every post-dated group, exactly
when every line typed comes to a paisa. -/
theorem voucher_balanced (ok : derive cases input = .ok derived)
    (accepted : derived.Accepted input.ctx) :
    BalancedVoucher derived.voucher ↔ ∀ line ∈ input.lines, 0 < money line.amount := by
  obtain ⟨one, many, billwise, ran⟩ := derive_ran ok
  have quiet := ran.quiet accepted
  obtain ⟨done, price, rowed⟩ := ran.rowed quiet
  have read := deriveLines_read quiet.lines
  have sorted {line : TypedLineInput} : line ∈ sortedLines input ↔ line ∈ input.lines :=
    List.mem_insertionSort _
  have entriesOf : EntriesOf input (deriveLines cases input).typed
      ((bandsOf cases input one many).voucherLegs input.type)
      (assemble input (bandsOf cases input one many) billwise).voucher.postDated :=
    ⟨(entries_of_lines rowed).1, (entries_of_lines rowed).2, entries_nodup rowed _⟩
  rw [ran.derived_eq]
  constructor
  · intro law line listed
    obtain ⟨leg, legMember, becomes⟩ := Fold.forall₂_left read.legs (sorted.mpr listed)
    rw [← becomes.amount]
    exact typed_positive rowed law.positive legMember
  · intro positive
    have above : ∀ leg ∈ (deriveLines cases input).typed, 0 < leg.amount := by
      intro leg member
      obtain ⟨line, listed, becomes⟩ := read.of_mem member
      rw [becomes.amount]
      exact positive line (sorted.mp listed)
    have dated := fun leg member => @EntriesOf.dated _ _ _ _ _ _ _ rowed entriesOf leg member
    constructor
    · have todays : postedToday (assemble input (bandsOf cases input one many) billwise).voucher =
          todayLegs ((bandsOf cases input one many).voucherLegs input.type) := by
        apply List.filter_congr
        intro leg member
        rw [dated leg member]
      rw [todays]
      exact today_balanced ran quiet
    · exact fun entry listed => entriesOf.apart rowed listed
    · exact dated
    · exact fun leg member => entriesOf.once rowed member
    · intro leg member
      obtain ⟨other, otherMember, _, _, amount, _⟩ := bare_of_mem member
      rw [amount]
      exact legs_positive ran quiet above otherMember

/-! ## A receipt with a post-dated cheque -/

private theorem receipt_unraised (raise : BillwiseMode.OFF = .RAISE) :
    (none : Option BillType) ≠ none := by
  cases raise

private def plainType (nature : VoucherNature) (partyMode : PartyMode) (partySide : PartySide)
    (instruments : Bool) : VoucherTypeRules where
  typeCode := "Vchr"
  typeName := "Voucher"
  nature := nature
  partyMode := partyMode
  partySide := partySide
  billwiseMode := .OFF
  raiseBillType := none
  drGroups := []
  crGroups := []
  gstRegister := none
  gstSide := none
  tdsMode := .OFF
  instruments := instruments
  raise_named := receipt_unraised

private def tenderOf (typeId : ℕ) : TenderFacts :=
  ⟨"Tender", typeId, "Tender", typeId = 1, false, 30 + typeId, "Held", none, true, false, 1⟩

private def paidBy (tenderId : Uuid) : InstrumentInput :=
  ⟨tenderId, some "000123".toList, some ⟨2026, 10, 15⟩, some "Canara".toList, none, none, none,
    none, none⟩

/-- 500 in cash, and 300 by a cheque of the month after. -/
private def collection : DeriveInput :=
  { blank (plainType .RECEIPT .MANY .CR true) with
    lines := [⟨1, .CR, 5, 500, none, none, none, some (paidBy 1), none⟩,
      ⟨2, .CR, 5, 300, none, none, none, some (paidBy 5), none⟩]
    ledgers := fun _ => some { plainLedger 5 "Arasan Mills" with isParty := true }
    tenders := fun tenderId => some (tenderOf tenderId) }

private def accepted (input : DeriveInput) (check : DerivedInternal → Bool) (derived : Derived) :
    Bool :=
  decide (derived.Accepted input.ctx) && check derived.voucher

private theorem exists_accepted {check : DerivedInternal → Bool}
    (passes : (derive cases input).toOption.any (accepted input check) = true) :
    ∃ derived, derive cases input = .ok derived ∧ derived.Accepted input.ctx ∧
      check derived.voucher = true := by
  obtain ⟨derived, ok, checked⟩ := exists_derived passes
  rw [accepted, Bool.and_eq_true, decide_eq_true_eq] at checked
  exact ⟨derived, ok, checked⟩

private theorem collection_positive : ∀ line ∈ collection.lines, 0 < money line.amount := by
  decide +kernel

theorem collection_balanced : ∃ derived, derive ⟨id, id⟩ collection = .ok derived ∧
    derived.voucher.postDated.length = 1 ∧ BalancedVoucher derived.voucher := by
  have passes : (derive ⟨id, id⟩ collection).toOption.any
      (accepted collection fun voucher => decide (voucher.postDated.length = 1)) = true := by
    decide +kernel
  obtain ⟨derived, ok, isAccepted, checked⟩ := exists_accepted passes
  exact ⟨derived, ok, of_decide_eq_true checked,
    (voucher_balanced ok isAccepted).mpr collection_positive⟩

/-- Less than half a paisa on either side. -/
private def dust : DeriveInput :=
  { blank (plainType .JOURNAL .NONE .ANY false) with
    lines := [⟨1, .DR, 5, 4 / 1000, none, none, none, none, none⟩,
      ⟨2, .CR, 5, 4 / 1000, none, none, none, none, none⟩]
    ledgers := fun _ => some (plainLedger 5 "Suspense") }

/-- Lines above zero may round to legs of nothing. -/
theorem dust_legs_zero :
    ¬∀ (cases : Text.CaseMapping) (input : DeriveInput) (derived : Derived),
      derive cases input = .ok derived → derived.Accepted input.ctx →
        BalancedVoucher derived.voucher := by
  intro claimed
  have passes : (derive ⟨id, id⟩ dust).toOption.any (accepted dust fun voucher =>
      voucher.legs.any fun leg => decide (¬0 < leg.amount)) = true := by
    decide +kernel
  obtain ⟨derived, ok, isAccepted, checked⟩ := exists_accepted passes
  obtain ⟨leg, member, zero⟩ := List.any_eq_true.mp checked
  exact of_decide_eq_true zero ((claimed _ _ derived ok isAccepted).positive leg member)

end ErpServer.Vouchers
