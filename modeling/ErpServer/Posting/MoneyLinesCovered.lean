import ErpServer.Posting.MoneyLines

/-!
# Every money line has a tender, once

A call that comes back without gaps leaves every cash and bank side of the voucher covered,
and leaves nothing for a second call to do.  What it does not keep apart is a row that
names two ledgers: such a row covers both where the voucher moves both.
-/

namespace ErpServer.Posting

open Lib
open Receipt (Decimal DrCr money paisa paise)

/-! ## What is promised -/

/-- A row whose amount counts towards a ledger side of the voucher. -/
def covers (table : List TenderDetail) (scope : MoneyLineScope) (row : TenderDetail)
    (key : LedgerSide) : Prop :=
  (row.isLinked scope = true ∧ row.names key.1 = true ∧ row.drCr = key.2) ∨
    (voidedRow table scope = some row ∧ row.tenderLedgerId = key.1 ∧ row.drCr.flip = key.2)

/-- The sides that the legs come to more than what covers the voucher. -/
def stillShort (masters : Masters) (scope : MoneyLineScope) (legs : List MoneyLeg)
    (table : List TenderDetail) : List (LedgerSide × Decimal) :=
  (moneySides masters legs).filter fun need => decide (0 < shortage table scope need)

/-- Every cash or bank line of a voucher ends up with a tender, once. -/
structure LabelsOnce (masters : Masters) (scope : MoneyLineScope) (legs : List MoneyLeg)
    (table : List TenderDetail) : Prop where
  covered : ∀ after result, coverMoneyLines masters scope legs table = .ok (after, result) →
    result.gaps = [] → ∀ need ∈ moneySides masters legs, need.2 ≤ coveredAmount after scope need.1
  exactly : ∀ after result, coverMoneyLines masters scope legs table = .ok (after, result) →
    result.gaps = [] → ∃ rows, after = table ++ rows ∧ (rows.map (·.key)).Nodup ∧
      ∀ row ∈ rows, ∃ need ∈ moneySides masters legs, row.key = need.1 ∧
        0 < shortage table scope need ∧ row.amount = shortage table scope need
  again : ∀ after result, coverMoneyLines masters scope legs table = .ok (after, result) →
    result.gaps = [] → coverMoneyLines masters scope legs after = .ok (after, ⟨0, []⟩)
  reported : ∀ after result, coverMoneyLines masters scope legs table = .ok (after, result) →
    result.gaps.map (·.key) = (stillShort masters scope legs after).map Prod.fst
  refused : ∀ problem, coverMoneyLines masters scope legs table = .error problem →
    problem = refusalOf scope (labelLines masters scope legs table).gaps ∧
      (labelLines masters scope legs table).gaps.map (·.key) =
        (stillShort masters scope legs (labelLines masters scope legs table).table).map Prod.fst
  restated : ∀ after result, coverMoneyLines masters scope legs table = .ok (after, result) →
    ∀ other : MoneyLineScope, other.voucherId = scope.voucherId →
      other.srcDocType = scope.srcDocType → other.srcDocId = scope.srcDocId →
        ∀ row ∈ retireMoneyLineRows after scope.voucherId, row.tdId ∉ table.map (·.tdId) →
          ∀ key, ¬covers (retireMoneyLineRows after scope.voucherId) other row key
  once : ∀ row ∈ table, row.amount ≠ 0 → ∀ first ∈ moneySides masters legs,
    ∀ second ∈ moneySides masters legs, covers table scope row first.1 →
      covers table scope row second.1 → first.1 = second.1

/-! ## When it is kept -/

/-- A cash or bank ledger that the legs move on a side. -/
def moves (masters : Masters) (legs : List MoneyLeg) (ledgerId : Uuid) (drCr : DrCr) : Prop :=
  (ledgerId, drCr) ∈ (moneySides masters legs).map Prod.fst

/-- No side that falls short goes without a tender. -/
def AllHaveTenders (masters : Masters) (scope : MoneyLineScope) (legs : List MoneyLeg)
    (table : List TenderDetail) : Prop :=
  ∀ need ∈ moneySides masters legs, 0 < money (shortage table scope need) →
    hasTender masters scope need.1 = true

/-- The sides fall short by whole paise, and no row counts for two of them. -/
structure CountsOnce (masters : Masters) (scope : MoneyLineScope) (legs : List MoneyLeg)
    (table : List TenderDetail) : Prop where
  whole : AllHaveTenders masters scope legs table → ∀ need ∈ moneySides masters legs,
    0 < shortage table scope need → shortage table scope need ∈ paise
  rounded : ∀ need ∈ moneySides masters legs, 0 < shortage table scope need →
    if hasTender masters scope need.1 then
      shortage table scope need ≤ money (shortage table scope need)
    else paisa / 2 ≤ shortage table scope need
  oneLedger : ∀ row ∈ table, row.amount ≠ 0 → row.isLinked scope = true →
    ∀ settle, row.settleLedgerId = some settle → settle ≠ row.tenderLedgerId →
      moves masters legs row.tenderLedgerId row.drCr → ¬moves masters legs settle row.drCr
  oneSide : ∀ row ∈ table, row.amount ≠ 0 → row.isLinked scope = true →
    voidedRow table scope = some row → moves masters legs row.tenderLedgerId row.drCr.flip →
      ∀ ledgerId, row.names ledgerId = true → ¬moves masters legs ledgerId row.drCr

/-! ## Rounding a shortage -/

theorem paisa_pos : (0 : Decimal) < paisa := by norm_num [paisa]

variable {amount : Decimal}

theorem money_pos_iff : 0 < money amount ↔ paisa / 2 ≤ amount := by
  have nothing : money amount = 0 ↔ |amount| < paisa / 2 := Grid.halfUp_eq_zero_iff paisa_pos
  rcases le_total 0 amount with nonneg | nonpos
  · have sized : 0 ≤ money amount := Grid.halfUp_nonneg paisa_pos nonneg
    rw [abs_of_nonneg nonneg] at nothing
    rw [lt_iff_le_and_ne, and_iff_right sized, ne_comm, ne_eq, nothing, not_lt]
  · have mirrored : 0 ≤ money (-amount) :=
      Grid.halfUp_nonneg paisa_pos (neg_nonneg.mpr nonpos)
    have turned : money (-amount) = -money amount := Grid.halfUp_neg
    rw [turned] at mirrored
    have half := paisa_pos
    constructor
    · intro positive
      linarith
    · intro worth
      linarith

theorem money_of_mem (member : amount ∈ paise) : money amount = amount :=
  Grid.halfUp_of_mem paisa_pos member

/-- What is left of a shortage once its rounded amount is covered is less than half a paisa. -/
theorem sub_money_lt (nonneg : 0 ≤ amount) : amount - money amount < paisa / 2 := by
  have rounded : money amount = ⌊amount / paisa + 1 / 2⌋ * paisa := Grid.halfUp_of_nonneg nonneg
  have above := Int.lt_floor_add_one (amount / paisa + 1 / 2)
  have whole : amount / paisa * paisa = amount := div_mul_cancel₀ amount paisa_pos.ne'
  have scaled := mul_lt_mul_of_pos_right above paisa_pos
  rw [rounded]
  linarith

/-! ## After the call -/

section Call

variable {masters : Masters} {scope : MoneyLineScope} {legs : List MoneyLeg}
  {table : List TenderDetail} {need : LedgerSide × Decimal}

/-- What a side is short of after the labelling. -/
theorem shortage_after (member : need ∈ moneySides masters legs) :
    shortage (labelLines masters scope legs table).table scope need =
      shortage table scope need -
        if hasTender masters scope need.1 ∧ 0 < money (shortage table scope need) then
          money (shortage table scope need)
        else 0 := by
  obtain ⟨rows, labels⟩ := labelLines_spec masters scope legs table
  rw [shortage, coveredAmount_labelled labels member, ← sub_sub]
  rfl

/-- Nothing that is left would be rounded up to a row. -/
theorem money_shortage_after (member : need ∈ moneySides masters legs)
    (tender : 0 < money (shortage table scope need) → hasTender masters scope need.1 = true) :
    ¬0 < money (shortage (labelLines masters scope legs table).table scope need) := by
  rw [shortage_after member]
  by_cases short : 0 < money (shortage table scope need)
  · rw [if_pos ⟨tender short, short⟩, money_pos_iff, not_le]
    have half := paisa_pos
    exact sub_money_lt (by linarith [money_pos_iff.mp short])
  · rw [if_neg fun both => short both.2, sub_zero]
    exact short

/-- A gap for every side that is short and has no tender. -/
theorem gaps_keys : (labelLines masters scope legs table).gaps.map (·.key) =
    (unlabelledSides masters scope legs table).map Prod.fst := by
  obtain ⟨rows, labels⟩ := labelLines_spec masters scope legs table
  exact labels.gaps.trans (List.nil_append _)

theorem unlabelledSides_eq : unlabelledSides masters scope legs table =
    (moneySides masters legs).filter fun need =>
      decide (0 < money (shortage table scope need)) && !hasTender masters scope need.1 := by
  unfold unlabelledSides unlabelled moneySides
  rw [List.filter_filter]
  apply List.filter_congr
  intro need _
  rw [Bool.and_assoc, Bool.and_comm]
  rfl

theorem gaps_nil_iff : (labelLines masters scope legs table).gaps = [] ↔
    AllHaveTenders masters scope legs table := by
  have keys : (labelLines masters scope legs table).gaps.map (·.key) =
      (unlabelledSides masters scope legs table).map Prod.fst := gaps_keys
  constructor
  · intro none need member short
    rw [none, List.map_nil] at keys
    by_contra bare
    have listed : need ∈ unlabelledSides masters scope legs table :=
      mem_unlabelledSides.mpr ⟨member, short, Bool.not_eq_true _ ▸ bare⟩
    rw [List.map_eq_nil_iff.mp keys.symm] at listed
    cases listed
  · intro all
    have none : unlabelledSides masters scope legs table = [] := by
      apply List.eq_nil_iff_forall_not_mem.mpr
      intro need listed
      obtain ⟨member, short, bare⟩ := mem_unlabelledSides.mp listed
      rw [all need member short] at bare
      cases bare
    rw [none, List.map_nil] at keys
    exact List.map_eq_nil_iff.mp keys

variable {after : List TenderDetail}

theorem mem_stillShort : need ∈ stillShort masters scope legs after ↔
      need ∈ moneySides masters legs ∧ 0 < shortage after scope need := by
  simp [stillShort]

/-- The gaps are the sides still short exactly when rounding hides no shortage. -/
theorem gaps_exact_iff :
    (labelLines masters scope legs table).gaps.map (·.key) =
        (stillShort masters scope legs (labelLines masters scope legs table).table).map Prod.fst ↔
      ∀ need ∈ moneySides masters legs, 0 < shortage table scope need →
        if hasTender masters scope need.1 then
          shortage table scope need ≤ money (shortage table scope need)
        else paisa / 2 ≤ shortage table scope need := by
  have half := paisa_pos
  have same : (∀ need ∈ moneySides masters legs,
      (need ∈ unlabelledSides masters scope legs table ↔ need ∈ stillShort masters scope legs
        (labelLines masters scope legs table).table)) ↔
      ∀ need ∈ moneySides masters legs, 0 < shortage table scope need →
        if hasTender masters scope need.1 then
          shortage table scope need ≤ money (shortage table scope need)
        else paisa / 2 ≤ shortage table scope need := by
    apply forall₂_congr
    intro need member
    rw [mem_unlabelledSides, mem_stillShort, shortage_after member]
    simp only [member, true_and]
    cases tender : hasTender masters scope need.1 with
    | true =>
        by_cases short : 0 < money (shortage table scope need)
        · simp only [short, and_self, if_true, true_and, Bool.true_eq_false, false_iff, not_lt]
          constructor
          · intro within _
            linarith
          · intro within
            have positive := money_pos_iff.mp short
            linarith [within (by linarith)]
        · simp only [short, and_false, false_and, if_false, sub_zero, if_true, false_iff, not_lt]
          constructor
          · intro nonpos positive
            linarith
          · intro within
            by_contra positive
            have bound := within (not_le.mp positive)
            linarith [not_lt.mp short, not_le.mp positive]
    | false =>
        simp only [Bool.false_eq_true, false_and, if_false, sub_zero, and_true, money_pos_iff]
        constructor
        · intro exact_ positive
          exact exact_.mpr positive
        · intro worth
          constructor
          · intro half_
            linarith
          · exact worth
  rw [gaps_keys, ← same]
  have inner {sides : List (LedgerSide × Decimal)} (sub : sides ⊆ moneySides masters legs)
      {need : LedgerSide × Decimal} (member : need ∈ moneySides masters legs) :
      need.1 ∈ sides.map Prod.fst ↔ need ∈ sides := by
    constructor
    · intro keyed
      obtain ⟨other, otherMem, equal⟩ := List.mem_map.mp keyed
      have one := List.inj_on_of_nodup_map (moneySides_nodup masters legs) (sub otherMem) member
        equal
      rw [← one]
      exact otherMem
    · exact List.mem_map_of_mem
  have subGap : unlabelledSides masters scope legs table ⊆ moneySides masters legs :=
    fun need listed => (mem_unlabelledSides.mp listed).1
  have subShort : stillShort masters scope legs (labelLines masters scope legs table).table ⊆
      moneySides masters legs := fun need listed => (mem_stillShort.mp listed).1
  constructor
  · intro keys need member
    rw [← inner subGap member, ← inner subShort member, keys]
  · intro agree
    congr 1
    rw [unlabelledSides_eq, stillShort]
    apply List.filter_congr
    intro need member
    have each := agree need member
    rw [mem_unlabelledSides, mem_stillShort] at each
    simp only [member, true_and] at each
    rw [Bool.eq_iff_iff]
    simpa using each

/-! ## The outcomes -/

theorem cover_ok {result : Covered}
    (covered : coverMoneyLines masters scope legs table = .ok (after, result)) :
    after = (labelLines masters scope legs table).table ∧
      result.gaps = (labelLines masters scope legs table).gaps := by
  unfold coverMoneyLines at covered
  simp only at covered
  split at covered
  · cases covered
  · cases covered
    exact ⟨rfl, rfl⟩

theorem cover_error {problem : Unprocessable}
    (refused : coverMoneyLines masters scope legs table = .error problem) :
    problem = refusalOf scope (labelLines masters scope legs table).gaps := by
  unfold coverMoneyLines at refused
  simp only at refused
  split at refused
  · cases refused
    rfl
  · cases refused

theorem cover_of_no_gaps (none : (labelLines masters scope legs table).gaps = []) :
    coverMoneyLines masters scope legs table =
      .ok ((labelLines masters scope legs table).table,
        ⟨(labelLines masters scope legs table).written, []⟩) := by
  unfold coverMoneyLines
  simp [none]

/-- A call that finds no side short writes nothing. -/
theorem cover_nothing (covered : ∀ need ∈ moneySides masters legs,
    ¬0 < money (shortage table scope need)) :
    coverMoneyLines masters scope legs table = .ok (table, ⟨0, []⟩) := by
  obtain ⟨rows, labels⟩ := labelLines_spec masters scope legs table
  have noGaps : (labelLines masters scope legs table).gaps = [] :=
    gaps_nil_iff.mpr fun need member short => absurd short (covered need member)
  have noSides : labelledSides masters scope legs table = [] := by
    apply List.eq_nil_iff_forall_not_mem.mpr
    intro need listed
    obtain ⟨member, short, -⟩ := mem_labelledSides.mp listed
    exact covered need member short
  have noRows : rows = [] := by
    have amounts := labels.amounts
    change _ = (labelledSides masters scope legs table).map _ at amounts
    rw [noSides] at amounts
    exact List.map_eq_nil_iff.mp amounts
  have same := labels.table
  have none := labels.written
  rw [noRows] at same none
  rw [cover_of_no_gaps noGaps, same, none]
  simp

/-! ## The rows of a restated voucher -/

/-- Rows written for the old legs are out of the way once they are retired. -/
theorem restated_not_covers {result : Covered}
    (covered : coverMoneyLines masters scope legs table = .ok (after, result))
    {other : MoneyLineScope} (docType : other.srcDocType = scope.srcDocType)
    (doc : other.srcDocId = scope.srcDocId) {row : TenderDetail}
    (member : row ∈ retireMoneyLineRows after scope.voucherId)
    (written : row.tdId ∉ table.map (·.tdId)) (key : LedgerSide) :
    ¬covers (retireMoneyLineRows after scope.voucherId) other row key := by
  obtain ⟨rows, labels⟩ := labelLines_spec masters scope legs table
  obtain ⟨old, oldMem, retired⟩ := List.mem_map.mp member
  have sameId : row.tdId = old.tdId := by
    rw [← retired]
    split <;> rfl
  have isNew : old ∈ rows := by
    rw [(cover_ok covered).1, labels.table] at oldMem
    cases List.mem_append.mp oldMem with
    | inl earlier =>
        rw [sameId] at written
        exact absurd (List.mem_map_of_mem earlier) written
    | inr isRow => exact isRow
  have kind := labels.kind old isNew
  have dead : row.isDeleted = true := by
    rw [← retired, if_pos ⟨kind.ofVoucher, kind.srcDocType⟩]
  have replaced : other.replaced = scope.replaced := by
    rw [MoneyLineScope.replaced, MoneyLineScope.replaced, docType, doc]
  intro counts
  cases counts with
  | inl linked =>
      have live := linked.1
      simp [TenderDetail.isLinked, dead] at live
  | inr voided =>
      have found := voided.1
      unfold voidedRow at found
      rw [replaced] at found
      cases named : scope.replaced with
      | none =>
          rw [named] at found
          cases found
      | some voidedId =>
          rw [named, Option.bind_some] at found
          have equal : row.tdId = voidedId := by simpa using List.find?_some found
          apply kind.unvoided
          rw [named, ← equal, sameId]

/-! ## Rows that count once -/

theorem once_iff :
    (∀ row ∈ table, row.amount ≠ 0 → ∀ first ∈ moneySides masters legs,
      ∀ second ∈ moneySides masters legs, covers table scope row first.1 →
        covers table scope row second.1 → first.1 = second.1) ↔
      (∀ row ∈ table, row.amount ≠ 0 → row.isLinked scope = true →
        ∀ settle, row.settleLedgerId = some settle → settle ≠ row.tenderLedgerId →
          moves masters legs row.tenderLedgerId row.drCr →
            ¬moves masters legs settle row.drCr) ∧
      ∀ row ∈ table, row.amount ≠ 0 → row.isLinked scope = true →
        voidedRow table scope = some row → moves masters legs row.tenderLedgerId row.drCr.flip →
          ∀ ledgerId, row.names ledgerId = true → ¬moves masters legs ledgerId row.drCr := by
  constructor
  · intro once
    constructor
    · intro row member amount linked settle settles apart tenderMoves settleMoves
      obtain ⟨first, firstMem, firstKey⟩ := List.mem_map.mp tenderMoves
      obtain ⟨second, secondMem, secondKey⟩ := List.mem_map.mp settleMoves
      have equal := once row member amount first firstMem second secondMem
        (Or.inl (by rw [firstKey]; exact ⟨linked, by simp [TenderDetail.names], rfl⟩))
        (Or.inl (by rw [secondKey]; exact ⟨linked, by simp [TenderDetail.names, settles], rfl⟩))
      rw [firstKey, secondKey] at equal
      exact apart (congrArg Prod.fst equal).symm
    · intro row member amount linked voided flipMoves ledgerId named ledgerMoves
      obtain ⟨first, firstMem, firstKey⟩ := List.mem_map.mp flipMoves
      obtain ⟨second, secondMem, secondKey⟩ := List.mem_map.mp ledgerMoves
      have equal := once row member amount first firstMem second secondMem
        (Or.inr (by rw [firstKey]; exact ⟨voided, rfl, rfl⟩))
        (Or.inl (by rw [secondKey]; exact ⟨linked, named, rfl⟩))
      rw [firstKey, secondKey] at equal
      have sides : row.drCr.flip = row.drCr := congrArg Prod.snd equal
      have turned : ¬row.drCr.flip = row.drCr := by
        generalize row.drCr = side
        cases side <;> decide
      exact turned sides
  · intro both row member amount first firstMem second secondMem firstCovers secondCovers
    obtain ⟨oneLedger, oneSide⟩ := both
    have keyed {need : LedgerSide × Decimal} (needMem : need ∈ moneySides masters legs)
        {ledgerId : Uuid} {drCr : DrCr} (ledger : ledgerId = need.1.1) (side : drCr = need.1.2) :
        moves masters legs ledgerId drCr := by
      rw [ledger, side]
      exact List.mem_map_of_mem needMem
    cases firstCovers with
    | inl firstLinked =>
        obtain ⟨linked, firstNamed, firstSide⟩ := firstLinked
        cases secondCovers with
        | inl secondLinked =>
            obtain ⟨-, secondNamed, secondSide⟩ := secondLinked
            have ledgers : first.1.1 = second.1.1 := by
              simp only [TenderDetail.names, Bool.or_eq_true, decide_eq_true_eq] at firstNamed
              simp only [TenderDetail.names, Bool.or_eq_true, decide_eq_true_eq] at secondNamed
              rcases firstNamed with firstTender | firstSettle
              · rcases secondNamed with secondTender | secondSettle
                · rw [← firstTender, ← secondTender]
                · by_contra apart
                  exact oneLedger row member amount linked _ secondSettle
                    (fun same => apart (firstTender.symm.trans same.symm))
                    (keyed firstMem firstTender firstSide) (keyed secondMem rfl secondSide)
              · rcases secondNamed with secondTender | secondSettle
                · by_contra apart
                  exact oneLedger row member amount linked _ firstSettle
                    (fun same => apart (same.trans secondTender))
                    (keyed secondMem secondTender secondSide) (keyed firstMem rfl firstSide)
                · exact Option.some.inj (firstSettle.symm.trans secondSettle)
            exact Prod.ext ledgers (firstSide.symm.trans secondSide)
        | inr secondVoided =>
            obtain ⟨voided, tender, side⟩ := secondVoided
            exact absurd (keyed firstMem rfl firstSide)
              (oneSide row member amount linked voided (keyed secondMem tender side) _ firstNamed)
    | inr firstVoided =>
        obtain ⟨voided, tender, side⟩ := firstVoided
        cases secondCovers with
        | inl secondLinked =>
            obtain ⟨linked, named, linkedSide⟩ := secondLinked
            exact absurd (keyed secondMem rfl linkedSide)
              (oneSide row member amount linked voided (keyed firstMem tender side) _ named)
        | inr secondVoided =>
            exact Prod.ext (tender.symm.trans secondVoided.2.1) (side.symm.trans secondVoided.2.2)

end Call

/-- Every money line of a voucher ends up with a tender, once, exactly when its sides fall
short by whole paise and no row counts for two of them. -/
theorem labelsOnce_iff (masters : Masters) (scope : MoneyLineScope) (legs : List MoneyLeg)
    (table : List TenderDetail) :
    LabelsOnce masters scope legs table ↔ CountsOnce masters scope legs table := by
  obtain ⟨rows, labels⟩ := labelLines_spec masters scope legs table
  have amounts : rows.map (fun row => (row.key, row.amount)) =
      (labelledSides masters scope legs table).map fun need =>
        (need.1, money (shortage table scope need)) := labels.amounts
  constructor
  · intro sound
    have apart := once_iff.mp sound.once
    constructor
    · intro all need member short
      have done := cover_of_no_gaps (gaps_nil_iff.mpr all)
      have covered := sound.covered _ _ done rfl need member
      obtain ⟨new, appended, nodup, each⟩ := sound.exactly _ _ done rfl
      have same : new = rows := by
        rw [labels.table] at appended
        exact (List.append_cancel_left appended).symm
      have left : ¬0 < shortage (labelLines masters scope legs table).table scope need :=
        not_lt.mpr (sub_nonpos.mpr covered)
      rw [shortage_after member] at left
      have rounds : 0 < money (shortage table scope need) := by
        by_contra none
        rw [if_neg fun both => none both.2, sub_zero] at left
        exact left short
      have listed : need ∈ labelledSides masters scope legs table :=
        mem_labelledSides.mpr ⟨member, rounds, all need member rounds⟩
      have rowed : (need.1, money (shortage table scope need)) ∈
          rows.map fun row => (row.key, row.amount) := by
        rw [amounts]
        exact List.mem_map_of_mem listed
      obtain ⟨row, rowMem, rowEq⟩ := List.mem_map.mp rowed
      obtain ⟨named, namedMem, key, -, exact_⟩ := each row (same ▸ rowMem)
      have one : named = need := List.inj_on_of_nodup_map (moneySides_nodup masters legs) namedMem
        member (key.symm.trans (congrArg Prod.fst rowEq))
      have rounded : row.amount = money (shortage table scope need) := congrArg Prod.snd rowEq
      rw [one, rounded] at exact_
      rw [← exact_]
      exact Grid.halfUp_mem
    · apply gaps_exact_iff.mp
      cases outcome : coverMoneyLines masters scope legs table with
      | ok pair =>
          have told := sound.reported pair.1 pair.2 outcome
          rw [(cover_ok outcome).1, (cover_ok outcome).2] at told
          exact told
      | error problem => exact (sound.refused problem outcome).2
    · exact apart.1
    · exact apart.2
  · intro counts
    have exactly := gaps_exact_iff.mpr counts.rounded
    constructor
    · intro after result done none need member
      obtain ⟨reached, gaps⟩ := cover_ok done
      rw [gaps] at none
      have all := gaps_nil_iff.mp none
      have short : ¬0 < shortage after scope need := by
        intro short
        have listed : need.1 ∈ (stillShort masters scope legs after).map Prod.fst :=
          List.mem_map_of_mem (mem_stillShort.mpr ⟨member, short⟩)
        rw [reached, ← exactly, none] at listed
        cases listed
      exact sub_nonpos.mp (not_lt.mp short)
    · intro after result done none
      obtain ⟨reached, gaps⟩ := cover_ok done
      rw [gaps] at none
      have all := gaps_nil_iff.mp none
      refine ⟨rows, reached.trans labels.table, ?_, ?_⟩
      · have keys : rows.map (·.key) = (labelledSides masters scope legs table).map Prod.fst := by
          have firsts := congrArg (List.map Prod.fst) amounts
          simpa [Function.comp_def] using firsts
        rw [keys]
        exact (needs_nodup legs).sublist ((List.filter_sublist).map _)
      · intro row member
        have listed : (row.key, row.amount) ∈ (labelledSides masters scope legs table).map
            fun need => (need.1, money (shortage table scope need)) := by
          rw [← amounts]
          exact List.mem_map_of_mem member
        obtain ⟨need, needMem, equal⟩ := List.mem_map.mp listed
        obtain ⟨isMoney, rounds, -⟩ := mem_labelledSides.mp needMem
        have short : 0 < shortage table scope need := by
          have half := paisa_pos
          linarith [money_pos_iff.mp rounds]
        refine ⟨need, isMoney, (congrArg Prod.fst equal).symm, short, ?_⟩
        have rounded : money (shortage table scope need) = row.amount := congrArg Prod.snd equal
        rw [← rounded]
        exact money_of_mem (counts.whole all need isMoney short)
    · intro after result done none
      obtain ⟨reached, gaps⟩ := cover_ok done
      rw [gaps] at none
      rw [reached]
      apply cover_nothing
      intro need member
      exact money_shortage_after member (gaps_nil_iff.mp none need member)
    · intro after result done
      rw [(cover_ok done).1, (cover_ok done).2]
      exact exactly
    · intro problem done
      exact ⟨cover_error done, exactly⟩
    · intro after result done other _ docType doc row member written key
      exact restated_not_covers done docType doc member written key
    · exact once_iff.mpr ⟨counts.oneLedger, counts.oneSide⟩

/-! ## A card payment that settles at the bank -/

/-- A clearing ledger for cards and the bank they settle at, both among the bank accounts. -/
def bankMasters : Masters where
  ledgers := [⟨201, "HDFC card clearing", .BANK⟩, ⟨202, "HDFC current account", .BANK⟩]
  tenders := []

def paymentVoucher : MoneyLineScope where
  voucherId := 900
  companyId := 31
  branchId := 32
  srcModule := none
  srcDocType := none
  srcDocId := none
  partyId := some 71
  bankTender := none
  tenders := []
  docLabel := some "Payment PayV/9"

/-- Five hundred out of the clearing ledger and five hundred out of the bank. -/
def paymentLegs : List MoneyLeg :=
  [⟨some 71, .DR, 1000⟩, ⟨some 201, .CR, 500⟩, ⟨some 202, .CR, 500⟩]

/-- The payment's one tender: five hundred by card. -/
def cardTender : TenderDetail where
  tdId := 5001
  srcModule := .ACCOUNTS
  srcDocType := .OTHER
  srcDocId := 900
  rowNo := 1
  partyLedgerId := 71
  voucherId := some 900
  replacesId := none
  tenderId := 61
  tenderTypeId := 2
  tenderLedgerId := 201
  settleLedgerId := some 202
  drCr := .CR
  amount := 500
  totalAmt := 500
  isDeleted := false

/-- The one tender passes for both lines. -/
theorem cardTender_covers_twice :
    coverMoneyLines bankMasters paymentVoucher paymentLegs [cardTender] =
        .ok ([cardTender], ⟨0, []⟩) ∧
      ¬LabelsOnce bankMasters paymentVoucher paymentLegs [cardTender] := by
  constructor
  · decide +kernel
  · intro sound
    have clearing : ((201, .CR), (500 : Decimal)) ∈ moneySides bankMasters paymentLegs := by
      decide +kernel
    have bank : ((202, .CR), (500 : Decimal)) ∈ moneySides bankMasters paymentLegs := by
      decide +kernel
    have linked : cardTender.isLinked paymentVoucher = true := by decide
    have same := sound.once cardTender List.mem_cons_self (by decide +kernel) _ clearing _ bank
      (Or.inl ⟨linked, by decide, rfl⟩) (Or.inl ⟨linked, by decide, rfl⟩)
    cases same

end ErpServer.Posting
