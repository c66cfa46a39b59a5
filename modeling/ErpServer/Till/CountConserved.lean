import Mathlib.Algebra.Order.BigOperators.Group.Multiset
import Mathlib.Algebra.Order.Ring.Abs
import ErpServer.Lib.ListSum
import ErpServer.Till.Count

/-!
# A drawer count drops and invents nothing

Every counted line lands on exactly one compared row, every expected tender has its row,
and the gaps add up to what was counted less what was expected.
-/

namespace ErpServer.Till.Count

open Lib
open Receipt (Decimal)

/-! ## The expectation rows -/

/-- Rows of distinct tenders, one of them the drawer's, each under the close mode of its
type. -/
structure Expects (types : List AccTenderType) (expectations : List TenderExpectation) :
    Prop where
  distinct : (expectations.map TenderExpectation.key).Nodup
  cash : ∃ drawer, rowsOfType expectations CASH_TENDER_TYPE_ID = [drawer] ∧
    drawer.closeMode = .DENOM
  mode : ∀ row ∈ expectations, row.tenderTypeId ≠ CASH_TENDER_TYPE_ID →
    row.closeMode = (((typeById types).get? row.tenderTypeId).map
      AccTenderType.ttmCloseMode).getD .NONE

theorem foldl_addCash (cash : TenderExpectation) (rows : List TenderTotals) :
    (rows.foldl addCash cash).tenderTypeId = cash.tenderTypeId ∧
      (rows.foldl addCash cash).closeMode = cash.closeMode := by
  induction rows generalizing cash with
  | nil => exact ⟨rfl, rfl⟩
  | cons row rest ih => exact ih (addCash cash row)

/-- What the ledger expects of a session is of that form: its query has one row for each
type and tender. -/
theorem expected_expects (types : List AccTenderType) (cashTender : TillCashTender)
    (floatCounted movedIn movedOut : Decimal) {rows : List TenderTotals}
    (distinct : (rows.map fun row => tenderKey row.typeId row.tenderId).Nodup) :
    Expects types (expected types cashTender floatCounted movedIn movedOut rows) := by
  set drawer := (rows.filter fun row => row.typeId = CASH_TENDER_TYPE_ID).foldl addCash
    (cashRow types cashTender floatCounted movedIn movedOut) with drawerEq
  have drawerType : drawer.tenderTypeId = CASH_TENDER_TYPE_ID :=
    (foldl_addCash _ _).1
  have otherType : ∀ row ∈ (rows.filter fun row => row.typeId ≠ CASH_TENDER_TYPE_ID).map
      (otherRow types), row.tenderTypeId ≠ CASH_TENDER_TYPE_ID := by
    intro row member
    obtain ⟨totals, totalsMem, rfl⟩ := List.mem_map.mp member
    have apart : totals.typeId ≠ CASH_TENDER_TYPE_ID := by
      simpa using (List.mem_filter.mp totalsMem).2
    exact apart
  have shape : expected types cashTender floatCounted movedIn movedOut rows =
      drawer :: (rows.filter fun row => row.typeId ≠ CASH_TENDER_TYPE_ID).map
        (otherRow types) := rfl
  rw [shape]
  constructor
  · rw [List.map_cons, List.nodup_cons]
    constructor
    · intro member
      obtain ⟨row, rowMem, same⟩ := List.mem_map.mp member
      have sameType : row.tenderTypeId = drawer.tenderTypeId := congrArg Prod.fst same
      exact otherType row rowMem (sameType.trans drawerType)
    · rw [List.map_map]
      exact distinct.sublist (List.filter_sublist.map _)
  · refine ⟨drawer, ?_, (foldl_addCash _ _).2⟩
    have others : ((rows.filter fun row => row.typeId ≠ CASH_TENDER_TYPE_ID).map
        (otherRow types)).filter (fun row => row.tenderTypeId = CASH_TENDER_TYPE_ID) = [] := by
      rw [List.filter_eq_nil_iff]
      intro row member
      simpa using otherType row member
    rw [rowsOfType, List.filter_cons, others]
    simp [drawerType]
  · intro row member notCash
    rcases List.mem_cons.mp member with rfl | inside
    · exact (notCash drawerType).elim
    · obtain ⟨totals, -, rfl⟩ := List.mem_map.mp inside
      rfl

/-! ## Where a line lands -/

/-- The key a line is counted under. -/
def placeKey (expectations : List TenderExpectation) (line : PricedLine) : ℕ × String :=
  tenderKey (placeOf expectations line).1 (placeOf expectations line).2

section Lines

variable {types : List AccTenderType} {expectations : List TenderExpectation}

theorem Expects.find_cash (expects : Expects types expectations) :
    ∃ drawer ∈ expectations, drawer.tenderTypeId = CASH_TENDER_TYPE_ID ∧
      drawer.closeMode = .DENOM ∧
      expectations.find? (fun row => row.tenderTypeId = CASH_TENDER_TYPE_ID) = some drawer := by
  obtain ⟨drawer, only, mode⟩ := expects.cash
  have found : expectations.find? (fun row => row.tenderTypeId = CASH_TENDER_TYPE_ID) =
      some drawer := by
    rw [← List.head?_filter]
    unfold rowsOfType at only
    rw [only]
    rfl
  exact ⟨drawer, List.mem_of_find?_eq_some found, by simpa using List.find?_some found, mode,
    found⟩

theorem placeOf_type (expects : Expects types expectations) (line : PricedLine) :
    (placeOf expectations line).1 = line.tenderTypeId := by
  obtain ⟨drawer, -, drawerType, -, found⟩ := expects.find_cash
  unfold placeOf
  by_cases cash : line.tenderTypeId = CASH_TENDER_TYPE_ID
  · rw [if_pos cash, found]
    exact drawerType.trans cash.symm
  · rw [if_neg cash]
    split <;> rfl

/-- A slip line that names no tender goes to the only row of its type. -/
theorem placeKey_only {line : PricedLine} (slip : line.tenderTypeId ≠ CASH_TENDER_TYPE_ID)
    (unnamed : sent line.tenderId = none) {only : TenderExpectation}
    (alone : rowsOfType expectations line.tenderTypeId = [only]) :
    placeKey expectations line = only.key := by
  have typeEq : only.tenderTypeId = line.tenderTypeId := by
    have member : only ∈ rowsOfType expectations line.tenderTypeId := by simp [alone]
    simpa using (List.mem_filter.mp member).2
  simp only [placeKey, placeOf, slip, if_false, unnamed, alone]
  rw [TenderExpectation.key, typeEq]

/-! ## The counted tenders -/

/-- The lines counted under a key, added up. -/
def countedUnder (expectations : List TenderExpectation) (lines : List PricedLine)
    (key : ℕ × String) : Decimal :=
  ((lines.filter fun line => placeKey expectations line = key).map PricedLine.amount).sum

/-- The map built so far: distinct keys, each entry under its own key, one for each key a
line landed on, carrying what the lines of the key add to. -/
structure CountedSoFar (expectations : List TenderExpectation) (lines : List PricedLine)
    (counted : OrderedMap (ℕ × String) CountedTender) : Prop where
  nodup : counted.keys.Nodup
  own : ∀ entry ∈ counted.entries,
    tenderKey entry.2.tenderTypeId entry.2.tenderId = entry.1
  keys : ∀ key, key ∈ counted.keys ↔ ∃ line ∈ lines, placeKey expectations line = key
  amount : ∀ key, (counted.get? key).elim 0 CountedTender.amount =
    countedUnder expectations lines key

/-- The entry of a line's key, with the line added. -/
def withLine (expectations : List TenderExpectation)
    (counted : OrderedMap (ℕ × String) CountedTender) (line : PricedLine) : CountedTender :=
  let place := placeOf expectations line
  let row := (counted.get? (placeKey expectations line)).getD ⟨place.1, place.2, 0, 0⟩
  { row with amount := row.amount + line.amount, slips := row.slips + slipsOf line }

theorem addCounted_eq (expectations : List TenderExpectation)
    (counted : OrderedMap (ℕ × String) CountedTender) (line : PricedLine) :
    addCounted expectations counted line =
      counted.set (placeKey expectations line) (withLine expectations counted line) := rfl

theorem withLine_amount (expectations : List TenderExpectation)
    (counted : OrderedMap (ℕ × String) CountedTender) (line : PricedLine) :
    (withLine expectations counted line).amount =
      (counted.get? (placeKey expectations line)).elim 0 CountedTender.amount + line.amount := by
  unfold withLine
  cases counted.get? (placeKey expectations line) <;> rfl

theorem CountedSoFar.add {lines : List PricedLine}
    {counted : OrderedMap (ℕ × String) CountedTender}
    (soFar : CountedSoFar expectations lines counted) (line : PricedLine) :
    CountedSoFar expectations (lines ++ [line]) (addCounted expectations counted line) := by
  rw [addCounted_eq]
  constructor
  · exact OrderedMap.keys_set_nodup soFar.nodup _ _
  · intro entry member
    rcases OrderedMap.mem_entries_set member with rfl | stood
    · unfold withLine
      cases found : counted.get? (placeKey expectations line) with
      | none => rfl
      | some held =>
          have owned := soFar.own _ (OrderedMap.mem_of_get? found)
          exact owned
    · exact soFar.own entry stood
  · intro key
    rw [OrderedMap.mem_keys_set, soFar.keys]
    simp only [List.mem_append, List.mem_singleton, or_and_right, exists_or, exists_eq_left]
    rw [or_comm, eq_comm (a := key)]
  · intro key
    rw [countedUnder, List.filter_append, List.map_append, List.sum_append, ← countedUnder,
      ← soFar.amount key, OrderedMap.get?_set]
    by_cases same : key = placeKey expectations line
    · subst same
      simp [withLine_amount]
    · simp [same, Ne.symm same]

theorem countedByTender_soFar (expectations : List TenderExpectation) (lines : List PricedLine) :
    CountedSoFar expectations lines (countedByTender lines expectations) := by
  induction lines using List.reverseRecOn with
  | nil =>
      constructor
      · simp [countedByTender]
      · intro entry member
        cases member
      · intro key
        simp [countedByTender]
      · intro key
        rfl
  | append_singleton lines line ih =>
      rw [countedByTender, List.foldl_append]
      exact ih.add line

end Lines

/-! ## What the checks leave -/

theorem forM_ok {ι : Type*} {check : ι → Except CountError Unit} {items : List ι}
    (passed : items.forM check = .ok ()) : ∀ item ∈ items, check item = .ok () := by
  induction items with
  | nil => simp
  | cons item rest ih =>
      rw [List.forM_eq_forM, List.forM_cons] at passed
      obtain ⟨_, first, others⟩ := Fold.bind_eq_ok passed
      intro other member
      rcases List.mem_cons.mp member with rfl | inside
      · exact first
      · exact ih others other inside

variable {lines : List TillCountLineInput} {line : TillCountLineInput}
variable {denominations : List TillDenomination}

/-- The type of a line that passed is counted at the till. -/
theorem countable_of_passed {types : List AccTenderType}
    (passed : assertCountable types lines = .ok ()) (member : line ∈ lines) :
    ∃ type, (typeById types).get? line.tenderTypeId = some type ∧
      type.ttmCloseMode.countable = true := by
  obtain ⟨index, inside, rfl⟩ := List.mem_iff_getElem.mp member
  have placed : (lines[index], index) ∈ lines.zipIdx := by
    rw [List.mem_zipIdx_iff_getElem?]
    exact List.getElem?_eq_getElem inside
  have checked := forM_ok passed _ placed
  unfold checkCountable at checked
  cases found : (typeById types).get? lines[index].tenderTypeId with
  | none => simp [found] at checked
  | some type =>
      refine ⟨type, rfl, ?_⟩
      by_contra uncounted
      simp [found, uncounted] at checked

theorem priceLine_base {index : ℕ} {priced : PricedLine}
    (ok : priceLine denominations index line = .ok priced) :
    priced.toTillCountLineInput = line := by
  unfold priceLine at ok
  repeat' split at ok
  all_goals cases ok
  all_goals rfl

theorem priceLines_base {priced : List PricedLine}
    (ok : priceLines denominations lines = .ok priced) {line : PricedLine} (member : line ∈ priced) :
    line.toTillCountLineInput ∈ lines := by
  obtain ⟨entry, entryMem, each⟩ := Fold.forall₂_right (Fold.mapM_ok.mp ok) member
  rw [priceLine_base each]
  exact List.mem_of_getElem? (List.mem_zipIdx_iff_getElem?.mp entryMem)

/-! ## The rows of a count -/

/-- The close mode of a line's type. -/
def lineCountable (types : List AccTenderType) (line : PricedLine) : Bool :=
  ((typeById types).get? line.tenderTypeId).any fun type => type.ttmCloseMode.countable

def ComparedRow.countable (row : ComparedRow) : Bool := row.expectation.closeMode.countable

/-- What was counted on a row, nothing where nothing is counted. -/
def ComparedRow.amount (row : ComparedRow) : Decimal := row.counted.getD 0

/-- The rows that are counted. -/
def countedRows (rows : List ComparedRow) : List ComparedRow := rows.filter ComparedRow.countable

structure Conserves (types : List AccTenderType) (expectations : List TenderExpectation)
    (lines : List PricedLine) (rows : List ComparedRow) : Prop where
  /-- Each expectation row once, then each unexpected key once. -/
  carried : ∃ extra, rows.map ComparedRow.expectation = expectations ++ extra ∧
    ((expectations ++ extra).map TenderExpectation.key).Nodup ∧
    ∀ key, key ∈ extra.map TenderExpectation.key ↔
      key ∉ expectations.map TenderExpectation.key ∧
        ∃ line ∈ lines, placeKey expectations line = key
  total : (rows.map ComparedRow.amount).sum =
    ((lines.filter (lineCountable types)).map PricedLine.amount).sum
  /-- A row carries the lines of its key, and no other. -/
  each : ∀ row ∈ rows, row.amount = countedUnder expectations lines row.expectation.key
  /-- A slip line that names no tender is on the only row of its type. -/
  only : ∀ line ∈ lines, line.tenderTypeId ≠ CASH_TENDER_TYPE_ID → sent line.tenderId = none →
    ∀ row, rowsOfType expectations line.tenderTypeId = [row] →
      placeKey expectations line = row.key
  gap : ((countedRows rows).map ComparedRow.variance).sum =
    ((countedRows rows).map ComparedRow.amount).sum -
      ((countedRows rows).map fun row => row.expectation.expected).sum
  within : (∀ row ∈ rows, row.within = true) →
    ((countedRows rows).map fun row => |row.variance|).sum ≤
        ((countedRows rows).map ComparedRow.tolerance).sum ∧
      |((countedRows rows).map ComparedRow.variance).sum| ≤
        ((countedRows rows).map ComparedRow.tolerance).sum

section Compared

variable {types : List AccTenderType} {expectations : List TenderExpectation}
  {settings : CountSettings} {lines : List PricedLine}

theorem compareExpected_expectation (settings : CountSettings)
    (counted : OrderedMap (ℕ × String) CountedTender) (row : TenderExpectation) :
    (compareExpected settings counted row).expectation = row := by
  unfold compareExpected
  split <;> rfl

variable {row : ComparedRow}

/-- A row of the comparison that is counted: its gap, and when it is within. -/
theorem compare_row {counted : OrderedMap (ℕ × String) CountedTender}
    (member : row ∈ compare expectations counted settings) (countable : row.countable = true) :
    row.variance = row.amount - row.expectation.expected ∧
      (row.within = true → |row.variance| ≤ row.tolerance) := by
  rcases List.mem_append.mp member with known | extra
  · obtain ⟨expectation, -, rfl⟩ := List.mem_map.mp known
    rw [ComparedRow.countable, compareExpected_expectation] at countable
    constructor
    · simp [compareExpected, countable, ComparedRow.amount]
    · intro within
      simpa [compareExpected, countable] using within
  · obtain ⟨entry, -, rfl⟩ := List.mem_map.mp extra
    constructor
    · simp [compareOrphan, ComparedRow.amount, orphan, TenderExpectation.expected]
    · intro within
      simpa [compareOrphan] using within

theorem compare_keys (counted : OrderedMap (ℕ × String) CountedTender)
    (own : ∀ entry ∈ counted.entries,
      tenderKey entry.2.tenderTypeId entry.2.tenderId = entry.1) :
    ((unexpected expectations counted).map fun entry => orphan entry.2).map
        TenderExpectation.key =
      (unexpected expectations counted).map Prod.fst := by
  rw [List.map_map]
  exact List.map_congr_left fun entry member => own entry (List.mem_of_mem_filter member)

/-- The rows carry each expectation row once and each unexpected key once. -/
theorem compare_carried (expects : Expects types expectations) :
    ∃ extra, (compare expectations (countedByTender lines expectations) settings).map
        ComparedRow.expectation = expectations ++ extra ∧
      ((expectations ++ extra).map TenderExpectation.key).Nodup ∧
      ∀ key, key ∈ extra.map TenderExpectation.key ↔
        key ∉ expectations.map TenderExpectation.key ∧
          ∃ line ∈ lines, placeKey expectations line = key := by
  have soFar := countedByTender_soFar expectations lines
  set counted := countedByTender lines expectations with countedEq
  have keysEq := @compare_keys expectations counted soFar.own
  refine ⟨(unexpected expectations counted).map fun entry => orphan entry.2, ?_, ?_, ?_⟩
  · rw [compare, List.map_append, List.map_map, List.map_map]
    congr 1
    exact (List.map_congr_left fun row _ => compareExpected_expectation settings counted row).trans
      (List.map_id _)
  · rw [List.map_append, keysEq, List.nodup_append]
    refine ⟨expects.distinct, soFar.nodup.sublist (List.filter_sublist.map _), ?_⟩
    intro key known other extra same
    subst same
    obtain ⟨entry, entryMem, rfl⟩ := List.mem_map.mp extra
    simpa [known] using (List.mem_filter.mp entryMem).2
  · intro key
    rw [keysEq, ← soFar.keys key]
    constructor
    · intro member
      obtain ⟨entry, entryMem, rfl⟩ := List.mem_map.mp member
      obtain ⟨inside, apart⟩ := List.mem_filter.mp entryMem
      exact ⟨by simpa using apart, List.mem_map_of_mem inside⟩
    · rintro ⟨apart, member⟩
      obtain ⟨entry, entryMem, rfl⟩ := List.mem_map.mp member
      exact List.mem_map_of_mem (List.mem_filter.mpr ⟨entryMem, by simpa using apart⟩)

/-- Each row carries the lines of its key: a row that is not counted has none. -/
theorem compare_each (expects : Expects types expectations)
    (countable : ∀ line ∈ lines, lineCountable types line = true)
    (member : row ∈ compare expectations (countedByTender lines expectations) settings) :
    row.amount = countedUnder expectations lines row.expectation.key := by
  have soFar := countedByTender_soFar expectations lines
  rcases List.mem_append.mp member with known | extra
  · obtain ⟨expectation, expectationMem, rfl⟩ := List.mem_map.mp known
    rw [compareExpected_expectation, ← soFar.amount]
    by_cases mode : expectation.closeMode.countable = true
    · simp only [compareExpected, mode, if_true, ComparedRow.amount, Option.getD_some]
      cases (countedByTender lines expectations).get? expectation.key <;> rfl
    · -- No line of a countable type lands on a row that is not counted.
      have apart : ∀ line ∈ lines, placeKey expectations line ≠ expectation.key := by
        intro line lineMem same
        have sameType : line.tenderTypeId = expectation.tenderTypeId :=
          (placeOf_type expects line).symm.trans (congrArg Prod.fst same)
        obtain ⟨drawer, drawerOnly, drawerMode⟩ := expects.cash
        by_cases cash : expectation.tenderTypeId = CASH_TENDER_TYPE_ID
        · have inside : expectation ∈ rowsOfType expectations CASH_TENDER_TYPE_ID :=
            List.mem_filter.mpr ⟨expectationMem, by simpa using cash⟩
          rw [drawerOnly, List.mem_singleton] at inside
          subst inside
          exact mode (by rw [drawerMode]; rfl)
        · have typed := expects.mode expectation expectationMem cash
          have counted := countable line lineMem
          rw [lineCountable, sameType] at counted
          cases found : (typeById types).get? expectation.tenderTypeId with
          | none => simp [found] at counted
          | some type =>
              rw [found] at typed counted
              exact mode (typed ▸ counted)
      have absent : (countedByTender lines expectations).get? expectation.key = none := by
        rw [Option.eq_none_iff_forall_ne_some]
        intro value found
        obtain ⟨line, lineMem, same⟩ := (soFar.keys expectation.key).mp
          ((OrderedMap.mem_keys_iff _ _).mpr ⟨value, found⟩)
        exact apart line lineMem same
      simp [compareExpected, mode, ComparedRow.amount, absent]
  · obtain ⟨entry, entryMem, rfl⟩ := List.mem_map.mp extra
    have inside := List.mem_of_mem_filter entryMem
    have key : (orphan entry.2).key = entry.1 := soFar.own entry inside
    have found := OrderedMap.get?_of_mem soFar.nodup (show (entry.1, entry.2) ∈ _ from inside)
    have amount := soFar.amount entry.1
    rw [found, Option.elim_some] at amount
    simpa [compareOrphan, ComparedRow.amount, key] using amount

/-- Every counted rupee is on a row, once. -/
theorem compare_total (expects : Expects types expectations)
    (countable : ∀ line ∈ lines, lineCountable types line = true) :
    ((compare expectations (countedByTender lines expectations) settings).map
        ComparedRow.amount).sum = (lines.map PricedLine.amount).sum := by
  obtain ⟨extra, rowsEq, distinct, extraKeys⟩ :=
    @compare_carried types expectations settings lines expects
  set rows := compare expectations (countedByTender lines expectations) settings with rowsDef
  have rowKeys : (rows.map fun row => row.expectation.key).Nodup := by
    rw [← rowsEq, List.map_map] at distinct
    exact distinct
  have owned : ∀ line ∈ lines, ∃ row ∈ rows,
      some (placeKey expectations line) = some row.expectation.key := by
    intro line lineMem
    have inside : placeKey expectations line ∈
        (expectations ++ extra).map TenderExpectation.key := by
      rw [List.map_append, List.mem_append]
      by_cases known : placeKey expectations line ∈ expectations.map TenderExpectation.key
      · exact Or.inl known
      · exact Or.inr ((extraKeys _).mpr ⟨known, line, lineMem, rfl⟩)
    rw [← rowsEq, List.map_map] at inside
    obtain ⟨row, rowMem, same⟩ := List.mem_map.mp inside
    exact ⟨row, rowMem, congrArg some same.symm⟩
  rw [ListSum.sum_by_owner rowKeys PricedLine.amount owned]
  congr 1
  refine List.map_congr_left fun row rowMem => ?_
  rw [compare_each expects countable rowMem, countedUnder]
  simp

end Compared

/-- What a count's rows carry is what its lines counted, row by row and in all. -/
theorem count_conserves (types : List AccTenderType) (denominations : List TillDenomination)
    (settings : CountSettings) (expectations : List TenderExpectation)
    (lines : List TillCountLineInput) (priced : List PricedLine) (rows : List ComparedRow)
    (expects : Expects types expectations)
    (counted : countRows types denominations settings expectations lines = .ok (priced, rows)) :
    Conserves types expectations priced rows := by
  unfold countRows at counted
  obtain ⟨pricedLines, pricedOk, counted⟩ := Fold.bind_eq_ok counted
  obtain ⟨_, countableOk, counted⟩ := Fold.bind_eq_ok counted
  obtain ⟨_, -, counted⟩ := Fold.bind_eq_ok counted
  cases counted
  have countable : ∀ line ∈ priced, lineCountable types line = true := by
    intro line member
    obtain ⟨type, found, mode⟩ := countable_of_passed countableOk (priceLines_base pricedOk member)
    simp [lineCountable, found, mode]
  set rows := compare expectations (countedByTender priced expectations) settings with rowsEq
  have tolerated (within : ∀ row ∈ rows, row.within = true) :
      ((countedRows rows).map fun row => |row.variance|).sum ≤
        ((countedRows rows).map ComparedRow.tolerance).sum := by
    refine List.sum_le_sum fun row member => ?_
    obtain ⟨inside, mode⟩ := List.mem_filter.mp member
    exact (compare_row inside mode).2 (within row inside)
  constructor
  · exact compare_carried expects
  · rw [compare_total expects countable, List.filter_eq_self.mpr countable]
  · exact fun row member => compare_each expects countable member
  · exact fun line _ slip unnamed row alone => placeKey_only slip unnamed alone
  · rw [← ListSum.sum_map_sub]
    congr 1
    refine List.map_congr_left fun row member => ?_
    obtain ⟨inside, mode⟩ := List.mem_filter.mp member
    exact (compare_row inside mode).1
  · intro within
    refine ⟨tolerated within, le_trans ?_ (tolerated within)⟩
    have bounded := Multiset.abs_sum_le_sum_abs
      (s := (((countedRows rows).map ComparedRow.variance : List Decimal) : Multiset Decimal))
    simpa [Function.comp_def] using bounded

/-! ### An evening's count -/

def counterTypes : List AccTenderType :=
  [⟨1, "CASH", .DENOM⟩, ⟨2, "CARD", .SLIPS⟩, ⟨6, "GIFT VOUCHER", .SLIPS⟩]

def drawerTender : TillCashTender := ⟨"till-cash", "Till cash", "ledger-cash"⟩

/-- A float of 500, cash sales of 120, card sales of 80. -/
def eveningExpected : List TenderExpectation :=
  expected counterTypes drawerTender 500 0 0
    [⟨1, some "till-cash", none, none, 120, 0, 0, 0, 0, 3, 0⟩,
      ⟨2, some "terminal", none, none, 80, 0, 0, 0, 0, 2, 0⟩]

/-- Cash twice, a card batch that names no terminal, a gift voucher nobody expected. -/
def eveningLines : List TillCountLineInput :=
  [⟨1, none, none, 0, 600, none⟩, ⟨2, none, none, 2, 80, none⟩, ⟨1, none, none, 0, 15, none⟩,
    ⟨6, some "voucher", none, 1, 25, none⟩]

def eveningPriced : List PricedLine := eveningLines.map fun line => ⟨line, 0, line.enteredAmount⟩

def eveningRows : List ComparedRow :=
  compare eveningExpected (countedByTender eveningPriced eveningExpected) ⟨10, 1, true⟩

theorem evening_conserves : Conserves counterTypes eveningExpected eveningPriced eveningRows :=
  count_conserves counterTypes [] ⟨10, 1, true⟩ eveningExpected eveningLines eveningPriced
    eveningRows (expected_expects counterTypes drawerTender 500 0 0 (by decide)) (by rfl)

example : eveningRows.map ComparedRow.amount = [615, 80, 25] := by decide +kernel

end ErpServer.Till.Count
