import ErpServer.Receipt.Rows

/-!
# What the deductions reserve

Whatever a deduction places on a bill leaves the bill's capacity and appears as a
row of that bill and of that line.  A pinned line is placed whole; an unpinned one
is placed as far as the bills have room, and the rest is the overflow.
-/

namespace ErpServer.Receipt

open Lib Lib.Fold

/-- A weight of lines, read off the line a row came from. -/
def byLine (weight : ℕ → Decimal) (row : AllocationAdjustment) : Decimal :=
  (row.otherLineNo.map weight).getD 0

/-- A row some deduction line left on some bill. -/
def IsDeductionRow (input : AllocationInput) (sides : Sides) (row : AllocationAdjustment) : Prop :=
  ∃ bill ∈ input.bills, ∃ line ∈ deductionsOf input sides, ∃ amount, Figure amount ∧
    row = deductionRow input sides bill line amount

/-- The state of the reservation: nothing is lost between the capacity of a bill
and the rows that name it. -/
structure Reserves (input : AllocationInput) (sides : Sides) (state : Reserved) : Prop where
  conserved : ∀ weight : BillRef → Decimal,
    rowTotal (fun row => weight row.ref) state.rows +
      Pour.weighted (fun bill => weight bill.ref) state.capacity =
        Pour.weighted (fun bill => weight bill.ref) (initialCapacity input.bills)
  holders : state.capacity.map Pour.Level.holder = input.bills
  figures : ∀ room ∈ state.capacity, Figure room.remaining
  rows : ∀ row ∈ state.rows, IsDeductionRow input sides row

namespace Reserves

variable {input : AllocationInput} {sides : Sides} {state : Reserved}

theorem length_capacity (reserves : Reserves input sides state) :
    state.capacity.length = input.bills.length := by
  rw [← reserves.holders, List.length_map]

theorem holder_mem (reserves : Reserves input sides state) {room : Room}
    (member : room ∈ state.capacity) : room.holder ∈ input.bills := by
  rw [← reserves.holders]
  exact List.mem_map_of_mem member

theorem sum_remaining (reserves : Reserves input sides state) :
    sum (state.capacity.map Pour.Level.remaining) = Pour.total state.capacity := by
  refine sum_of_mem fun value member => ?_
  obtain ⟨room, roomMem, rfl⟩ := List.mem_map.mp member
  exact (reserves.figures room roomMem).exact

theorem figure_total (reserves : Reserves input sides state) :
    Figure (Pour.total state.capacity) := .sumMap reserves.figures

theorem withOverflow (reserves : Reserves input sides state) (overflow : Decimal) :
    Reserves input sides { state with overflow := overflow } :=
  ⟨reserves.conserved, reserves.holders, reserves.figures, reserves.rows⟩

/-- Every deduction row came from some line. -/
theorem rowTotal_one (reserves : Reserves input sides state) :
    rowTotal (byLine fun _ => 1) state.rows = rowTotal (fun _ => 1) state.rows := by
  refine rowTotal_congr fun row member => ?_
  obtain ⟨bill, -, line, -, amount, -, rfl⟩ := reserves.rows row member
  rfl

/-- Seen as a whole: what the rows come to and what is left of the bills. -/
theorem total (reserves : Reserves input sides state) (exact : TwoPlaces input) :
    rowTotal (fun _ => 1) state.rows + Pour.total state.capacity = totalOfBills input := by
  have all := reserves.conserved fun _ => 1
  rw [Pour.weighted_one, Pour.weighted_one] at all
  rw [all, totalOfBills, Pour.total, initialCapacity, List.map_map]
  exact congrArg List.sum (List.map_congr_left fun bill member =>
    (exact.billAmount bill member).money)

end Reserves

theorem reserves_initial {input : AllocationInput} (sides : Sides) (exact : TwoPlaces input) :
    Reserves input sides ⟨initialCapacity input.bills, [], 0⟩ where
  conserved weight := by simp
  holders := by simp [initialCapacity, Function.comp_def]
  figures room member := by
    obtain ⟨bill, billMem, rfl⟩ := List.mem_map.mp member
    rw [(exact.billAmount bill billMem).money]
    exact exact.billAmount bill billMem
  rows := by simp

/-! ## Placing an amount -/

/-- One or more placements of a line came to `amount`. -/
structure Places (input : AllocationInput) (sides : Sides) (line : AllocationOtherLine)
    (amount : Decimal) (before after : Reserved) : Prop where
  reserves : Reserves input sides after
  lines : ∀ weight : ℕ → Decimal, rowTotal (byLine weight) after.rows =
    rowTotal (byLine weight) before.rows + weight line.lineNo * amount
  overflow : after.overflow = before.overflow

section Placing

variable {input : AllocationInput} {sides : Sides} {line : AllocationOtherLine}

theorem Places.refl {state : Reserved} (reserves : Reserves input sides state) :
    Places input sides line 0 state state := ⟨reserves, by simp, rfl⟩

variable {after before : Reserved} {index : ℕ}

theorem Places.trans {first second : Decimal} {middle : Reserved}
    (earlier : Places input sides line first before middle)
    (later : Places input sides line second middle after) :
    Places input sides line (first + second) before after where
  reserves := later.reserves
  lines weight := by rw [later.lines, earlier.lines]; ring
  overflow := later.overflow.trans earlier.overflow

variable {amount : Decimal} {field : String}

theorem takeFromBill_ok {capacity after : List Room} {room : Room}
    (run : takeFromBill capacity index room amount field = .ok after) : amount ≤ room.remaining ∧
      after = capacity.set index ⟨room.holder, room.remaining - amount⟩ := by
  unfold takeFromBill at run
  split at run
  · cases run
  next fits => exact ⟨not_lt.mp fits, (Except.ok.inj run).symm⟩

theorem placeDeduction_places
    (run : placeDeduction input sides line field before index amount = .ok after)
    (reserves : Reserves input sides before) (inBounds : index < input.bills.length)
    (member : line ∈ deductionsOf input sides) (figure : Figure amount) :
    Places input sides line amount before after := by
  have inRange : index < before.capacity.length := by rwa [reserves.length_capacity]
  obtain ⟨room, atIndex⟩ : ∃ room, before.capacity[index]? = some room :=
    ⟨_, List.getElem?_eq_getElem inRange⟩
  have roomMem : room ∈ before.capacity := List.mem_of_getElem? atIndex
  simp only [placeDeduction, atIndex] at run
  obtain ⟨capacity, taken, run⟩ := bind_eq_ok run
  obtain ⟨fits, rfl⟩ := takeFromBill_ok taken
  obtain rfl := Except.ok.inj run
  refine ⟨⟨fun weight => ?_, ?_, fun other otherMem => ?_, fun row rowMem => ?_⟩,
    fun weight => ?_, rfl⟩
  · have lowered := Pour.weighted_set (fun bill : AllocationBill => weight bill.ref)
      before.capacity atIndex amount
    have sameBill : (deductionRow input sides room.holder line amount).ref = room.holder.ref := rfl
    rw [← reserves.conserved weight, ← lowered, rowTotal_append, rowTotal_cons, rowTotal_nil,
      sameBill]
    simp only [deductionRow]
    ring
  · rw [← reserves.holders, List.map_set]
    refine List.ext_getElem? fun position => ?_
    rw [List.getElem?_set]
    split
    next equal =>
      subst equal
      rw [List.getElem?_map, atIndex]
      simpa using (List.getElem?_eq_some_iff.mp atIndex).1
    next => rfl
  · rcases List.mem_or_eq_of_mem_set otherMem with old | rfl
    · exact reserves.figures other old
    · exact (reserves.figures room roomMem).sub figure fits
  · rcases List.mem_append.mp rowMem with old | new
    · exact reserves.rows row old
    · obtain rfl := List.mem_singleton.mp new
      exact ⟨room.holder, reserves.holder_mem roomMem, line, member, amount, figure, rfl⟩
  · simp [byLine, deductionRow]

/-! ## Pinned lines -/

theorem mem_deductionsOf (member : line ∈ deductionsOf input sides) :
    line ∈ input.otherLines := List.mem_of_mem_filter member

/-- The index the map gives a key is the position of a bill. -/
theorem billIndex_lt {bills : List AllocationBill} {key : String}
    (found : (billIndex bills).get? key = some index) : index < bills.length := by
  have entry := OrderedMap.mem_of_get?_ofList found
  simp only [List.mem_mapIdx, Prod.mk.injEq] at entry
  obtain ⟨position, inBounds, -, rfl⟩ := entry
  exact inBounds

theorem placePin_places {pin : AllocationPin}
    (run : placePin input sides line before pin = .ok after)
    (reserves : Reserves input sides before) (member : line ∈ deductionsOf input sides)
    (figure : Figure pin.amount) : Places input sides line pin.amount before after := by
  unfold placePin at run
  split at run
  · cases run
  next index found =>
    rw [figure.money] at run
    exact placeDeduction_places run reserves (billIndex_lt found) member figure

theorem foldlM_placePin_places {pins : List AllocationPin}
    (run : pins.foldlM (placePin input sides line) before = .ok after)
    (reserves : Reserves input sides before) (member : line ∈ deductionsOf input sides)
    (figures : ∀ pin ∈ pins, Figure pin.amount) :
    Places input sides line (pins.map AllocationPin.amount).sum before after := by
  refine foldlM_invariant run (motive := fun done state =>
    Places input sides line (done.map AllocationPin.amount).sum before state) ?_ ?_
  · exact .refl reserves
  · intro done pin state next pinMem held step
    have placed := placePin_places step held.reserves member (figures pin pinMem)
    simpa using held.trans placed

/-- What a pinned line had to satisfy. -/
structure PinnedLine (input : AllocationInput) (sides : Sides) (lineNo : ℕ)
    (pins : List AllocationPin) (line : AllocationOtherLine) : Prop where
  member : line ∈ deductionsOf input sides
  number : line.lineNo = lineNo
  whole : (pins.map AllocationPin.amount).sum = line.amount

theorem reservePinned_places {entry : ℕ × List AllocationPin}
    (run : reservePinned input sides before entry = .ok after) (exact : TwoPlaces input)
    (reserves : Reserves input sides before) (figures : ∀ pin ∈ entry.2, Figure pin.amount) :
    ∃ line, PinnedLine input sides entry.1 entry.2 line ∧
      Places input sides line line.amount before after := by
  unfold reservePinned at run
  split at run
  · cases run
  next line found =>
    split at run
    · cases run
    next whole =>
      have member := List.mem_of_find?_eq_some found
      have number : line.lineNo = entry.1 := by simpa using List.find?_some found
      rw [not_not, pinnedTotal, sum_money_map figures,
        (exact.lineAmount line (mem_deductionsOf member)).money] at whole
      refine ⟨line, ⟨member, number, whole⟩, ?_⟩
      rw [← whole]
      exact foldlM_placePin_places run reserves member figures

end Placing

section Pins

variable {input : AllocationInput} {sides : Sides}

/-- The pins reserved: the rows of the lines are the pins, and every group of pins
is a whole deduction line. -/
structure PinsReserved (input : AllocationInput) (sides : Sides) (pinned : Reserved) : Prop where
  reserves : Reserves input sides pinned
  noOverflow : pinned.overflow = 0
  lines : ∀ weight : ℕ → Decimal, rowTotal (byLine weight) pinned.rows =
    ((groupPins input.pins).entries.map fun entry =>
      weight entry.1 * (entry.2.map AllocationPin.amount).sum).sum
  whole : ∀ entry ∈ (groupPins input.pins).entries,
    ∃ line, PinnedLine input sides entry.1 entry.2 line

variable {pinned : Reserved}

theorem reservePins_ok (exact : TwoPlaces input)
    (run : reservePins input sides (initialCapacity input.bills) = .ok pinned) :
    PinsReserved input sides pinned := by
  have figures : ∀ entry ∈ (groupPins input.pins).entries, ∀ pin ∈ entry.2, Figure pin.amount :=
    fun entry member pin inGroup =>
      exact.pinAmount pin (OrderedMap.mem_of_mem_groupBy _ member inGroup).1
  have done := foldlM_invariant run (motive := fun done state =>
    Reserves input sides state ∧ state.overflow = 0 ∧
      (∀ weight : ℕ → Decimal, rowTotal (byLine weight) state.rows =
        (done.map fun entry => weight entry.1 * (entry.2.map AllocationPin.amount).sum).sum) ∧
      ∀ entry ∈ done, ∃ line, PinnedLine input sides entry.1 entry.2 line)
    ⟨reserves_initial sides exact, rfl, fun weight => rfl, by simp⟩ ?_
  · exact ⟨done.1, done.2.1, done.2.2.1, done.2.2.2⟩
  · rintro done entry state next member ⟨reserves, overflow, lines, whole⟩ step
    obtain ⟨line, isPinned, places⟩ :=
      reservePinned_places step exact reserves (figures entry member)
    refine ⟨places.reserves, places.overflow.trans overflow, fun weight => ?_, ?_⟩
    · rw [places.lines, lines, isPinned.number, ← isPinned.whole]
      simp
    · simp only [List.forall_mem_append, List.forall_mem_singleton]
      exact ⟨whole, line, isPinned⟩

def isPinned (input : AllocationInput) (line : AllocationOtherLine) : Bool :=
  (groupPins input.pins).has line.lineNo

theorem isPinned_iff (line : AllocationOtherLine) :
    isPinned input line = true ↔ line.lineNo ∈ input.pins.map AllocationPin.lineNo := by
  rw [isPinned, OrderedMap.has, ← OrderedMap.mem_keys_groupBy, OrderedMap.mem_keys_iff,
    Option.isSome_iff_exists]
  rfl

/-- What is pinned, line by line, is what the pinned deduction lines amount to. -/
theorem PinsReserved.lines_eq (reserved : PinsReserved input sides pinned)
    (distinct : DistinctLines input) (weight : ℕ → Decimal) : rowTotal (byLine weight) pinned.rows =
      (((deductionsOf input sides).filter (isPinned input)).map fun line =>
        weight line.lineNo * line.amount).sum := by
  rw [reserved.lines]
  have sublist : ((deductionsOf input sides).filter (isPinned input)).Sublist input.otherLines :=
    List.filter_sublist.trans List.filter_sublist
  have keys : ((groupPins input.pins).entries.map Prod.fst).Nodup :=
    OrderedMap.keys_groupBy_nodup _ _
  have numbers : (((deductionsOf input sides).filter (isPinned input)).map
      AllocationOtherLine.lineNo).Nodup := distinct.sublist (sublist.map _)
  refine ListSum.sum_eq_of_keys keys numbers (fun lineNo => ?_) ?_
  · constructor
    · intro member
      obtain ⟨entry, entryMem, rfl⟩ := List.mem_map.mp member
      obtain ⟨line, isLine⟩ := reserved.whole entry entryMem
      refine List.mem_map.mpr ⟨line, List.mem_filter.mpr ⟨isLine.member, ?_⟩, isLine.number⟩
      rw [isPinned_iff, isLine.number, ← OrderedMap.mem_keys_groupBy]
      exact member
    · intro member
      obtain ⟨line, lineMem, rfl⟩ := List.mem_map.mp member
      rw [List.mem_filter, isPinned_iff, ← OrderedMap.mem_keys_groupBy] at lineMem
      exact lineMem.2
  · intro entry entryMem line lineMem keyEq
    obtain ⟨other, isLine⟩ := reserved.whole entry entryMem
    have same : other = line := by
      refine List.inj_on_of_nodup_map distinct (mem_deductionsOf isLine.member)
        (sublist.subset lineMem) (isLine.number.trans keyEq)
    rw [isLine.whole, same, keyEq]

end Pins

/-! ## Unpinned lines -/

section Spread

variable {input : AllocationInput} {sides : Sides} {line : AllocationOtherLine}

variable {before : Reserved}

variable {after : Reserved}

theorem placeShare_places {entry : Decimal × ℕ}
    (run : placeShare input sides line before entry = .ok after)
    (reserves : Reserves input sides before) (member : line ∈ deductionsOf input sides)
    (inBounds : entry.2 < input.bills.length) (figure : Figure entry.1) :
    Places input sides line entry.1 before after := by
  unfold placeShare at run
  split at run
  next zero =>
    obtain rfl := Except.ok.inj run
    rw [zero]
    exact .refl reserves
  next => exact placeDeduction_places run reserves inBounds member figure

/-- What spreading one unpinned line does: it places what there is room for. -/
structure SpreadsLine (input : AllocationInput) (sides : Sides) (line : AllocationOtherLine)
    (before after : Reserved) (placed : Decimal) : Prop where
  figure : Figure placed
  reserves : Reserves input sides after
  lines : ∀ weight : ℕ → Decimal, rowTotal (byLine weight) after.rows =
    rowTotal (byLine weight) before.rows + weight line.lineNo * placed
  placed_eq : placed = min line.amount (Pour.total before.capacity)
  overflow : after.overflow = before.overflow + (line.amount - placed)

/-- The shares of a line and where they go. -/
theorem shares_spec (exact : TwoPlaces input) (reserves : Reserves input sides before)
    (member : line ∈ deductionsOf input sides) :
    let placed := min line.amount (Pour.total before.capacity)
    let room := before.capacity.map Pour.Level.remaining
    Figure placed ∧ (distributeProRata placed room).sum = placed ∧
      (∀ share ∈ distributeProRata placed room, Figure share) ∧
      ∀ (index : ℕ) (share : Decimal), (distributeProRata placed room)[index]? = some share →
        ∃ level, before.capacity[index]? = some level ∧ share ≤ level.remaining := by
  intro placed room
  have figure : Figure placed :=
    (exact.lineAmount line (mem_deductionsOf member)).min reserves.figure_total
  have roomFigures : ∀ value ∈ room, Figure value := by
    intro value valueMem
    obtain ⟨level, levelMem, rfl⟩ := List.mem_map.mp valueMem
    exact reserves.figures level levelMem
  have fits : placed ≤ room.sum := min_le_right _ _
  have roomMem := fun value valueMem => (roomFigures value valueMem).exact
  have roomNonneg := fun value valueMem => (roomFigures value valueMem).nonneg
  refine ⟨figure, distributeProRata_sum figure.exact figure.nonneg fits roomMem roomNonneg,
    fun share shareMem => ?_, fun index share found => ?_⟩
  · obtain ⟨shareExact, shareNonneg⟩ :=
      distributeProRata_mem figure.exact figure.nonneg fits roomMem roomNonneg share shareMem
    exact ⟨shareExact, shareNonneg⟩
  · obtain ⟨value, valueFound, below⟩ :=
      distributeProRata_le figure.exact figure.nonneg fits roomMem roomNonneg found
    rw [List.getElem?_map] at valueFound
    obtain ⟨level, levelFound, rfl⟩ := Option.map_eq_some_iff.mp valueFound
    exact ⟨level, levelFound, below⟩

theorem spreadLine_spreads (exact : TwoPlaces input)
    (run : spreadLine input sides before line = .ok after) (reserves : Reserves input sides before)
    (member : line ∈ deductionsOf input sides) (unpinned : isPinned input line = false) :
    ∃ placed, SpreadsLine input sides line before after placed := by
  have amount := (exact.lineAmount line (mem_deductionsOf member)).money
  unfold isPinned at unpinned
  simp only [spreadLine, unpinned, amount, reserves.sum_remaining] at run
  obtain ⟨figure, sumEq, shareFigures, fits⟩ := shares_spec exact reserves member
  set placed := min line.amount (Pour.total before.capacity) with placedEq
  have places := foldlM_invariant run (motive := fun done state =>
    Places input sides line (done.map Prod.fst).sum
      { before with overflow := before.overflow + (line.amount - placed) } state)
    (.refl (reserves.withOverflow _)) ?_
  · rw [List.zipIdx_map_fst, sumEq] at places
    exact ⟨placed, figure, places.reserves, places.lines, placedEq, places.overflow⟩
  · intro done entry state next entryMem held step
    have found : (distributeProRata placed (before.capacity.map Pour.Level.remaining))[entry.2]? =
        some entry.1 := List.mem_zipIdx_iff_getElem?.mp entryMem
    obtain ⟨level, levelFound, -⟩ := fits entry.2 entry.1 found
    have inBounds : entry.2 < input.bills.length := by
      rw [← reserves.length_capacity]
      exact (List.getElem?_eq_some_iff.mp levelFound).1
    have placedHere := placeShare_places step held.reserves member inBounds
      (shareFigures entry.1 (List.mem_of_getElem? found))
    simpa using held.trans placedHere

/-- The state while the lines are spread, after the lines `done`. -/
structure Spreading (input : AllocationInput) (sides : Sides) (pinned : Reserved)
    (done : List AllocationOtherLine) (state : Reserved) : Prop where
  reserves : Reserves input sides state
  gains : ∀ lineNo, ∃ gain, 0 ≤ gain ∧
    gain ≤ ((done.filter fun line => !isPinned input line && line.lineNo = lineNo).map
      AllocationOtherLine.amount).sum ∧
    rowTotal (byLine fun other => if other = lineNo then 1 else 0) state.rows =
      rowTotal (byLine fun other => if other = lineNo then 1 else 0) pinned.rows + gain
  total : rowTotal (byLine fun _ => 1) state.rows + state.overflow =
    rowTotal (byLine fun _ => 1) pinned.rows +
      ((done.filter fun line => !isPinned input line).map AllocationOtherLine.amount).sum
  overflow : Figure state.overflow
  /-- Something overflows only once no bill has room. -/
  exhausted : state.overflow = 0 ∨ Pour.total state.capacity = 0

theorem Spreading.advance {pinned state next : Reserved} {done : List AllocationOtherLine}
    (exact : TwoPlaces input) (spreading : Spreading input sides pinned done state)
    (member : line ∈ deductionsOf input sides)
    (step : spreadLine input sides state line = .ok next) :
    Spreading input sides pinned (done ++ [line]) next := by
  cases unpinned : isPinned input line with
  | true =>
      have same : next = state := by
        unfold isPinned at unpinned
        simp only [spreadLine, unpinned, if_true] at step
        exact (Except.ok.inj step).symm
      subst same
      exact ⟨spreading.reserves, by simpa [unpinned] using spreading.gains,
        by simpa [unpinned] using spreading.total, spreading.overflow, spreading.exhausted⟩
  | false =>
      obtain ⟨placed, spread⟩ := spreadLine_spreads exact step spreading.reserves member unpinned
      have lineFigure := exact.lineAmount line (mem_deductionsOf member)
      have atMost : placed ≤ line.amount := spread.placed_eq.trans_le (min_le_left _ _)
      refine ⟨spread.reserves, fun lineNo => ?_, ?_, ?_, ?_⟩
      · obtain ⟨gain, gainNonneg, gainLe, rows⟩ := spreading.gains lineNo
        by_cases same : line.lineNo = lineNo
        · refine ⟨gain + placed, add_nonneg gainNonneg spread.figure.nonneg, ?_, ?_⟩
          · simpa [unpinned, same] using add_le_add gainLe atMost
          · rw [spread.lines, rows]
            simp [same, add_assoc]
        · refine ⟨gain, gainNonneg, by simpa [unpinned, same] using gainLe, ?_⟩
          rw [spread.lines, rows]
          simp [same]
      · have total := spreading.total
        rw [spread.lines, spread.overflow]
        simp only [List.filter_append, List.map_append, List.sum_append, unpinned,
          List.filter_cons, List.filter_nil, Bool.not_false, if_true, List.map_cons, List.map_nil,
          List.sum_cons, List.sum_nil]
        linarith
      · rw [spread.overflow]
        exact spreading.overflow.add (lineFigure.sub spread.figure atMost)
      · have before := spreading.reserves.total exact
        have after := spread.reserves.total exact
        have rowsEq : rowTotal (fun _ => 1) next.rows = rowTotal (fun _ => 1) state.rows + placed := by
          have lines := spread.lines fun _ => 1
          rwa [spreading.reserves.rowTotal_one, spread.reserves.rowTotal_one, one_mul] at lines
        have leftNonneg := spread.reserves.figure_total.nonneg
        rcases min_choice line.amount (Pour.total state.capacity) with whole | rest
        · -- The line is placed whole, so the overflow is what it was.
          have placedEq : placed = line.amount := spread.placed_eq.trans whole
          have sameOverflow : next.overflow = state.overflow := by
            rw [spread.overflow, placedEq, sub_self, add_zero]
          rcases spreading.exhausted with none | full
          · exact Or.inl (sameOverflow.trans none)
          · right
            have placedNonneg := spread.figure.nonneg
            linarith
        · right
          have placedEq : placed = Pour.total state.capacity := spread.placed_eq.trans rest
          linarith

end Spread

/-! ## All deductions -/

section All

variable {input : AllocationInput} {sides : Sides}

/-- What the deduction lines without a pin amount to. -/
def unpinnedTotal (input : AllocationInput) (sides : Sides) : Decimal :=
  (((deductionsOf input sides).filter fun line => !isPinned input line).map
    AllocationOtherLine.amount).sum

/-- What the reservation as a whole establishes. -/
structure DeductionsReserved (input : AllocationInput) (sides : Sides) (state : Reserved) :
    Prop where
  reserves : Reserves input sides state
  overflow : Figure state.overflow
  /-- What is placed and what overflows are the deductions. -/
  total : rowTotal (fun _ => 1) state.rows + state.overflow =
    totalOfLines input fun line => isDeduction line sides
  /-- No line is placed for more than it is, and a pinned one is placed whole. -/
  line : ∀ line ∈ deductionsOf input sides,
    rowTotal (byLine fun other => if other = line.lineNo then 1 else 0) state.rows ≤ line.amount ∧
      (isPinned input line = true →
        rowTotal (byLine fun other => if other = line.lineNo then 1 else 0) state.rows =
          line.amount)
  /-- The overflow is what the unpinned lines have beyond what the pins left. -/
  overflow_eq : state.overflow = max 0 (unpinnedTotal input sides - (totalOfBills input -
    (input.pins.map AllocationPin.amount).sum))

variable {line : AllocationOtherLine}

theorem isPinned_congr {other : AllocationOtherLine} (same : line.lineNo = other.lineNo) :
    isPinned input line = isPinned input other := by
  rw [isPinned, isPinned, same]

private theorem nodup_deductions (sides : Sides) (distinct : DistinctLines input) :
    ((deductionsOf input sides).map AllocationOtherLine.lineNo).Nodup :=
  distinct.sublist (List.filter_sublist.map _)

/-- What a line can gain by spreading: nothing when it is pinned, itself when not. -/
private theorem spread_bound (distinct : DistinctLines input)
    (member : line ∈ deductionsOf input sides) : (((deductionsOf input sides).filter fun other =>
        !isPinned input other && other.lineNo = line.lineNo).map AllocationOtherLine.amount).sum =
      if isPinned input line then 0 else line.amount := by
  cases pinnedEq : isPinned input line with
  | true =>
      have none : (deductionsOf input sides).filter (fun other =>
          !isPinned input other && other.lineNo = line.lineNo) = [] := by
        refine List.filter_eq_nil_iff.mpr fun other _ kept => ?_
        simp only [Bool.and_eq_true, Bool.not_eq_true', decide_eq_true_eq] at kept
        rw [isPinned_congr kept.2, pinnedEq] at kept
        simp at kept
      simp [none]
  | false =>
      have only : (deductionsOf input sides).filter (fun other =>
          !isPinned input other && other.lineNo = line.lineNo) = [line] := by
        rw [← ListSum.filter_key_eq (nodup_deductions sides distinct) member]
        refine List.filter_congr fun other _ => ?_
        by_cases same : other.lineNo = line.lineNo
        · simp [same, isPinned_congr same, pinnedEq]
        · simp [same]
      simp [only]

/-- What the pins leave on a line: all of it or nothing. -/
private theorem PinsReserved.line_eq {pinned : Reserved}
    (reserved : PinsReserved input sides pinned) (distinct : DistinctLines input)
    (member : line ∈ deductionsOf input sides) :
    rowTotal (byLine fun other => if other = line.lineNo then 1 else 0) pinned.rows =
      if isPinned input line then line.amount else 0 := by
  rw [reserved.lines_eq distinct]
  simp only [ite_mul, one_mul, zero_mul]
  cases pinnedEq : isPinned input line with
  | true =>
      have nodup := (nodup_deductions sides distinct).sublist
        ((List.filter_sublist (p := isPinned input)).map _)
      simpa using ListSum.sum_key nodup AllocationOtherLine.amount
        (List.mem_filter.mpr ⟨member, pinnedEq⟩)
  | false =>
      refine List.sum_eq_zero fun value valueMem => ?_
      obtain ⟨other, otherMem, rfl⟩ := List.mem_map.mp valueMem
      have different : other.lineNo ≠ line.lineNo := by
        intro same
        have otherPinned := (List.mem_filter.mp otherMem).2
        rw [isPinned_congr same, pinnedEq] at otherPinned
        simp at otherPinned
      simp [different]

theorem reserveDeductions_ok {state : Reserved} (exact : TwoPlaces input)
    (distinct : DistinctLines input)
    (run : reserveDeductions input sides (initialCapacity input.bills) = .ok state) :
    DeductionsReserved input sides state := by
  obtain ⟨pinned, pinsRun, spreadRun⟩ := bind_eq_ok run
  have reserved := reservePins_ok exact pinsRun
  have spreading : Spreading input sides pinned (deductionsOf input sides) state := by
    refine foldlM_invariant spreadRun ⟨reserved.reserves, fun lineNo => ⟨0, by simp⟩, ?_, ?_, ?_⟩
      fun done line before after member held step => held.advance exact member step
    · simp [reserved.noOverflow]
    · rw [reserved.noOverflow]
      exact .zero
    · exact Or.inl reserved.noOverflow
  have pinnedTotal : rowTotal (fun _ => 1) pinned.rows =
      (input.pins.map AllocationPin.amount).sum := by
    rw [← reserved.reserves.rowTotal_one, reserved.lines]
    simp only [one_mul]
    exact OrderedMap.sum_groupBy _ _ _
  have total := spreading.total
  rw [spreading.reserves.rowTotal_one, reserved.reserves.rowTotal_one] at total
  have placed := spreading.reserves.total exact
  refine ⟨spreading.reserves, spreading.overflow, ?_, fun line member => ?_, ?_⟩
  · rw [total, ← reserved.reserves.rowTotal_one, reserved.lines_eq distinct]
    simp only [one_mul]
    exact ListSum.sum_filter_add (deductionsOf input sides) _ (isPinned input)
  · obtain ⟨gain, gainNonneg, gainLe, rows⟩ := spreading.gains line.lineNo
    rw [spread_bound distinct member] at gainLe
    rw [rows, reserved.line_eq distinct member]
    cases pinnedEq : isPinned input line
    · simpa [pinnedEq] using gainLe
    · have noGain : gain = 0 := le_antisymm (by simpa [pinnedEq] using gainLe) gainNonneg
      simp [noGain]
  · have capacityNonneg := spreading.reserves.figure_total.nonneg
    have overflowNonneg := spreading.overflow.nonneg
    change _ = rowTotal (fun _ => 1) pinned.rows + unpinnedTotal input sides at total
    rcases spreading.exhausted with none | full
    · rw [max_eq_left]
      · exact none
      · linarith
    · rw [max_eq_right]
      · linarith
      · linarith

end All

end ErpServer.Receipt
