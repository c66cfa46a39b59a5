import ErpServer.Receipt.Conservation

/-!
# The self-checks of the engine

After the pour the engine asserts that every bill is full, and after the remainder
that it holds what the client claimed.  The second can never fire.  The first fires
exactly when the claim is smaller than what can only go on account: the floating
lines and the overflow of the unpinned deductions.
-/

namespace ErpServer.Receipt

open Lib Lib.Fold

section Reserve

variable {input : AllocationInput} {sides : Sides} {line : AllocationOtherLine}

/-! ## Spreading never fails -/

/-- The shares still to place find their room untouched: each share goes to a bill of
its own and is no larger than the bill's room. -/
structure SharesFit (capacity : List Room) (todo : List (Decimal × ℕ)) : Prop where
  distinct : (todo.map Prod.snd).Nodup
  fits : ∀ entry ∈ todo, ∃ room, capacity[entry.2]? = some room ∧ entry.1 ≤ room.remaining

variable {before : Reserved}

theorem placeShare_succeeds {entry : Decimal × ℕ} {rest : List (Decimal × ℕ)}
    (fit : SharesFit before.capacity (entry :: rest)) :
    ∃ after, placeShare input sides line before entry = .ok after ∧
      SharesFit after.capacity rest := by
  have distinct := fit.distinct
  simp only [List.map_cons, List.nodup_cons] at distinct
  obtain ⟨room, found, below⟩ := fit.fits entry List.mem_cons_self
  have later : ∀ other ∈ rest, other.2 ≠ entry.2 := fun other member same =>
    distinct.1 (same ▸ List.mem_map_of_mem member)
  unfold placeShare
  split
  · exact ⟨before, rfl, distinct.2, fun other member =>
      fit.fits other (List.mem_cons_of_mem _ member)⟩
  · simp only [placeDeduction, found, takeFromBill, if_neg (not_lt.mpr below)]
    refine ⟨_, rfl, distinct.2, fun other member => ?_⟩
    obtain ⟨otherRoom, otherFound, otherBelow⟩ := fit.fits other (List.mem_cons_of_mem _ member)
    exact ⟨otherRoom, by rwa [List.getElem?_set_ne (later other member).symm], otherBelow⟩

theorem spreadLine_succeeds (exact : TwoPlaces input) (reserves : Reserves input sides before)
    (member : line ∈ deductionsOf input sides) :
    ∃ after, spreadLine input sides before line = .ok after := by
  have amount := (exact.lineAmount line (mem_deductionsOf member)).money
  obtain ⟨-, -, -, fits⟩ := shares_spec exact reserves member
  simp only [spreadLine, amount, reserves.sum_remaining]
  split
  · exact ⟨before, rfl⟩
  · set shares := distributeProRata (min line.amount (Pour.total before.capacity))
      (before.capacity.map Pour.Level.remaining)
    have start : SharesFit before.capacity shares.zipIdx := by
      refine ⟨?_, fun entry entryMem => fits entry.2 entry.1 ?_⟩
      · rw [List.zipIdx_map_snd]
        exact List.nodup_range'
      · exact List.mem_zipIdx_iff_getElem?.mp entryMem
    obtain ⟨after, run, -⟩ := foldlM_succeeds (placeShare input sides line)
      (motive := fun todo (state : Reserved) => SharesFit state.capacity todo)
      (fun entry rest state => placeShare_succeeds) shares.zipIdx { before with
        overflow := before.overflow + (line.amount - min line.amount (Pour.total before.capacity)) }
      start
    exact ⟨after, run⟩

/-- Once the pins hold, the reservation cannot fail. -/
theorem reserveDeductions_succeeds {pinned : Reserved} (exact : TwoPlaces input)
    (run : reservePins input sides (initialCapacity input.bills) = .ok pinned) :
    ∃ reserved, reserveDeductions input sides (initialCapacity input.bills) = .ok reserved := by
  have reserves := (reservePins_ok exact run).reserves
  obtain ⟨reserved, spread, -⟩ := foldlM_succeeds (spreadLine input sides)
    (motive := fun todo state => Reserves input sides state ∧
      ∀ line ∈ todo, line ∈ deductionsOf input sides)
    (fun line rest before ⟨held, members⟩ => by
      have member := members line List.mem_cons_self
      obtain ⟨after, step⟩ := spreadLine_succeeds exact held member
      refine ⟨after, step, ?_, fun other otherMem =>
        members other (List.mem_cons_of_mem _ otherMem)⟩
      cases unpinned : isPinned input line with
      | true =>
          unfold isPinned at unpinned
          simp only [spreadLine, unpinned, if_true] at step
          exact Except.ok.inj step ▸ held
      | false =>
          obtain ⟨placed, spreads⟩ := spreadLine_spreads exact step held member unpinned
          exact spreads.reserves)
    (deductionsOf input sides) pinned ⟨reserves, fun line member => member⟩
  exact ⟨reserved, by rw [reserveDeductions, run]; exact spread⟩

end Reserve

/-! ## The two self-checks -/

/-- The error of the branch that reports a bill still short after the pour. -/
def IsUnfilledError (problem : AllocationError) : Prop :=
  problem.message = "Allocation could not be completed"

/-- The error that reports a remainder other than the claim. -/
def IsOnAccountError (problem : AllocationError) : Prop :=
  problem.details.map AllocationErrorDetail.field = ["onAccount"] ∧
    problem.details.map AllocationErrorDetail.code = [ACC.INVALID]

/-- Neither self-check fires. -/
def SelfChecksSilent (input : AllocationInput) : Prop :=
  ∀ problem, allocate input = .error problem →
    ¬ IsUnfilledError problem ∧ ¬ IsOnAccountError problem

/-- The input passes the three assertions and its pins are valid. -/
structure ReachesSelfChecks (input : AllocationInput) : Prop where
  bills : assertBillsFit input.bills (sidesOf input) = .ok ()
  credits : assertCreditsFit input.credits (sidesOf input) = .ok ()
  identity : assertIdentity input (sidesOf input) = .ok ()
  pins : ∃ pinned, reservePins input (sidesOf input) (initialCapacity input.bills) = .ok pinned

/-- What can only go on account: the floating lines, and what the unpinned
deductions have beyond the bills' room after the pins. -/
def mustHold (input : AllocationInput) : Decimal :=
  totalOfLines input (fun line => isFloating line (sidesOf input)) +
    max 0 (unpinnedTotal input (sidesOf input) -
      (totalOfBills input - (input.pins.map AllocationPin.amount).sum))

section SelfChecks

variable {input : AllocationInput} {reserved : Reserved}

/-- What the engine does once the deductions have reserved. -/
theorem allocate_eq (reaches : ReachesSelfChecks input)
    (run : reserveDeductions input (sidesOf input) (initialCapacity input.bills) =
      .ok reserved) :
    allocate input = (do
      assertFilled (sidesOf input) (pouredOf input reserved).targets
      let reductions ← addReductions input (sidesOf input) input.bills
      let adjustments := reserved.rows ++
        (pouredOf input reserved).transfers.flatMap (settlementRows (sidesOf input)) ++ reductions
      let onAccount ← collectOnAccount input (sidesOf input) (pouredOf input reserved).sources
        reserved.overflow
      let totalOnAccount := sum (onAccount.map AllocationOnAccount.amount)
      assertOnAccount (sidesOf input) totalOnAccount input.claimedOnAccount
      .ok
        { adjustments := adjustments
          onAccount := onAccount
          totalOnAccount := totalOnAccount
          adjustAmountByVoucher := totalPerVoucher adjustments
          partyCreditByVoucher := partyLegPerVoucher input (sidesOf input) adjustments onAccount
          partyLegSide := (sidesOf input).settle }) := by
  simp only [allocate, reaches.bills, reaches.credits, reaches.identity, run]
  rfl

/-- The sources together carry the credits and the tenders, less the extras. -/
theorem total_buildSources (exact : TwoPlaces input) (balanced : Balanced input (sidesOf input)) :
    Pour.total (buildSources input (sidesOf input)) = totalOfCredits input +
      totalOfTenders input (fun _ => true) -
        totalOfLines input fun line => isExtra line (sidesOf input) := by
  have all := buildSources_weighted exact balanced (fun _ => 1) 1 rfl fun _ => rfl
  have split := ListSum.sum_filter_add input.tenders AllocationTender.amount
    fun tender => tender.isPostDated
  rw [Pour.weighted_one] at all
  simp only [one_mul] at all
  rw [all, totalOfCredits, totalOfTenders, totalOfTenders, List.filter_true, ← split]
  ring

/-- The deductions reserved and the identity together say how the room that is left
compares with what the sources carry. -/
theorem room_add_claim (exact : TwoPlaces input) (balanced : Balanced input (sidesOf input))
    (deductions : DeductionsReserved input (sidesOf input) reserved) :
    Pour.total reserved.capacity + input.claimedOnAccount =
      Pour.total (buildSources input (sidesOf input)) + mustHold input := by
  have placed := deductions.reserves.total exact
  have total := deductions.total
  have overflow := deductions.overflow_eq
  have identity := balanced.identity
  rw [total_buildSources exact balanced, mustHold, ← overflow]
  linarith

theorem filled_iff (exact : TwoPlaces input) (balanced : Balanced input (sidesOf input))
    (deductions : DeductionsReserved input (sidesOf input) reserved) :
    (∀ room ∈ (pouredOf input reserved).targets, room.remaining = 0) ↔
      mustHold input ≤ input.claimedOnAccount := by
  have room := room_add_claim exact balanced deductions
  rw [pouredOf, Pour.pour_fills_iff
    (fun room member => (deductions.reserves.figures room member).nonneg)
    fun source member => (buildSources_figures exact source member).nonneg]
  constructor <;> intro enough <;> linarith

/-- With every bill full, what the collection holds is the claim. -/
theorem held_eq_claim (exact : TwoPlaces input) (balanced : Balanced input (sidesOf input))
    (deductions : DeductionsReserved input (sidesOf input) reserved)
    (filled : ∀ room ∈ (pouredOf input reserved).targets, room.remaining = 0)
    {onAccount : List AllocationOnAccount}
    (holds : HoldsRemainder input (sidesOf input) (pouredOf input reserved).sources
      reserved.overflow onAccount) :
    (onAccount.map AllocationOnAccount.amount).sum = input.claimedOnAccount := by
  have room := room_add_claim exact balanced deductions
  have supply := Pour.pour_supply (fun _ => 1) reserved.capacity
    (buildSources input (sidesOf input))
  have demand := Pour.pour_demand (fun _ => 1) reserved.capacity
    (buildSources input (sidesOf input))
  have full : Pour.total (pouredOf input reserved).targets = 0 := by
    rw [← Pour.weighted_one, Pour.weighted_eq_zero _ filled]
  rw [Pour.weighted_one, Pour.weighted_one] at supply demand
  rw [holds.total_all, deductions.overflow_eq]
  rw [mustHold] at room
  rw [pouredOf] at full ⊢
  linarith

variable {sides : Sides}

variable {problem : AllocationError} {capacity : List Room}

theorem addReductions_error {bills : List AllocationBill}
    (run : addReductions input sides bills = .error problem) :
    ¬ IsUnfilledError problem ∧ ¬ IsOnAccountError problem := by
  induction bills with
  | nil => cases run
  | cons bill rest ih =>
      rcases bind_eq_error run with here | ⟨rows, -, run⟩
      · simp only [billReductions] at here
        split at here
        · obtain rfl := Except.error.inj here
          simp [IsUnfilledError, IsOnAccountError]
        · cases here
      · rcases bind_eq_error run with later | ⟨others, -, run⟩
        · exact ih later
        · cases run

theorem collectOnAccount_error {sources : List Source} {overflow : Decimal}
    (run : collectOnAccount input sides sources overflow = .error problem) :
    ¬ IsUnfilledError problem ∧ ¬ IsOnAccountError problem := by
  rcases bind_eq_error run with loop | ⟨held, -, run⟩
  · obtain ⟨before, source, -, raised⟩ := foldlM_error loop
    unfold holdSource at raised
    split at raised
    · cases raised
    · split at raised
      · obtain rfl := Except.error.inj raised
        simp [IsUnfilledError, IsOnAccountError]
      · cases raised
  · cases run

theorem assertFilled_of_filled (filled : ∀ room ∈ capacity, room.remaining = 0) :
    assertFilled sides capacity = .ok () := by
  have none : findUnfilled capacity = none := by
    refine List.find?_eq_none.mpr fun entry member => ?_
    simpa using filled entry.1 (List.mem_of_getElem? (List.mem_zipIdx_iff_getElem?.mp member))
  simp [assertFilled, none]

theorem assertFilled_error (sides : Sides) (short : ¬ ∀ room ∈ capacity, room.remaining = 0) :
    ∃ problem, assertFilled sides capacity = .error problem ∧ IsUnfilledError problem := by
  cases run : assertFilled sides capacity with
  | ok value => exact absurd (assertFilled_ok run) short
  | error problem =>
      refine ⟨problem, rfl, ?_⟩
      unfold assertFilled at run
      split at run
      · cases run
      · obtain rfl := Except.error.inj run
        rfl

end SelfChecks

/-- The self-checks are silent exactly when the claim covers what can only go on
account. -/
theorem selfChecksSilent_iff {input : AllocationInput} (exact : TwoPlaces input)
    (lines : DistinctLines input) (reaches : ReachesSelfChecks input) :
    SelfChecksSilent input ↔ mustHold input ≤ input.claimedOnAccount := by
  obtain ⟨pinned, pinsRun⟩ := reaches.pins
  obtain ⟨reserved, run⟩ := reserveDeductions_succeeds exact pinsRun
  have deductions := reserveDeductions_ok exact lines run
  have balanced := assertIdentity_ok exact reaches.identity
  rw [← filled_iff exact balanced deductions, SelfChecksSilent, allocate_eq reaches run]
  constructor
  · intro silent
    by_contra short
    obtain ⟨problem, raised, unfilled⟩ := assertFilled_error (sidesOf input) short
    exact (silent problem (by rw [raised]; rfl)).1 unfilled
  · intro filled problem raised
    rw [assertFilled_of_filled filled] at raised
    rcases bind_eq_error raised with ⟨⟨⟩⟩ | ⟨⟨⟩, -, raised⟩
    rcases bind_eq_error raised with reductions | ⟨reductions, -, raised⟩
    · exact addReductions_error reductions
    · rcases bind_eq_error raised with collected | ⟨onAccount, collected, raised⟩
      · exact collectOnAccount_error collected
      · -- The remainder is the claim, so the second check passes.
        have holds := collectOnAccount_ok exact (pouredOf_figures exact deductions.reserves).2
          deductions.overflow collected
        have agrees := held_eq_claim exact balanced deductions filled holds
        have amounts : sum (onAccount.map AllocationOnAccount.amount) =
            (onAccount.map AllocationOnAccount.amount).sum := sum_of_mem fun value member => by
          obtain ⟨entry, entryMem, rfl⟩ := List.mem_map.mp member
          exact holds.exact entry entryMem
        simp only [assertOnAccount, amounts, agrees, exact.claimed.money, ne_eq, not_true_eq_false,
          if_false] at raised
        cases raised

/-- A bill of 100, 50 in cash and a debit line of 50 that settles no bill: the
identity holds with nothing on account, and the bill is left 50 short. -/
def floatingReceipt : AllocationInput where
  receiptDate := 100
  bills := [⟨"b1", "2026-2027", "INV-1", 100, 0, 0, 0, 100, none⟩]
  credits := []
  otherLines := [⟨1, .DR, 50, false, .JOURNAL, false, none⟩]
  tenders := [⟨1, 50, false, false, none⟩]
  pins := []
  claimedOnAccount := 0
  direction := none

theorem floatingReceipt_exact : TwoPlaces floatingReceipt := by
  constructor <;> decide +kernel

theorem floatingReceipt_reaches : ReachesSelfChecks floatingReceipt where
  bills := by decide +kernel
  credits := by decide +kernel
  identity := by decide +kernel
  pins := ⟨_, rfl⟩

/-- The first self-check fires on it, although all three assertions passed. -/
theorem floatingReceipt_fires : TwoPlaces floatingReceipt ∧ DistinctLines floatingReceipt ∧
    ReachesSelfChecks floatingReceipt ∧ ¬ SelfChecksSilent floatingReceipt := by
  refine ⟨floatingReceipt_exact, by unfold DistinctLines; decide, floatingReceipt_reaches, ?_⟩
  intro silent
  have raised : ∃ problem, allocate floatingReceipt = .error problem ∧
      problem.message = "Allocation could not be completed" := by
    cases run : allocate floatingReceipt with
    | error problem =>
        refine ⟨problem, rfl, ?_⟩
        have message : (match allocate floatingReceipt with
          | .ok _ => ""
          | .error problem => problem.message) = "Allocation could not be completed" := by
          decide +kernel
        simpa [run] using message
    | ok result =>
        have fails : (allocate floatingReceipt).isOk = false := by decide +kernel
        rw [run] at fails
        cases fails
  obtain ⟨problem, run, message⟩ := raised
  exact (silent problem run).1 message

theorem mixedReceipt_silent : SelfChecksSilent mixedReceipt := by
  refine (selfChecksSilent_iff mixedReceipt_exact (by unfold DistinctLines; decide)
    ⟨by decide +kernel, by decide +kernel, by decide +kernel, ?_⟩).mpr (by decide +kernel)
  have pins : (reservePins mixedReceipt (sidesOf mixedReceipt)
      (initialCapacity mixedReceipt.bills)).isOk = true := by decide +kernel
  cases run : reservePins mixedReceipt (sidesOf mixedReceipt)
      (initialCapacity mixedReceipt.bills) with
  | ok pinned => exact ⟨pinned, rfl⟩
  | error problem =>
      rw [run] at pins
      cases pins

end ErpServer.Receipt
