import ErpServer.Purchase.Payable

/-!
# What a spread takes

Every share but the last weighted one is rounded on its own, and the last takes what they
leave.  The shares come to the amount, and none of them is taken from a line exactly when the
rounding adds no more to the others than the last one's exact share.
-/

namespace ErpServer.Purchase

open Lib
open Receipt (Decimal paise)

/-- What rounding adds to the entries before the last weighted one is no more than the exact
share of that one. -/
def RoundingFits (amount : Decimal) (weights : List Decimal) : Prop :=
  ∀ front last rest, weights = front ++ last :: rest → last ≠ 0 →
    (∀ weight ∈ rest, weight = 0) →
      (front.map fun weight =>
        r2 (amount * weight / weights.sum) - amount * weight / weights.sum).sum ≤
          amount * last / weights.sum

section Spread

variable {amount : Decimal} {front rest : List Decimal} {last : Decimal}

/-- The rounded shares, what they leave, and nothing. -/
theorem spread_eq (nonzero : last ≠ 0) (zeros : ∀ weight ∈ rest, weight = 0)
    (weighted : (front ++ last :: rest).sum ≠ 0) :
    spread amount (front ++ last :: rest) =
      (front.map fun weight => r2 (amount * weight / (front ++ last :: rest).sum)) ++
        (amount - (front.map fun weight =>
          r2 (amount * weight / (front ++ last :: rest).sum)).sum) :: rest.map fun _ => 0 := by
  have rounded : Spread.shares r2 amount (front ++ last :: rest).sum front =
      front.map fun weight => r2 (amount * weight / (front ++ last :: rest).sum) := by
    apply List.map_congr_left
    intro weight _
    split
    · rename_i zero
      rw [zero, mul_zero, zero_div]
      exact Grid.halfUp_zero.symm
    · rfl
  by_cases none : amount = 0
  · have nothing : (front.map fun weight => r2 (amount * weight / (front ++ last :: rest).sum)) =
        front.map fun _ => 0 := by
      apply List.map_congr_left
      intro weight _
      rw [none, zero_mul, zero_div]
      exact Grid.halfUp_zero
    rw [nothing, spread, Spread.spread]
    simp [none]
  · rw [spread, Spread.spread_split r2 none nonzero zeros weighted, rounded]

/-- The exact shares come to the amount. -/
theorem sum_exact (zeros : ∀ weight ∈ rest, weight = 0)
    (weighted : (front ++ last :: rest).sum ≠ 0) :
    (front.map fun weight => amount * weight / (front ++ last :: rest).sum).sum +
      amount * last / (front ++ last :: rest).sum = amount := by
  have total : (front ++ last :: rest).sum = front.sum + last := by
    rw [List.sum_append, List.sum_cons, List.sum_eq_zero zeros, add_zero]
  have split (others : List Decimal) (whole : Decimal) :
      (others.map fun weight => amount * weight / whole).sum = amount * others.sum / whole := by
    induction others with
    | nil => simp
    | cons weight others ih =>
        rw [List.map_cons, List.sum_cons, ih, List.sum_cons]
        ring
  rw [split, ← add_div, ← mul_add, ← total, mul_div_assoc, div_self weighted, mul_one]

/-- The last weighted entry is not taken from exactly when the rounding fits. -/
theorem remainder_nonneg_iff (nonzero : last ≠ 0) (zeros : ∀ weight ∈ rest, weight = 0)
    (weighted : (front ++ last :: rest).sum ≠ 0) :
    0 ≤ amount - (front.map fun weight =>
        r2 (amount * weight / (front ++ last :: rest).sum)).sum ↔
      RoundingFits amount (front ++ last :: rest) := by
  have whole := @sum_exact amount front rest last zeros weighted
  have surplus : (front.map fun weight => r2 (amount * weight / (front ++ last :: rest).sum) -
        amount * weight / (front ++ last :: rest).sum).sum =
      (front.map fun weight => r2 (amount * weight / (front ++ last :: rest).sum)).sum -
        (front.map fun weight => amount * weight / (front ++ last :: rest).sum).sum :=
    ListSum.sum_map_sub front _ _
  constructor
  · intro nonneg other last' rest' cut nonzero' zeros'
    have place := (Spread.lastWeighted_split nonzero zeros).symm.trans
      ((congrArg Spread.lastWeighted cut).trans (Spread.lastWeighted_split nonzero' zeros'))
    obtain ⟨same, tail⟩ := List.append_inj cut (Option.some.inj place)
    obtain ⟨sameLast, -⟩ := List.cons.inj tail
    rw [← same, ← sameLast, surplus]
    linarith
  · intro fits
    have bound := fits front last rest rfl nonzero zeros
    rw [surplus] at bound
    linarith

end Spread

/-! ## Lines -/

/-- Every share is between nothing and the amount, and together they are the amount. -/
def KeepsWithin (amount : Decimal) (shares : List Decimal) : Prop :=
  shares.sum = amount ∧ ∀ share ∈ shares, 0 ≤ share ∧ share ≤ amount

theorem spread_within_iff {amount : Decimal} (amountMem : amount ∈ paise) (nonneg : 0 ≤ amount)
    {weights : List Decimal} (weightsNonneg : ∀ weight ∈ weights, 0 ≤ weight)
    (weighted : 0 < weights.sum) :
    KeepsWithin amount (spread amount weights) ↔ RoundingFits amount weights := by
  obtain ⟨front, last, rest, rfl, nonzero, zeros⟩ := Spread.exists_last_weighted weighted.ne'
  have total := Spread.sum_spread r2 amount (front ++ last :: rest)
  rw [if_neg weighted.ne'] at total
  rw [← remainder_nonneg_iff nonzero zeros weighted.ne', KeepsWithin]
  have shares := @spread_eq amount front rest last nonzero zeros weighted.ne'
  have bounds : ∀ share ∈ front.map fun weight =>
      r2 (amount * weight / (front ++ last :: rest).sum), 0 ≤ share ∧ share ≤ amount := by
    intro share member
    obtain ⟨weight, inside, rfl⟩ := List.mem_map.mp member
    have listed : weight ∈ front ++ last :: rest := List.mem_append_left _ inside
    have low : 0 ≤ amount * weight / (front ++ last :: rest).sum :=
      div_nonneg (mul_nonneg nonneg (weightsNonneg weight listed)) weighted.le
    have high : amount * weight / (front ++ last :: rest).sum ≤ amount := by
      rw [div_le_iff₀ weighted]
      exact mul_le_mul_of_nonneg_left
        (List.single_le_sum weightsNonneg weight listed) nonneg
    exact ⟨Grid.halfUp_nonneg Receipt.paisa_pos low,
      Grid.halfUp_le_of_mem Receipt.paisa_pos low high amountMem⟩
  have before : 0 ≤ (front.map fun weight =>
      r2 (amount * weight / (front ++ last :: rest).sum)).sum :=
    List.sum_nonneg fun share member => (bounds share member).1
  constructor
  · intro within
    apply (within.2 _ _).1
    rw [shares]
    exact List.mem_append_right _ List.mem_cons_self
  · intro left
    refine ⟨total, ?_⟩
    intro share member
    rw [shares] at member
    cases List.mem_append.mp member with
    | inl early => exact bounds share early
    | inr late =>
        cases List.mem_cons.mp late with
        | inl here =>
            rw [here]
            exact ⟨left, sub_le_self _ before⟩
        | inr behind =>
            obtain ⟨_, _, rfl⟩ := List.mem_map.mp behind
            exact ⟨le_rfl, nonneg⟩

/-! ## Payees -/

/-- What is given to the payees that are named an amount. -/
def givenTo (charge : CalcChargeIn) : Decimal :=
  ((charge.payees.filterMap Payee.amount).map r2).sum

/-- The payees that split the rest. -/
def openPayees (charge : CalcChargeIn) : List Payee :=
  charge.payees.filter fun payee => payee.amount.isNone

/-- What the open payees are given, in their order. -/
def openAmounts (payees : List Payee) (outs : List PayeeOut) : List Decimal :=
  ((payees.zip outs).filter fun entry => entry.1.amount.isNone).map fun entry => entry.2.amount

/-- The payees of a charge, if there are any, are given all of it, and the last that splits the
rest is not left with less than nothing. -/
def SplitsWhole (charge : CalcChargeIn) (amount : Decimal) : Prop :=
  charge.payees ≠ [] → ((chargePayees charge amount).map PayeeOut.amount).sum = amount ∧
    ∀ last, (openAmounts charge.payees (chargePayees charge amount)).getLast? = some last →
      0 ≤ last

theorem sum_payeeAmounts (payees : List Payee) {rest : List Decimal}
    (each : rest.length = (payees.filter fun payee => payee.amount.isNone).length) :
    ((payeeAmounts payees rest).map PayeeOut.amount).sum =
      ((payees.filterMap Payee.amount).map r2).sum + rest.sum := by
  induction payees generalizing rest with
  | nil =>
      rw [List.eq_nil_of_length_eq_zero each]
      simp [payeeAmounts]
  | cons payee payees ih =>
      cases given : payee.amount with
      | some amount =>
          rw [List.filter_cons_of_neg (by simp [given])] at each
          rw [payeeAmounts, given, List.filterMap_cons_some given]
          simp only [List.map_cons, List.sum_cons]
          rw [ih each]
          ring
      | none =>
          rw [List.filter_cons_of_pos (by simp [given]), List.length_cons] at each
          cases rest with
          | nil => cases each
          | cons share shares =>
              rw [payeeAmounts, given, List.filterMap_cons_none given]
              simp only [List.map_cons, List.sum_cons, List.headD_cons, List.tail_cons]
              rw [ih (Nat.succ.inj each)]
              ring

theorem openAmounts_payeeAmounts (payees : List Payee) {rest : List Decimal}
    (each : rest.length = (payees.filter fun payee => payee.amount.isNone).length) :
    openAmounts payees (payeeAmounts payees rest) = rest := by
  induction payees generalizing rest with
  | nil => rw [List.eq_nil_of_length_eq_zero each]; rfl
  | cons payee payees ih =>
      cases given : payee.amount with
      | some amount =>
          rw [List.filter_cons_of_neg (by simp [given])] at each
          have later := ih each
          unfold openAmounts at later ⊢
          rw [payeeAmounts, given, List.zip_cons_cons, List.filter_cons_of_neg (by simp [given])]
          exact later
      | none =>
          rw [List.filter_cons_of_pos (by simp [given]), List.length_cons] at each
          cases rest with
          | nil => cases each
          | cons share shares =>
              have later := ih (Nat.succ.inj each)
              unfold openAmounts at later ⊢
              rw [payeeAmounts, given, List.zip_cons_cons,
                List.filter_cons_of_pos (by simp [given]), List.map_cons, List.tail_cons]
              rw [later]
              rfl

theorem splitsWhole_iff {charge : CalcChargeIn} (offBill : charge.onBill = false)
    (amount : Decimal) :
    SplitsWhole charge amount ↔
      (charge.payees ≠ [] → openPayees charge = [] → givenTo charge = amount) ∧
        RoundingFits (amount - givenTo charge) ((openPayees charge).map fun _ => 1) := by
  have payees : chargePayees charge amount = payeeAmounts charge.payees
      (spread (amount - givenTo charge) ((openPayees charge).map fun _ => 1)) := by
    rw [chargePayees, offBill]
    rfl
  have each : (spread (amount - givenTo charge) ((openPayees charge).map fun _ => 1)).length =
      (charge.payees.filter fun payee => payee.amount.isNone).length := by
    rw [spread, Spread.length_spread, List.length_map]
    rfl
  have total := Spread.sum_spread r2 (amount - givenTo charge)
    ((openPayees charge).map fun _ => 1)
  unfold SplitsWhole
  rw [payees, sum_payeeAmounts _ each, openAmounts_payeeAmounts _ each, spread, total, ← spread]
  cases shared : openPayees charge with
  | nil =>
      constructor
      · intro whole
        constructor
        · intro paid _
          have sum := (whole paid).1
          rw [List.map_nil, List.sum_nil, if_pos rfl, add_zero] at sum
          exact sum
        · intro front last rest cut
          cases front <;> cases cut
      · intro fits paid
        constructor
        · rw [List.map_nil, List.sum_nil, if_pos rfl, add_zero]
          exact fits.1 paid rfl
        · intro last found
          simp [spread, Spread.spread] at found
  | cons payee others =>
      have weighted : ((payee :: others).map fun _ => (1 : Decimal)).sum ≠ 0 := by
        rw [List.map_const', List.sum_replicate, nsmul_one]
        exact Nat.cast_ne_zero.mpr (Nat.succ_ne_zero _)
      obtain ⟨front, last, rest, cut, nonzero, zeros⟩ := Spread.exists_last_weighted weighted
      have behind : rest = [] := by
        cases rest with
        | nil => rfl
        | cons weight more =>
            have one : weight ∈ (payee :: others).map fun _ => (1 : Decimal) := by
              rw [cut]
              simp
            obtain ⟨_, _, isOne⟩ := List.mem_map.mp one
            exact absurd (isOne.trans (zeros weight List.mem_cons_self)) one_ne_zero
      rw [cut] at weighted ⊢
      rw [behind] at weighted ⊢
      have shares := @spread_eq (amount - givenTo charge) front [] last nonzero
        (fun weight member => absurd member List.not_mem_nil) weighted
      have remainder := @remainder_nonneg_iff (amount - givenTo charge) front [] last nonzero
        (fun weight member => absurd member List.not_mem_nil) weighted
      have paid : charge.payees ≠ [] := by
        intro none
        rw [openPayees, none] at shared
        cases shared
      rw [← remainder, shares, if_neg weighted]
      constructor
      · intro whole
        constructor
        · intro _ none
          cases none
        · apply (whole paid).2
          simp
      · intro fits _
        constructor
        · change givenTo charge + (amount - givenTo charge) = amount
          ring
        · intro final found
          rw [List.map_nil, List.getLast?_append_cons, List.getLast?_singleton] at found
          rw [← Option.some.inj found]
          exact fits.2

/-! ## Nothing is taken -/

/-- A spread takes nothing from a line, and the payees of a charge are given all of it with
nothing taken from the last, exactly when the rounding fits; where no payee splits the rest,
the amounts that are named have to be the charge. -/
theorem spread_takes_nothing_iff (amount : Decimal) (weights : List Decimal)
    (amountMem : amount ∈ paise) (nonneg : 0 ≤ amount)
    (weightsNonneg : ∀ weight ∈ weights, 0 ≤ weight) (weighted : 0 < weights.sum)
    (charge : CalcChargeIn) (offBill : charge.onBill = false) (base : List BaseLine) :
    (KeepsWithin amount (spread amount weights) ↔ RoundingFits amount weights) ∧
      (SplitsWhole charge (chargeAmount charge base) ↔
        (charge.payees ≠ [] → openPayees charge = [] →
          givenTo charge = chargeAmount charge base) ∧
          RoundingFits (chargeAmount charge base - givenTo charge)
            ((openPayees charge).map fun _ => 1)) :=
  ⟨spread_within_iff amountMem nonneg weightsNonneg weighted, splitsWhole_iff offBill _⟩

/-- Loading off the bill, shared by two payees. -/
def sharedLoading : CalcChargeIn :=
  { fixedCharge "loading" .ADD 100 false with
    onBill := false
    payees := [⟨"first", some 40⟩, ⟨"second", none⟩]
    offBillLanding := fun _ => rfl }

theorem hundred_takes_nothing :
    (KeepsWithin 100 (spread 100 [1, 1, 1]) ↔ RoundingFits 100 [1, 1, 1]) ∧
      (SplitsWhole sharedLoading (chargeAmount sharedLoading []) ↔
        (sharedLoading.payees ≠ [] → openPayees sharedLoading = [] →
          givenTo sharedLoading = chargeAmount sharedLoading []) ∧
          RoundingFits (chargeAmount sharedLoading [] - givenTo sharedLoading)
            ((openPayees sharedLoading).map fun _ => 1)) :=
  spread_takes_nothing_iff 100 [1, 1, 1]
    (Grid.mem_grid_iff.mpr ⟨10000, by norm_num [Receipt.paisa]⟩) (by norm_num)
    (by decide +kernel) (by decide +kernel) sharedLoading rfl []

/-- Two paise over four lines: three of them get one each, and the last gives one back. -/
theorem twoPaise_take_one :
    spread (2 / 100) [1, 1, 1, 1] = [1 / 100, 1 / 100, 1 / 100, -1 / 100] ∧
      ¬KeepsWithin (2 / 100) (spread (2 / 100) [1, 1, 1, 1]) := by
  have shares : spread (2 / 100) [1, 1, 1, 1] = [1 / 100, 1 / 100, 1 / 100, -1 / 100] := by
    decide +kernel
  refine ⟨shares, ?_⟩
  rw [shares]
  intro within
  have last := (within.2 (-1 / 100) (by simp)).1
  norm_num at last

end ErpServer.Purchase
