import Mathlib.Algebra.BigOperators.Group.List.Basic
import Mathlib.Algebra.Field.Basic
import Mathlib.Algebra.Group.Submonoid.BigOperators
import Mathlib.Algebra.Group.Subgroup.Basic
import Mathlib.Algebra.BigOperators.GroupWithZero.Action
import Mathlib.Tactic.Ring

/-!
# Spreading an amount by weights, the residue on the last share

Every weighted entry gets its rounded share, and the last of them also gets what the
rounding left over.  Whatever the rounding is, nothing is lost unless the weights
come to nothing.
-/

namespace Lib.Spread

variable {K : Type*} [Field K] [DecidableEq K]

/-- The last entry that takes a share. -/
def lastWeighted (weights : List K) : Option ℕ :=
  weights.zipIdx.foldl (fun last entry => if entry.1 = 0 then last else some entry.2) none

/-- Each share rounded on its own. -/
def shares (round : K → K) (amount total : K) (weights : List K) : List K :=
  weights.map fun weight => if weight = 0 then 0 else round (amount * weight / total)

def spread (round : K → K) (amount : K) (weights : List K) : List K :=
  let total := weights.sum
  if total = 0 ∨ amount = 0 then weights.map fun _ => 0
  else
    let out := shares round amount total weights
    match lastWeighted weights with
    | none => out
    | some last => out.set last (out.getD last 0 + (amount - out.sum))

theorem lastWeighted_spec (weights : List K) :
    match lastWeighted weights with
    | none => ∀ weight ∈ weights, weight = 0
    | some last => ∃ weight, weights[last]? = some weight ∧ weight ≠ 0 := by
  unfold lastWeighted
  induction weights using List.reverseRecOn with
  | nil => simp
  | append_singleton weights weight ih =>
      rw [List.zipIdx_append, List.foldl_append]
      simp only [List.zipIdx_singleton, List.foldl_cons, List.foldl_nil, Nat.zero_add]
      by_cases zero : weight = 0
      · rw [if_pos zero]
        split at ih
        next none =>
          intro other member
          rcases List.mem_append.mp member with earlier | here
          · exact ih other earlier
          · rw [List.mem_singleton.mp here, zero]
        next last found =>
          obtain ⟨other, atLast, nonzero⟩ := ih
          have inside : last < weights.length := by
            by_contra outside
            rw [List.getElem?_eq_none (not_lt.mp outside)] at atLast
            cases atLast
          refine ⟨other, ?_, nonzero⟩
          rw [List.getElem?_append_left inside, atLast]
      · rw [if_neg zero]
        exact ⟨weight, by simp, zero⟩

variable (round : K → K) (amount : K)

@[simp] theorem length_spread (weights : List K) :
    (spread round amount weights).length = weights.length := by
  simp only [spread]
  split
  · simp
  · split <;> simp [shares]

/-- The shares add up to the amount, unless the weights add up to nothing. -/
theorem sum_spread (weights : List K) :
    (spread round amount weights).sum = if weights.sum = 0 then 0 else amount := by
  simp only [spread]
  split
  next nothing =>
    rw [List.map_const', List.sum_replicate, smul_zero]
    rcases nothing with noWeight | noAmount
    · rw [if_pos noWeight]
    · rw [noAmount, ite_self]
  next something =>
    rw [not_or] at something
    rw [if_neg something.1]
    have spec := lastWeighted_spec weights
    split at spec
    next none =>
      exact absurd (List.sum_eq_zero spec) something.1
    next last found =>
      obtain ⟨weight, atLast, -⟩ := spec
      have inside : last < (shares round amount weights.sum weights).length := by
        by_contra outside
        rw [shares, List.length_map, not_lt] at outside
        rw [List.getElem?_eq_none outside] at atLast
        cases atLast
      rw [List.sum_set', dif_pos inside, List.getD_eq_getElem?_getD,
        List.getElem?_eq_getElem inside, Option.getD_some]
      ring

variable {weights : List K}

variable {index : ℕ} {last : K} {front rest : List K}

theorem getElem?_shares {total : K} (zero : weights[index]? = some 0) :
    (shares round amount total weights)[index]? = some 0 := by
  simp [shares, zero]

/-- An entry without weight takes no share. -/
theorem getElem?_spread (zero : weights[index]? = some 0) :
    (spread round amount weights)[index]? = some 0 := by
  simp only [spread]
  split
  · rw [List.getElem?_map, zero]
    rfl
  · have spec := lastWeighted_spec weights
    cases found : lastWeighted weights with
    | none => exact getElem?_shares round amount zero
    | some last =>
        rw [found] at spec
        obtain ⟨weight, atLast, nonzero⟩ := spec
        have apart : last ≠ index := by
          intro same
          rw [same, zero] at atLast
          exact nonzero (Option.some.inj atLast).symm
        simp only
        rw [List.getElem?_set_ne apart]
        exact getElem?_shares round amount zero

theorem spread_unweighted (weights : List K) {entry : K × K}
    (member : entry ∈ weights.zip (spread round amount weights)) (zero : entry.1 = 0) :
    entry.2 = 0 := by
  obtain ⟨index, found⟩ := List.mem_iff_getElem?.mp member
  rw [List.getElem?_zip_eq_some] at found
  rw [zero] at found
  have none := getElem?_spread round amount found.1
  rw [found.2] at none
  exact Option.some.inj none

/-- On a grid that holds the amount and every rounded figure, the shares are on it. -/
theorem spread_mem {group : AddSubgroup K} (amountMem : amount ∈ group)
    (rounds : ∀ value, round value ∈ group) (weights : List K) :
    ∀ share ∈ spread round amount weights, share ∈ group := by
  have sharesMem : ∀ share ∈ shares round amount weights.sum weights, share ∈ group := by
    intro share member
    obtain ⟨weight, -, rfl⟩ := List.mem_map.mp member
    split
    · exact zero_mem group
    · exact rounds _
  simp only [spread]
  split
  · intro share member
    obtain ⟨weight, -, rfl⟩ := List.mem_map.mp member
    exact zero_mem group
  · split
    · exact sharesMem
    next last found =>
      intro share member
      rcases List.mem_or_eq_of_mem_set member with old | new
      · exact sharesMem share old
      · rw [new]
        apply add_mem
        · rw [List.getD_eq_getElem?_getD]
          cases atLast : (shares round amount weights.sum weights)[last]? with
          | none => exact zero_mem group
          | some kept => exact sharesMem kept (List.mem_of_getElem? atLast)
        · exact sub_mem amountMem (list_sum_mem sharesMem)

/-- Weights that come to something have a last one that counts. -/
theorem exists_last_weighted (weighted : weights.sum ≠ 0) :
    ∃ front last rest, weights = front ++ last :: rest ∧ last ≠ 0 ∧
      ∀ weight ∈ rest, weight = 0 := by
  induction weights using List.reverseRecOn with
  | nil => exact absurd rfl weighted
  | append_singleton before weight ih =>
      by_cases zero : weight = 0
      · rw [zero, List.sum_append, List.sum_singleton, add_zero] at weighted
        obtain ⟨front, last, rest, cut, nonzero, zeros⟩ := ih weighted
        refine ⟨front, last, rest ++ [weight], ?_, nonzero, ?_⟩
        · rw [cut, List.append_assoc, List.cons_append]
        · intro other member
          cases List.mem_append.mp member with
          | inl earlier => exact zeros other earlier
          | inr here => rw [List.mem_singleton.mp here, zero]
      · exact ⟨before, weight, [], rfl, zero, fun other member => absurd member List.not_mem_nil⟩

theorem lastWeighted_split (nonzero : last ≠ 0) (zeros : ∀ weight ∈ rest, weight = 0) :
    lastWeighted (front ++ last :: rest) = some front.length := by
  unfold lastWeighted
  induction rest using List.reverseRecOn with
  | nil =>
      rw [List.zipIdx_append, List.foldl_append]
      simp [nonzero]
  | append_singleton earlier weight ih =>
      have before := ih fun other member => zeros other (List.mem_append_left _ member)
      have zero := zeros weight (by simp)
      rw [← List.cons_append, ← List.append_assoc, List.zipIdx_append, List.foldl_append, before]
      simp [zero]

/-- The last weighted entry takes what the rounded shares before it leave, those behind it
nothing. -/
theorem spread_split (round : K → K) {amount : K} (someAmount : amount ≠ 0) (nonzero : last ≠ 0)
    (zeros : ∀ weight ∈ rest, weight = 0) (weighted : (front ++ last :: rest).sum ≠ 0) :
    spread round amount (front ++ last :: rest) =
      shares round amount (front ++ last :: rest).sum front ++
        (amount - (shares round amount (front ++ last :: rest).sum front).sum) ::
          rest.map fun _ => 0 := by
  simp only [spread]
  rw [if_neg (not_or.mpr ⟨weighted, someAmount⟩), lastWeighted_split nonzero zeros]
  generalize (front ++ last :: rest).sum = total
  have behind : shares round amount total rest = rest.map fun _ => 0 := by
    apply List.map_congr_left
    intro weight member
    rw [if_pos (zeros weight member)]
  have cut : shares round amount total (front ++ last :: rest) =
      shares round amount total front ++ round (amount * last / total) :: rest.map fun _ => 0 := by
    rw [← behind]
    simp [shares, nonzero]
  have place : front.length = (shares round amount total front).length := by simp [shares]
  have here : (shares round amount total front ++
      round (amount * last / total) :: rest.map fun _ => 0).getD front.length 0 =
        round (amount * last / total) := by
    rw [List.getD_eq_getElem?_getD, place, List.getElem?_append_right le_rfl, Nat.sub_self]
    rfl
  rw [cut]
  simp only
  rw [here, place, List.set_append_right _ _ le_rfl, Nat.sub_self, List.set_cons_zero,
    List.sum_append, List.sum_cons, List.map_const', List.sum_replicate, smul_zero]
  congr 2
  ring

end Lib.Spread
