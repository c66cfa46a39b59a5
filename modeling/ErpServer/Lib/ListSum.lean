import Mathlib.Algebra.BigOperators.Group.List.Basic
import Mathlib.Algebra.BigOperators.Group.Multiset.Basic
import Mathlib.Algebra.Order.BigOperators.Group.List
import Mathlib.Algebra.Order.Group.Basic
import Mathlib.Data.List.Nodup
import Mathlib.Tactic.Abel
import ErpServer.Lib.Fold

/-!
# Sums over keyed lists

Sums over lists whose items carry distinct keys: the sum over one key is the
figure of its item, and two lists with the same keys and agreeing figures have the
same sum.
-/

namespace Lib.ListSum

variable {α β κ M : Type*} [AddCommMonoid M]

theorem sum_filter_add (items : List α) (amount : α → M) (kind : α → Bool) :
    ((items.filter kind).map amount).sum + ((items.filter fun item => !kind item).map amount).sum =
      (items.map amount).sum := by
  induction items with
  | nil => simp
  | cons item rest ih =>
      rw [List.map_cons, List.sum_cons, ← ih]
      cases kindEq : kind item
      · simp [kindEq, add_left_comm]
      · simp [kindEq, add_assoc]

variable {item : α} {others : List β}

/-- One item modified. -/
theorem sum_map_modify {items : List α} {index : ℕ} (found : items[index]? = some item)
    (amount : α → M) (modified : α → α) :
    ((items.modify index modified).map amount).sum + amount item =
      (items.map amount).sum + amount (modified item) := by
  obtain ⟨within, rfl⟩ := List.getElem?_eq_some_iff.mp found
  have split : items = items.take index ++ items[index] :: items.drop (index + 1) := by simp
  have whole : (items.map amount).sum = ((items.take index).map amount).sum +
      (amount items[index] + ((items.drop (index + 1)).map amount).sum) := by
    rw [← List.sum_cons, ← List.map_cons, ← List.sum_append, ← List.map_append, ← split]
  rw [whole, List.modify_eq_take_cons_drop within]
  simp only [List.map_append, List.map_cons, List.sum_append, List.sum_cons]
  abel

variable {amount : α → M} {otherKey : β → κ}

/-- What counts for nothing may be left out. -/
theorem sum_filter_of_zero {items : List α} {kind : α → Bool}
    (zero : ∀ item ∈ items, kind item = false → amount item = 0) :
    ((items.filter kind).map amount).sum = (items.map amount).sum := by
  rw [← sum_filter_add items amount kind]
  have none : ((items.filter fun item => !kind item).map amount).sum = 0 := by
    apply List.sum_eq_zero
    intro value member
    obtain ⟨item, itemMember, rfl⟩ := List.mem_map.mp member
    rw [List.mem_filter, Bool.not_eq_true'] at itemMember
    exact zero item itemMember.1 itemMember.2
  rw [none, add_zero]

theorem sum_ite_filter (items : List α) (amount : α → M) (kind : α → Bool) :
    (items.map fun item => if kind item then amount item else 0).sum =
      ((items.filter kind).map amount).sum := by
  induction items with
  | nil => rfl
  | cons item rest ih => cases kindEq : kind item <;> simp [kindEq, ih]

theorem sum_map_sub {G : Type*} [AddCommGroup G] (items : List α) (amount less : α → G) :
    (items.map fun item => amount item - less item).sum =
      (items.map amount).sum - (items.map less).sum := by
  simpa using Multiset.sum_map_sub (m := (items : Multiset α)) (f := amount) (g := less)

theorem sum_map_neg {G : Type*} [AddCommGroup G] (items : List α) (amount : α → G) :
    (items.map fun item => -amount item).sum = -(items.map amount).sum := by
  simpa using Multiset.sum_map_neg (m := (items : Multiset α)) (f := amount)

variable {keyOf : α → κ} {items : List α}

/-- Two lists of distinct keys that have the same keys and agree on each. -/
theorem sum_eq_of_keys {otherAmount : β → M} (nodup : (items.map keyOf).Nodup)
    (otherNodup : (others.map otherKey).Nodup)
    (same : ∀ key, key ∈ items.map keyOf ↔ key ∈ others.map otherKey)
    (agree : ∀ item ∈ items, ∀ other ∈ others, keyOf item = otherKey other →
      amount item = otherAmount other) : (items.map amount).sum = (others.map otherAmount).sum := by
  induction items generalizing others with
  | nil =>
      have empty : others = [] := by
        refine List.eq_nil_iff_forall_not_mem.mpr fun other member => ?_
        simpa using (same (otherKey other)).mpr (List.mem_map_of_mem member)
      simp [empty]
  | cons item rest ih =>
      obtain ⟨other, otherMem, keyEq⟩ :=
        List.mem_map.mp ((same (keyOf item)).mp (List.mem_map_of_mem List.mem_cons_self))
      obtain ⟨before, after, rfl⟩ := List.append_of_mem otherMem
      have perm : (before ++ other :: after).Perm (other :: (before ++ after)) :=
        List.perm_middle
      have nodup' := (perm.map otherKey).nodup_iff.mp otherNodup
      simp only [List.map_cons, List.nodup_cons] at nodup nodup'
      have restSame : ∀ key, key ∈ rest.map keyOf ↔ key ∈ (before ++ after).map otherKey := by
        intro key
        have whole := same key
        rw [(perm.map otherKey).mem_iff, List.map_cons, List.map_cons, List.mem_cons,
          List.mem_cons, keyEq] at whole
        constructor
        · intro member
          refine (whole.mp (Or.inr member)).resolve_left ?_
          rintro rfl
          exact nodup.1 member
        · intro member
          refine (whole.mpr (Or.inr member)).resolve_left ?_
          rintro rfl
          exact nodup'.1 (keyEq ▸ member)
      have restAgree : ∀ item ∈ rest, ∀ other ∈ before ++ after, keyOf item = otherKey other →
          amount item = otherAmount other := fun item itemMem other otherMem =>
        agree item (List.mem_cons_of_mem _ itemMem) other
          (perm.mem_iff.mpr (List.mem_cons_of_mem _ otherMem))
      rw [(perm.map otherAmount).sum_eq, List.map_cons, List.map_cons, List.sum_cons,
        List.sum_cons, ih nodup.2 nodup'.2 restSame restAgree,
        agree item List.mem_cons_self other otherMem keyEq.symm]

/-- Items that are each matched with another of the same amount, no two with the same
one, come to no more than the others. -/
theorem sum_le_of_matched {N : Type*} [AddCommMonoid N] [PartialOrder N] [IsOrderedAddMonoid N]
    {amount : α → N} {otherAmount : β → N} (nodup : (items.map keyOf).Nodup)
    (matched : ∀ item ∈ items, ∃ other ∈ others,
      otherKey other = keyOf item ∧ amount item = otherAmount other)
    (nonneg : ∀ other ∈ others, 0 ≤ otherAmount other) :
    (items.map amount).sum ≤ (others.map otherAmount).sum := by
  induction items generalizing others with
  | nil =>
      apply List.sum_nonneg
      intro value member
      obtain ⟨other, otherMem, rfl⟩ := List.mem_map.mp member
      exact nonneg other otherMem
  | cons item rest ih =>
      simp only [List.map_cons, List.nodup_cons] at nodup
      obtain ⟨other, otherMem, keyEq, same⟩ := matched item List.mem_cons_self
      obtain ⟨before, after, rfl⟩ := List.append_of_mem otherMem
      have perm : (before ++ other :: after).Perm (other :: (before ++ after)) :=
        List.perm_middle
      have later : (rest.map amount).sum ≤ ((before ++ after).map otherAmount).sum := by
        apply ih nodup.2
        · intro item' member
          obtain ⟨partner, partnerMem, partnerKey, partnerSame⟩ :=
            matched item' (List.mem_cons_of_mem _ member)
          rcases List.mem_cons.mp (perm.mem_iff.mp partnerMem) with rfl | within
          · refine (nodup.1 ?_).elim
            rw [← keyEq, partnerKey]
            exact List.mem_map_of_mem member
          · exact ⟨partner, within, partnerKey, partnerSame⟩
        · intro entry member
          exact nonneg entry (perm.mem_iff.mpr (List.mem_cons_of_mem _ member))
      rw [(perm.map otherAmount).sum_eq, List.map_cons, List.map_cons, List.sum_cons,
        List.sum_cons, same]
      exact add_le_add_right later _

/-- A sum with at most one item below zero is no lower than that item may be. -/
theorem neg_le_sum_of_one {N : Type*} [AddCommGroup N] [LinearOrder N] [IsOrderedAddMonoid N]
    {amount : α → N} {bound : N} (nonneg : 0 ≤ bound) (above : ∀ item ∈ items, -bound ≤ amount item)
    (one : items.Pairwise fun item other => 0 ≤ amount item ∨ 0 ≤ amount other) :
    -bound ≤ (items.map amount).sum := by
  induction items with
  | nil => exact Left.neg_nonpos_iff.mpr nonneg
  | cons item rest ih =>
      rw [List.pairwise_cons] at one
      rw [List.map_cons, List.sum_cons]
      have restAbove := fun other member => above other (List.mem_cons_of_mem item member)
      rcases le_or_gt 0 (amount item) with positive | negative
      · exact (ih restAbove one.2).trans (le_add_of_nonneg_left positive)
      · have restNonneg : 0 ≤ (rest.map amount).sum := by
          apply List.sum_nonneg
          intro value member
          obtain ⟨other, otherMem, rfl⟩ := List.mem_map.mp member
          exact (one.1 other otherMem).resolve_left (not_le.mpr negative)
        exact (above item List.mem_cons_self).trans (le_add_of_nonneg_right restNonneg)

variable [DecidableEq κ]

theorem filter_key_eq (nodup : (items.map keyOf).Nodup) (member : item ∈ items) :
    items.filter (fun other => keyOf other = keyOf item) = [item] := by
  induction items with
  | nil => simp at member
  | cons head rest ih =>
      simp only [List.map_cons, List.nodup_cons] at nodup
      rcases List.mem_cons.mp member with rfl | later
      · have none : rest.filter (fun other => keyOf other = keyOf item) = [] := by
          refine List.filter_eq_nil_iff.mpr fun other otherMem same => ?_
          exact nodup.1 (of_decide_eq_true same ▸ List.mem_map_of_mem otherMem)
        simp [none]
      · have different : keyOf head ≠ keyOf item := fun same =>
          nodup.1 (same ▸ List.mem_map_of_mem later)
        simpa [different] using ih nodup.2 later

/-- Only the item of the key counts. -/
theorem sum_key (nodup : (items.map keyOf).Nodup) (amount : α → M) (member : item ∈ items) :
    (items.map fun other => if keyOf other = keyOf item then amount other else 0).sum =
      amount item := by
  have filtered := sum_ite_filter items amount fun other => keyOf other = keyOf item
  simp only [decide_eq_true_eq, filter_key_eq nodup member] at filtered
  simpa using filtered

/-- Two sums that differ at one key only. -/
theorem sum_map_of_key {G : Type*} [AddCommGroup G] (nodup : (items.map keyOf).Nodup)
    {before after : α → G} (member : item ∈ items)
    (agree : ∀ other ∈ items, keyOf other ≠ keyOf item → after other = before other) :
    (items.map after).sum = (items.map before).sum - before item + after item := by
  have change := sum_key nodup (fun other => after other - before other) member
  have whole : (items.map fun other => if keyOf other = keyOf item then
      after other - before other else 0) = items.map fun other => after other - before other := by
    apply List.map_congr_left
    intro other listed
    split
    · rfl
    · next elsewhere => rw [agree other listed elsewhere, sub_self]
  rw [whole, sum_map_sub] at change
  rw [sub_eq_iff_eq_add.mp change]
  abel

/-- What every item of a list adds to is what its owners are added to, where each item
has exactly one owner. -/
theorem sum_by_owner {ownerOf : β → Option κ} (nodup : (items.map keyOf).Nodup) (amount : β → M)
    (owned : ∀ other ∈ others, ∃ item ∈ items, ownerOf other = some (keyOf item)) :
    (others.map amount).sum = (items.map fun item =>
      ((others.filter fun other => ownerOf other = some (keyOf item)).map amount).sum).sum := by
  induction others with
  | nil => simp
  | cons other rest ih =>
      obtain ⟨owner, ownerMem, owns⟩ := owned other List.mem_cons_self
      have each (item : α) :
          (((other :: rest).filter fun entry => ownerOf entry = some (keyOf item)).map amount).sum =
            (if keyOf item = keyOf owner then amount other else 0) +
              ((rest.filter fun entry => ownerOf entry = some (keyOf item)).map amount).sum := by
        by_cases same : keyOf item = keyOf owner
        · simp [owns, same]
        · simp [owns, same, Ne.symm same]
      have single := sum_key nodup (fun _ => amount other) ownerMem
      simp only [each]
      rw [List.sum_map_add, single, List.map_cons, List.sum_cons,
        ih fun entry member => owned entry (List.mem_cons_of_mem _ member)]

/-- Of blocks laid end to end, each carrying the key of its owner, the owners' keys
distinct, filtering by a key gives the block of its owner back. -/
theorem filter_flatten_key {entryKey : β → κ} {relate : α → List β → Prop} {blocks : List (List β)}
    (nodup : (items.map keyOf).Nodup)
    (carries : ∀ item block, relate item block → ∀ entry ∈ block, entryKey entry = keyOf item)
    (pairs : List.Forall₂ relate items blocks) (member : item ∈ items) :
    ∃ block, relate item block ∧
      blocks.flatten.filter (fun entry => entryKey entry = keyOf item) = block := by
  induction pairs with
  | nil => cases member
  | @cons head first rest others here later ih =>
      simp only [List.map_cons, List.nodup_cons] at nodup
      rw [List.flatten_cons]
      rcases List.mem_cons.mp member with rfl | member
      · refine ⟨first, here, ?_⟩
        have whole : first.filter (fun entry => entryKey entry = keyOf item) = first := by
          rw [List.filter_eq_self]
          intro entry entryMem
          simpa using carries item first here entry entryMem
        have none : others.flatten.filter (fun entry => entryKey entry = keyOf item) = [] := by
          rw [List.filter_eq_nil_iff]
          intro entry entryMem same
          obtain ⟨block, blockMem, inBlock⟩ := List.mem_flatten.mp entryMem
          obtain ⟨owner, ownerMem, owns⟩ := Fold.forall₂_right later blockMem
          apply nodup.1
          rw [← of_decide_eq_true same, carries owner block owns entry inBlock]
          exact List.mem_map_of_mem ownerMem
        rw [List.filter_append, whole, none, List.append_nil]
      · obtain ⟨block, owns, found⟩ := ih nodup.2 member
        refine ⟨block, owns, ?_⟩
        have none : first.filter (fun entry => entryKey entry = keyOf item) = [] := by
          rw [List.filter_eq_nil_iff]
          intro entry entryMem same
          apply nodup.1
          rw [← carries head first here entry entryMem, of_decide_eq_true same]
          exact List.mem_map_of_mem member
        rw [List.filter_append, none, List.nil_append, found]

end Lib.ListSum
