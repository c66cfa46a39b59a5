import Mathlib.Algebra.BigOperators.Group.List.Basic
import Mathlib.Algebra.Order.Group.Basic
import Mathlib.Algebra.Order.Group.MinMax
import Mathlib.Algebra.Order.BigOperators.Group.List
import Mathlib.Data.List.Nodup

/-!
# Filling in order

An amount fills the holders of a list one after the other, each up to its own room,
until nothing is left.  What a holder takes, what all of them take, and what the order
promises: a holder that takes anything stands behind full ones.
-/

namespace Lib.InOrder

variable {α K : Type*} [DecidableEq α] [AddCommGroup K] [LinearOrder K]

/-- What one holder of the list takes of the amount. -/
def taken (room : α → K) : K → List α → α → K
  | _, [], _ => 0
  | left, holder :: rest, query =>
      if query = holder then min left (room holder)
      else taken room (left - min left (room holder)) rest query

variable {room : α → K} {left : K} {holders : List α}

theorem taken_of_not_mem {query : α} (absent : query ∉ holders) :
    taken room left holders query = 0 := by
  induction holders generalizing left with
  | nil => rfl
  | cons holder rest ih =>
      rw [List.mem_cons, not_or] at absent
      rw [taken, if_neg absent.1]
      exact ih absent.2

variable [IsOrderedAddMonoid K]

/-- What the first holder leaves is still an amount. -/
private theorem rest_nonneg (left amount : K) : 0 ≤ left - min left amount :=
  sub_nonneg.mpr (min_le_left left amount)

section Bounds

variable (rooms : ∀ holder, 0 ≤ room holder) (nonneg : 0 ≤ left)

include rooms nonneg

theorem taken_nonneg (query : α) : 0 ≤ taken room left holders query := by
  induction holders generalizing left with
  | nil => exact le_rfl
  | cons holder rest ih =>
      rw [taken]
      split
      · exact le_min nonneg (rooms holder)
      · exact ih (rest_nonneg _ _)

theorem taken_le_room (query : α) : taken room left holders query ≤ room query := by
  induction holders generalizing left with
  | nil => exact rooms query
  | cons holder rest ih =>
      rw [taken]
      split
      next here =>
        rw [here]
        exact min_le_right _ _
      next => exact ih (rest_nonneg _ _)

theorem taken_le_left (query : α) : taken room left holders query ≤ left := by
  induction holders generalizing left with
  | nil => exact nonneg
  | cons holder rest ih =>
      rw [taken]
      split
      · exact min_le_left _ _
      · have smaller := ih (rest_nonneg left (room holder))
        exact smaller.trans (sub_le_self _ (le_min nonneg (rooms holder)))

/-- All the holders together take the amount, or everything they have room for. -/
theorem sum_taken (nodup : holders.Nodup) :
    (holders.map (taken room left holders)).sum = min left (holders.map room).sum := by
  induction holders generalizing left with
  | nil => exact (min_eq_right nonneg).symm
  | cons holder rest ih =>
      rw [List.nodup_cons] at nodup
      have later : rest.map (taken room left (holder :: rest)) =
          rest.map (taken room (left - min left (room holder)) rest) := by
        apply List.map_congr_left
        intro query member
        have different : query ≠ holder := fun equal => nodup.1 (equal ▸ member)
        rw [taken, if_neg different]
      rw [List.map_cons, List.sum_cons, later, ih (rest_nonneg _ _) nodup.2, List.map_cons,
        List.sum_cons, taken, if_pos rfl]
      have restRoom : 0 ≤ (rest.map room).sum := by
        apply List.sum_nonneg
        intro value member
        rw [List.mem_map] at member
        cases member with
        | intro query facts => exact facts.2 ▸ rooms query
      rcases le_total left (room holder) with short | enough
      · rw [min_eq_left short, sub_self, min_eq_left restRoom, add_zero]
        exact (min_eq_left (short.trans (le_add_of_nonneg_right restRoom))).symm
      · rw [min_eq_right enough, ← min_add_add_left, add_sub_cancel]

/-- With room to spare every holder is filled. -/
theorem taken_eq_room (fits : (holders.map room).sum ≤ left) {query : α}
    (member : query ∈ holders) : taken room left holders query = room query := by
  induction holders generalizing left with
  | nil => cases member
  | cons holder rest ih =>
      rw [List.map_cons, List.sum_cons] at fits
      have restRoom : 0 ≤ (rest.map room).sum := by
        apply List.sum_nonneg
        intro value valueMem
        rw [List.mem_map] at valueMem
        cases valueMem with
        | intro other facts => exact facts.2 ▸ rooms other
      have enough : room holder ≤ left := (le_add_of_nonneg_right restRoom).trans fits
      rw [taken, min_eq_right enough]
      split
      next here => rw [here]
      next different =>
        apply ih (sub_nonneg.mpr enough) (le_sub_iff_add_le'.mpr fits)
        exact (List.mem_cons.mp member).resolve_left different

end Bounds

/-! ## The order -/

section Order

variable {κ : Type*} [LinearOrder κ] (key : α → κ) (rooms : ∀ holder, 0 ≤ room holder)
  (nonneg : 0 ≤ left) (sorted : holders.Pairwise fun before after => key before ≤ key after)

include rooms nonneg sorted

/-- Whoever takes anything stands behind full holders. -/
theorem earlier_full {earlier later : α} (member : earlier ∈ holders)
    (before : key earlier < key later) (reached : 0 < taken room left holders later) :
    taken room left holders earlier = room earlier := by
  induction holders generalizing left with
  | nil => cases member
  | cons holder rest ih =>
      rw [List.pairwise_cons] at sorted
      have notHead : later ≠ holder := by
        intro equal
        rw [equal] at before
        rcases List.mem_cons.mp member with here | further
        · exact lt_irrefl _ (here ▸ before)
        · exact not_lt_of_ge (sorted.1 earlier further) before
      rw [taken, if_neg notHead] at reached
      rw [taken]
      split
      next here =>
        rw [here]
        have leftOver : 0 < left - min left (room holder) :=
          reached.trans_le (taken_le_left rooms (rest_nonneg _ _) later)
        apply min_eq_right
        by_contra short
        rw [min_eq_left (not_le.mp short).le, sub_self] at leftOver
        exact lt_irrefl _ leftOver
      next different =>
        exact ih (rest_nonneg _ _) sorted.2 ((List.mem_cons.mp member).resolve_left different)
          reached

/-- Where the holders up to a key have room for all of it, nothing goes past them. -/
theorem taken_past {bound : κ}
    (covered : left ≤ ((holders.filter fun holder => key holder ≤ bound).map room).sum)
    {later : α} (past : bound < key later) : taken room left holders later = 0 := by
  induction holders generalizing left with
  | nil => rfl
  | cons holder rest ih =>
      rw [List.pairwise_cons] at sorted
      by_cases within : key holder ≤ bound
      · rw [List.filter_cons_of_pos (by simpa using within), List.map_cons,
          List.sum_cons] at covered
        have notHead : later ≠ holder := by
          intro equal
          exact not_lt_of_ge within (equal ▸ past)
        rw [taken, if_neg notHead]
        apply ih (rest_nonneg _ _) sorted.2
        rcases le_total left (room holder) with short | enough
        · rw [min_eq_left short, sub_self]
          apply List.sum_nonneg
          intro value member
          rw [List.mem_map] at member
          cases member with
          | intro query facts => exact facts.2 ▸ rooms query
        · rw [min_eq_right enough]
          exact sub_le_iff_le_add'.mpr covered
      · -- The list is sorted, so no holder from here on lies within the bound.
        have none : (holder :: rest).filter (fun other => key other ≤ bound) = [] := by
          apply List.filter_eq_nil_iff.mpr
          intro other member inside
          rcases List.mem_cons.mp member with here | further
          · exact within (here ▸ of_decide_eq_true inside)
          · exact within ((sorted.1 other further).trans (of_decide_eq_true inside))
        rw [none] at covered
        have dry : left = 0 := le_antisymm covered nonneg
        apply le_antisymm _ (taken_nonneg rooms nonneg later)
        rw [← dry]
        exact taken_le_left rooms nonneg later

end Order

end Lib.InOrder
