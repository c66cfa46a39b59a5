import Mathlib.Algebra.BigOperators.Group.List.Basic
import Mathlib.Algebra.Group.Subgroup.Defs
import Mathlib.Algebra.Order.Group.MinMax
import Mathlib.Algebra.Order.BigOperators.Group.List

/-!
# Doling out in order

An amount is doled out to the holders of a list, each up to its room, until less than the
least worth doling is left.  Together they take the amount or all the room there is, unless
the walk is cut short; and doling the same amount back out of what they then hold retraces
the walk only past holders that held nothing.
-/

namespace Lib.Dole

variable {α K : Type*} [AddCommGroup K] [LinearOrder K]

/-- What each holder takes. -/
def doled (least : K) : K → List K → List K
  | _, [] => []
  | left, room :: rest =>
      if left < least then 0 :: doled least left rest
      else min room left :: doled least (left - min room left) rest

/-- Less than the least is left, and somebody still has room. -/
def CutShort (least left : K) (rooms : List K) : Prop :=
  ∃ before after, rooms = before ++ after ∧ 0 < left - before.sum ∧ left - before.sum < least ∧
    0 < after.sum

variable {least left : K} {rooms : List K}

instance : Decidable (CutShort least left rooms) :=
  decidable_of_iff (∃ size ≤ rooms.length, 0 < left - (rooms.take size).sum ∧
      left - (rooms.take size).sum < least ∧ 0 < (rooms.drop size).sum) <| by
    constructor
    · rintro ⟨size, -, cut⟩
      exact ⟨_, _, (List.take_append_drop size rooms).symm, cut⟩
    · rintro ⟨before, after, rfl, cut⟩
      exact ⟨before.length, by simp, by simpa using cut⟩

@[simp] theorem length_doled : (doled least left rooms).length = rooms.length := by
  induction rooms generalizing left with
  | nil => rfl
  | cons room rest ih =>
      rw [doled]
      split <;> simp [ih]

theorem doled_of_lt (little : left < least) : doled least left rooms = rooms.map fun _ => 0 := by
  induction rooms with
  | nil => rfl
  | cons room rest ih => rw [doled, if_pos little, ih, List.map_cons]

variable {room : K} {items : List α}

theorem doled_cons_of_le (enough : least ≤ left) : doled least left (room :: rooms) =
      min room left :: doled least (left - min room left) rooms := by
  rw [doled, if_neg (not_lt.mpr enough)]

variable [IsOrderedAddMonoid K]

theorem left_after_nonneg : 0 ≤ left - min room left :=
  sub_nonneg.mpr (min_le_right room left)

/-- Together they take the amount, or all the room there is. -/
theorem sum_doled (leftNonneg : 0 ≤ left) (nonneg : ∀ room ∈ rooms, 0 ≤ room)
    (whole : ¬CutShort least left rooms) :
    (doled least left rooms).sum = min rooms.sum left := by
  induction rooms generalizing left with
  | nil => exact (min_eq_left leftNonneg).symm
  | cons room rest ih =>
      have roomNonneg := nonneg room List.mem_cons_self
      have restNonneg : ∀ other ∈ rest, 0 ≤ other :=
        fun other member => nonneg other (List.mem_cons_of_mem _ member)
      have restSum : 0 ≤ rest.sum := List.sum_nonneg restNonneg
      by_cases little : left < least
      · -- nothing is doled, so nothing was left or nobody has room
        have nothing : left = 0 ∨ (room :: rest).sum = 0 := by
          by_contra something
          rw [not_or] at something
          apply whole
          refine ⟨[], room :: rest, rfl, ?_, ?_, ?_⟩
          · simpa using lt_of_le_of_ne leftNonneg (Ne.symm something.1)
          · simpa using little
          · exact lt_of_le_of_ne (List.sum_nonneg nonneg) (Ne.symm something.2)
        rw [doled_of_lt little, List.sum_eq_zero (by simp)]
        cases nothing with
        | inl spent => rw [spent, min_eq_right (List.sum_nonneg nonneg)]
        | inr full => rw [full, min_eq_left leftNonneg]
      · rw [not_lt] at little
        rw [doled_cons_of_le little, List.sum_cons, List.sum_cons]
        rcases le_total room left with fits | short
        · rw [min_eq_left fits, ih (sub_nonneg.mpr fits) restNonneg, ← min_add_add_left,
            add_sub_cancel]
          rintro ⟨before, after, split, more, less, space⟩
          exact whole ⟨room :: before, after, by rw [split, List.cons_append],
            by simpa [sub_sub] using more, by simpa [sub_sub] using less, space⟩
        · rw [min_eq_right short, sub_self, ih le_rfl restNonneg, min_eq_right restSum, add_zero,
            min_eq_right (short.trans (le_add_of_nonneg_right restSum))]
          rintro ⟨before, after, split, more, -⟩
          have beforeSum : 0 ≤ before.sum := by
            apply List.sum_nonneg
            intro other member
            exact restNonneg other (split ▸ List.mem_append_left _ member)
          rw [zero_sub, Left.neg_pos_iff] at more
          exact absurd more (not_lt.mpr beforeSum)

theorem sum_before_nonneg {room : α → K} {before after : List α} {item : α}
    (nonneg : ∀ item ∈ items, 0 ≤ room item) (split : items = before ++ item :: after) :
    0 ≤ (before.map room).sum := by
  apply List.sum_nonneg
  intro amount listed
  obtain ⟨holder, member, rfl⟩ := List.mem_map.mp listed
  exact nonneg holder (split ▸ List.mem_append_left _ member)

/-- What a holder takes of an amount that the rooms before him add up against. -/
def shareAt (least left before room : K) : K :=
  if left - before < least then 0 else min room (left - before)

/-- The walk past one holder is the walk over the rest with what he left. -/
theorem shareAt_next (positive : 0 < least) {before other : K} (roomNonneg : 0 ≤ room)
    (nonneg : 0 ≤ before) : shareAt least left (room + before) other =
      shareAt least (if left < least then left else left - min room left) before other := by
  rw [shareAt, shareAt]
  by_cases little : left < least
  · have stopped : left - before < least := (sub_le_self _ nonneg).trans_lt little
    have beyond : left - (room + before) < least :=
      (sub_le_self _ (add_nonneg roomNonneg nonneg)).trans_lt little
    rw [if_pos little, if_pos stopped, if_pos beyond]
  · rw [if_neg little]
    rcases le_total room left with fits | short
    · rw [min_eq_left fits, sub_sub]
    · have spent : left - (room + before) ≤ 0 :=
        sub_nonpos.mpr (short.trans (le_add_of_nonneg_right nonneg))
      rw [min_eq_right short, sub_self, zero_sub,
        if_pos ((neg_nonpos.mpr nonneg).trans_lt positive), if_pos (spent.trans_lt positive)]

/-- What holds of every holder and his share holds at every place of the list. -/
theorem forall₂_doled_iff (positive : 0 < least) {room : α → K}
    (nonneg : ∀ item ∈ items, 0 ≤ room item) (holds : α → K → Prop) :
    List.Forall₂ holds items (doled least left (items.map room)) ↔
      ∀ before item after, items = before ++ item :: after →
        holds item (shareAt least left (before.map room).sum (room item)) := by
  induction items generalizing left with
  | nil => simp [doled]
  | cons item rest ih =>
      have headRoom := nonneg item List.mem_cons_self
      have restRoom : ∀ other ∈ rest, 0 ≤ room other :=
        fun other member => nonneg other (List.mem_cons_of_mem _ member)
      have unfolded : doled least left ((item :: rest).map room) =
          shareAt least left 0 (room item) ::
            doled least (if left < least then left else left - min (room item) left)
              (rest.map room) := by
        rw [List.map_cons, doled, shareAt, sub_zero]
        split <;> rfl
      rw [unfolded, List.forall₂_cons, ih restRoom]
      constructor
      · rintro ⟨head, tail⟩ before other after split
        cases before with
        | nil =>
            rw [List.nil_append, List.cons.injEq] at split
            rw [← split.1]
            exact head
        | cons first before =>
            rw [List.cons_append, List.cons.injEq] at split
            obtain ⟨rfl, split⟩ := split
            rw [List.map_cons, List.sum_cons,
              shareAt_next positive headRoom (sum_before_nonneg restRoom split)]
            exact tail before other after split
      · intro all
        refine ⟨by simpa using all [] item rest rfl, ?_⟩
        intro before other after split
        rw [← shareAt_next positive headRoom (sum_before_nonneg restRoom split)]
        have found := all (item :: before) other after (by rw [split, List.cons_append])
        rwa [List.map_cons, List.sum_cons] at found

/-- Doled out of what the holders kept and took, the amount takes back what each took, just
when every holder the walk reached either kept nothing or had room for all that was left. -/
theorem doled_again_iff (positive : 0 < least) {kept room : α → K}
    (keptNonneg : ∀ item ∈ items, 0 ≤ kept item) (roomNonneg : ∀ item ∈ items, 0 ≤ room item) :
    doled least left
        (List.zipWith (fun item share => kept item + share) items (doled least left (items.map room))) =
      doled least left (items.map room) ↔
    ∀ before item after, items = before ++ item :: after →
      least ≤ left - (before.map room).sum →
      kept item = 0 ∨ left - (before.map room).sum ≤ room item := by
  induction items generalizing left with
  | nil => simp [doled]
  | cons item rest ih =>
      have headKept := keptNonneg item List.mem_cons_self
      have headRoom := roomNonneg item List.mem_cons_self
      have restKept : ∀ other ∈ rest, 0 ≤ kept other :=
        fun other member => keptNonneg other (List.mem_cons_of_mem _ member)
      have restRoom : ∀ other ∈ rest, 0 ≤ room other :=
        fun other member => roomNonneg other (List.mem_cons_of_mem _ member)
      by_cases little : left < least
      · rw [doled_of_lt little, doled_of_lt little]
        constructor
        · intro _ before other after split reached
          have beforeSum := sum_before_nonneg roomNonneg split
          exact absurd (reached.trans (sub_le_self _ beforeSum)) (not_le.mpr little)
        · intro _
          simp only [List.map_const', List.length_zipWith, List.length_map, List.length_replicate,
            min_self]
      · rw [not_lt] at little
        rw [List.map_cons, doled_cons_of_le little, List.zipWith_cons_cons,
          doled_cons_of_le little, List.cons.injEq]
        have head : min (kept item + min (room item) left) left = min (room item) left ↔
            kept item = 0 ∨ left ≤ room item := by
          constructor
          · intro same
            rcases min_choice (kept item + min (room item) left) left with first | second
            · rw [first, add_eq_right] at same
              exact .inl same
            · rw [second] at same
              exact .inr (same ▸ min_le_left _ _)
          · rintro (none | enough)
            · rw [none, zero_add, min_eq_left (min_le_right _ _)]
            · rw [min_eq_right enough]
              exact min_eq_right (le_add_of_nonneg_left headKept)
        -- past a holder with less room than is left the walk is the same on both sides
        have onward (enough : room item ≤ left) : left - min (room item) left = left - room item := by
          rw [min_eq_left enough]
        constructor
        · rintro ⟨same, tail⟩
          rw [same] at tail
          have later := (ih restKept restRoom).mp tail
          intro before other after split reached
          cases before with
          | nil =>
              rw [List.nil_append, List.cons.injEq] at split
              rw [← split.1]
              simpa using head.mp same
          | cons first before =>
              rw [List.cons_append, List.cons.injEq] at split
              obtain ⟨rfl, split⟩ := split
              have beforeSum := sum_before_nonneg restRoom split
              rw [List.map_cons, List.sum_cons, ← sub_sub] at reached ⊢
              have enough : room item ≤ left := by
                have spare := positive.le.trans (reached.trans (sub_le_self _ beforeSum))
                exact sub_nonneg.mp spare
              have found := later before other after split
              rw [onward enough] at found
              exact found reached
        · intro all
          have same := head.mpr (by simpa using all [] item rest rfl (by simpa using little))
          refine ⟨same, ?_⟩
          rw [same]
          apply (ih restKept restRoom).mpr
          intro before other after split reached
          have beforeSum := sum_before_nonneg restRoom split
          have enough : room item ≤ left := by
            by_contra short
            rw [min_eq_right (not_le.mp short).le, sub_self, zero_sub] at reached
            exact absurd (positive.trans_le reached) (not_lt.mpr (neg_nonpos.mpr beforeSum))
          rw [onward enough] at reached ⊢
          have found := all (item :: before) other after (by rw [split, List.cons_append])
          rw [List.map_cons, List.sum_cons, ← sub_sub] at found
          exact found reached

end Lib.Dole
