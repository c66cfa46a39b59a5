import Mathlib.Algebra.BigOperators.Group.List.Basic
import Mathlib.Algebra.Order.Group.Basic
import Mathlib.Algebra.Order.Group.MinMax
import Mathlib.Algebra.Order.BigOperators.Group.List
import Mathlib.Data.List.Nodup

/-!
# Demands drawing on shared stores

A demand walks its own list of stores, takes from each what it holds, and leaves the rest
to the last.  Several demands that each walk alone draw on the same stores.  What a demand
reaches into a store has a closed form, and none of them overdraws a store it could have
spared exactly when these reaches fit.
-/

namespace Lib.Draw

variable {α K : Type*} [DecidableEq α] [AddCommGroup K] [LinearOrder K]

/-- What a walk takes of one store. -/
def drawn (room : α → K) : K → List α → α → K
  | _, [], _ => 0
  | left, [last], query => if query = last then left else 0
  | left, store :: next :: rest, query =>
      if query = store then min left (room store)
      else drawn room (left - min left (room store)) (next :: rest) query

/-- What the stores before one hold. -/
def before (room : α → K) (stores : List α) (query : α) : K :=
  ((stores.takeWhile fun store => store ≠ query).map room).sum

/-- How far an amount laid over the stores end to end reaches into one. -/
def reach (room : α → K) (left : K) (stores : List α) (query : α) : K :=
  if query ∉ stores then 0
  else if stores.getLast? = some query then max 0 (left - before room stores query)
  else max 0 (min (room query) (left - before room stores query))

variable {room : α → K} {left : K} {stores : List α} {store : α}

omit [LinearOrder K] in
theorem before_cons_self : before room (store :: stores) store = 0 := by
  simp [before]

omit [LinearOrder K] in
theorem before_cons_of_ne {query : α} (different : query ≠ store) :
    before room (store :: stores) query = room store + before room stores query := by
  have passes : decide (store ≠ query) = true := decide_eq_true different.symm
  rw [before, before, List.takeWhile_cons, if_pos passes, List.map_cons, List.sum_cons]

variable [IsOrderedAddMonoid K]

/-- The stores a walk may leave before its last. -/
def Roomy (room : α → K) (stores : List α) : Prop := ∀ store ∈ stores.dropLast, 0 < room store

omit [DecidableEq α] [IsOrderedAddMonoid K] in
theorem Roomy.tail {next : α} {rest : List α} (roomy : Roomy room (store :: next :: rest)) :
    0 < room store ∧ Roomy room (next :: rest) := by
  constructor
  · exact roomy store (List.mem_cons_self ..)
  · intro other member
    exact roomy other (List.mem_cons_of_mem _ member)

theorem before_nonneg {query : α} (roomy : Roomy room stores) (member : query ∈ stores) :
    0 ≤ before room stores query := by
  induction stores with
  | nil => cases member
  | cons store rest ih =>
      by_cases here : query = store
      · rw [here, before_cons_self]
      · rw [before_cons_of_ne here]
        have further := (List.mem_cons.mp member).resolve_left here
        cases rest with
        | nil => cases further
        | cons next rest =>
            exact add_nonneg roomy.tail.1.le (ih roomy.tail.2 further)

/-- A walk takes of a store what it reaches into it. -/
theorem drawn_eq_reach (roomy : Roomy room stores) (nodup : stores.Nodup) (nonneg : 0 ≤ left)
    (query : α) : drawn room left stores query = reach room left stores query := by
  induction stores generalizing left with
  | nil => rfl
  | cons store rest ih =>
      cases rest with
      | nil =>
          rw [drawn, reach]
          by_cases here : query = store
          · rw [here, before_cons_self, sub_zero, max_eq_right nonneg]
            simp
          · simp [here]
      | cons next rest =>
          have head := roomy.tail.1
          rw [List.nodup_cons] at nodup
          rw [drawn]
          by_cases here : query = store
          · have notLast : (store :: next :: rest).getLast? ≠ some store := by
              intro last
              rw [List.getLast?_cons_cons] at last
              exact nodup.1 (List.mem_of_getLast? last)
            rw [if_pos here, reach, here, before_cons_self, sub_zero, if_neg (by simp),
              if_neg notLast, min_comm, max_eq_right (le_min head.le nonneg)]
          · have rest_nonneg : 0 ≤ left - min left (room store) :=
              sub_nonneg.mpr (min_le_left _ _)
            rw [if_neg here, ih roomy.tail.2 nodup.2 rest_nonneg]
            unfold reach
            rw [List.getLast?_cons_cons, before_cons_of_ne here]
            have members : query ∉ store :: next :: rest ↔ query ∉ next :: rest := by
              rw [List.mem_cons, not_or]
              exact and_iff_right here
            simp only [members]
            by_cases absent : query ∉ next :: rest
            · rw [if_pos absent, if_pos absent]
            · have earlier := before_nonneg roomy.tail.2 (not_not.mp absent)
              rw [if_neg absent, if_neg absent]
              rcases le_total left (room store) with short | enough
              · -- The amount ends within this store, so it reaches nothing beyond.
                have dry : left - min left (room store) = 0 := by
                  rw [min_eq_left short, sub_self]
                have below : left - (room store + before room (next :: rest) query) ≤ 0 := by
                  rw [sub_nonpos]
                  exact short.trans (le_add_of_nonneg_right earlier)
                have none : 0 - before room (next :: rest) query ≤ 0 := by
                  rw [zero_sub]
                  exact neg_nonpos.mpr earlier
                rw [dry, max_eq_left below, max_eq_left none,
                  max_eq_left ((min_le_right _ _).trans none),
                  max_eq_left ((min_le_right _ _).trans below)]
              · rw [min_eq_right enough, sub_sub]

omit [DecidableEq α] [AddCommGroup K] [LinearOrder K] [IsOrderedAddMonoid K] in
theorem mem_dropLast {query : α} (member : query ∈ stores)
    (notLast : stores.getLast? ≠ some query) : query ∈ stores.dropLast := by
  rw [← List.dropLast_append_getLast? _ (List.getLast?_eq_some_getLast
    (List.ne_nil_of_mem member)), List.mem_append, List.mem_singleton] at member
  rcases member with inside | last
  · exact inside
  · rw [last] at notLast
    exact absurd (List.getLast?_eq_some_getLast _) notLast

section Bounds

variable (roomy : Roomy room stores)

omit [IsOrderedAddMonoid K] in
theorem reach_nonneg (query : α) : 0 ≤ reach room left stores query := by
  unfold reach
  split
  · exact le_rfl
  split
  · exact le_max_left _ _
  · exact le_max_left _ _

omit [IsOrderedAddMonoid K] in
theorem reach_of_not_mem {query : α} (absent : query ∉ stores) :
    reach room left stores query = 0 := if_pos absent

omit [IsOrderedAddMonoid K] in
theorem mem_of_reach {query : α} (reached : 0 < reach room left stores query) :
    query ∈ stores := by
  by_contra absent
  rw [reach_of_not_mem absent] at reached
  exact lt_irrefl _ reached

include roomy

/-- A store short of the last is reached when the stores before it do not hold the amount. -/
theorem reach_pos_iff {query : α} (member : query ∈ stores)
    (notLast : stores.getLast? ≠ some query) :
    0 < reach room left stores query ↔ before room stores query < left := by
  have inside : query ∈ stores.dropLast := mem_dropLast member notLast
  have positive := roomy query inside
  rw [reach, if_neg (not_not.mpr member), if_neg notLast, lt_max_iff, lt_min_iff, sub_pos]
  constructor
  · intro reached
    exact (reached.resolve_left (lt_irrefl _)).2
  · intro within
    exact .inr ⟨positive, within⟩

variable {last : α}

/-- A store and all before it stand before the last. -/
theorem before_add_room_le {query : α} (nodup : stores.Nodup) (ends : stores.getLast? = some last)
    (member : query ∈ stores) (different : query ≠ last) :
    before room stores query + room query ≤ before room stores last := by
  induction stores with
  | nil => cases member
  | cons store rest ih =>
      cases rest with
      | nil =>
          rw [List.getLast?_singleton, Option.some.injEq] at ends
          exact absurd ((List.mem_singleton.mp member).trans ends) different
      | cons next rest =>
          rw [List.nodup_cons] at nodup
          rw [List.getLast?_cons_cons] at ends
          have lastMem : last ∈ next :: rest := List.mem_of_getLast? ends
          have lastNe : last ≠ store := fun equal => nodup.1 (equal ▸ lastMem)
          rw [before_cons_of_ne lastNe]
          by_cases here : query = store
          · rw [here, before_cons_self, zero_add]
            exact le_add_of_nonneg_right (before_nonneg roomy.tail.2 lastMem)
          · rw [before_cons_of_ne here, add_assoc]
            exact add_le_add_right
              (ih roomy.tail.2 nodup.2 ends ((List.mem_cons.mp member).resolve_left here)) _

/-- An amount that reaches the last store has filled all before it. -/
theorem reach_eq_room {query : α} (nodup : stores.Nodup) (ends : stores.getLast? = some last)
    (reached : 0 < reach room left stores last) (member : query ∈ stores) (different : query ≠ last) :
    reach room left stores query = room query := by
  have notLast : stores.getLast? ≠ some query := by
    rw [ends]
    intro equal
    exact different (Option.some.inj equal).symm
  have inside : query ∈ stores.dropLast := mem_dropLast member notLast
  have upTo := before_add_room_le roomy nodup ends member different
  have lastMem : last ∈ stores := List.mem_of_getLast? ends
  rw [reach, if_neg (not_not.mpr lastMem), if_pos ends, lt_max_iff] at reached
  have beyond : before room stores last < left :=
    sub_pos.mp (reached.resolve_left (lt_irrefl _))
  have enough : room query ≤ left - before room stores query :=
    le_sub_iff_add_le'.mpr (upTo.trans beyond.le)
  rw [reach, if_neg (not_not.mpr member), if_neg notLast, min_eq_left enough,
    max_eq_right (roomy query inside).le]

end Bounds

/-! ## Several demands -/

/-- An amount and the stores it may draw on, in the order it walks them. -/
structure Demand (α K : Type*) where
  need : K
  stores : List α

/-- What a demand can be asked to walk. -/
structure Demand.Sound (room : α → K) (demand : Demand α K) : Prop where
  need : 0 ≤ demand.need
  nodup : demand.stores.Nodup
  roomy : Roomy room demand.stores

variable (room) in
/-- What all of them draw on a store. -/
def total (demands : List (Demand α K)) (store : α) : K :=
  (demands.map fun demand => drawn room demand.need demand.stores store).sum

variable (room) in
/-- How far all of them reach into a store. -/
def reached (demands : List (Demand α K)) (store : α) : K :=
  (demands.map fun demand => reach room demand.need demand.stores store).sum

variable (room) in
/-- No store is overdrawn by a demand while another of its stores has something left. -/
def Fair (demands : List (Demand α K)) : Prop :=
  ∀ demand ∈ demands, ∀ store, 0 < drawn room demand.need demand.stores store →
    room store < total room demands store →
    ∀ other ∈ demand.stores, room other ≤ total room demands other

variable (room) in
/-- The reaches into a store a demand goes past fit into it, or fill all of its stores. -/
def Fits (demands : List (Demand α K)) : Prop :=
  ∀ demand ∈ demands, ∀ store ∈ demand.stores, demand.stores.getLast? ≠ some store →
    before room demand.stores store < demand.need →
    reached room demands store ≤ room store ∨
      ∀ other ∈ demand.stores, room other ≤ reached room demands other

section Sound

variable {demands : List (Demand α K)} (sound : ∀ demand ∈ demands, demand.Sound room)

include sound

theorem total_eq_reached : total room demands = reached room demands := by
  funext store
  apply congrArg List.sum
  apply List.map_congr_left
  intro demand member
  have walk := sound demand member
  exact drawn_eq_reach walk.roomy walk.nodup walk.need store

omit sound in
theorem reach_le_reached {demand : Demand α K} (member : demand ∈ demands) (store : α) :
    reach room demand.need demand.stores store ≤ reached room demands store := by
  apply List.single_le_sum
  · intro amount amountMem
    rw [List.mem_map] at amountMem
    obtain ⟨other, _, rfl⟩ := amountMem
    exact reach_nonneg store
  · exact List.mem_map_of_mem member

/-- Demands that walk alone are fair together exactly when their reaches fit. -/
theorem fair_iff_fits : Fair room demands ↔ Fits room demands := by
  unfold Fair Fits
  rw [total_eq_reached sound]
  constructor
  · intro fair demand member store storeMem notLast passes
    have walk := sound demand member
    have draws : 0 < drawn room demand.need demand.stores store := by
      rw [drawn_eq_reach walk.roomy walk.nodup walk.need]
      exact (reach_pos_iff walk.roomy storeMem notLast).mpr passes
    by_cases fits : reached room demands store ≤ room store
    · exact .inl fits
    · exact .inr (fair demand member store draws (not_le.mp fits))
  · intro fits demand member store draws overdrawn other otherMem
    have walk := sound demand member
    rw [drawn_eq_reach walk.roomy walk.nodup walk.need] at draws
    have storeMem : store ∈ demand.stores := mem_of_reach draws
    by_cases last : demand.stores.getLast? = some store
    · -- What reaches the last store has filled the others, and this one is overdrawn.
      by_cases same : other = store
      · rw [same]
        exact overdrawn.le
      · have filled : reach room demand.need demand.stores other = room other :=
          reach_eq_room walk.roomy walk.nodup last draws otherMem same
        rw [← filled]
        exact reach_le_reached member other
    · have passes := (reach_pos_iff walk.roomy storeMem last).mp draws
      rcases fits demand member store storeMem last passes with within | filled
      · exact absurd overdrawn (not_lt.mpr within)
      · exact filled other otherMem

end Sound

end Lib.Draw
