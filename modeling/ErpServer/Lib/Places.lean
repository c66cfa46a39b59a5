import Mathlib.Data.List.Basic

/-!
# What stands at the places of a list

A row is named by its place.  A list that is appended to keeps its places, and a change at
one place leaves the others as they were.
-/

namespace Lib.Places

variable {α β : Type*} {items more : List α} {item last : α} {place row : ℕ} {change : α → α}

theorem getElem?_append_of_some (found : items[place]? = some item) :
    (items ++ more)[place]? = some item := by
  rw [List.getElem?_append_left (List.getElem?_eq_some_iff.mp found).1, found]

/-- With one more at its end. -/
theorem concat_cases (found : (items ++ [last])[place]? = some item) :
    items[place]? = some item ∨ place = items.length ∧ item = last := by
  rcases Nat.lt_or_ge place items.length with within | beyond
  · left
    rwa [List.getElem?_append_left within] at found
  · rw [List.getElem?_append_right beyond, List.getElem?_singleton] at found
    split at found
    · next here =>
        cases found
        exact Or.inr ⟨by omega, rfl⟩
    · cases found

theorem modify_cases (found : (items.modify row change)[place]? = some item) :
    row ≠ place ∧ items[place]? = some item ∨
      row = place ∧ ∃ was, items[place]? = some was ∧ item = change was := by
  by_cases here : row = place
  · right
    rw [here, List.getElem?_modify_eq] at found
    obtain ⟨was, wasFound, same⟩ := Option.map_eq_some_iff.mp found
    exact ⟨here, was, wasFound, same.symm⟩
  · left
    rw [List.getElem?_modify_ne _ _ here] at found
    exact ⟨here, found⟩

theorem mem_modify (member : item ∈ items.modify row change) :
    ∃ was ∈ items, item = was ∨ item = change was := by
  obtain ⟨place, found⟩ := List.mem_iff_getElem?.mp member
  rcases modify_cases found with ⟨_, before⟩ | ⟨_, was, wasFound, same⟩
  · exact ⟨item, List.mem_of_getElem? before, Or.inl rfl⟩
  · exact ⟨was, List.mem_of_getElem? wasFound, Or.inr same⟩

/-- A change that a reading does not see. -/
theorem getElem?_modify_bind {value : α → Option β} (same : ∀ item, value (change item) = value item) :
    (items.modify row change)[place]?.bind value = items[place]?.bind value := by
  rw [List.getElem?_modify]
  cases items[place]? with
  | none => rfl
  | some item => by_cases here : row = place <;> simp [here, same]

theorem getElem?_modify_map {value : α → β} (same : ∀ item, value (change item) = value item) :
    (items.modify row change)[place]?.map value = items[place]?.map value := by
  rw [Option.map_eq_bind, Option.map_eq_bind]
  exact getElem?_modify_bind fun item => congrArg some (same item)

theorem map_modify {value : α → β} (same : ∀ item, value (change item) = value item) :
    (items.modify row change).map value = items.map value := by
  apply List.ext_getElem?
  intro place
  rw [List.getElem?_map, List.getElem?_map, getElem?_modify_map same]

theorem filterMap_modify {value : α → Option β}
    (same : ∀ item, items[row]? = some item → value (change item) = value item) :
    (items.modify row change).filterMap value = items.filterMap value := by
  induction items generalizing row with
  | nil => simp
  | cons item rest ih =>
      cases row with
      | zero => simp [List.modify_cons, List.filterMap_cons, same item rfl]
      | succ row =>
          rw [List.modify_succ_cons, List.filterMap_cons, List.filterMap_cons]
          rw [ih (by simpa using same)]

end Lib.Places
