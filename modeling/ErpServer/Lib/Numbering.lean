import Mathlib.Data.List.Nodup
import Mathlib.Data.List.MinMax
import Mathlib.Data.List.Range
import Mathlib.Logic.Function.Basic
import Mathlib.Order.Nat

/-!
# Serial numbers, kept

Keys that are given the numbers 1, 2, 3, … when they first ask for one and keep what they
were given.  The journal holds one entry each time a key asks, with the number it answered.
-/

namespace Lib.Numbering

variable {κ : Type*}

/-- The numbers in the order in which they were first answered. -/
def given (journal : List (κ × ℕ)) : List ℕ := (journal.map Prod.snd).eraseDups

/-- Each key answers with one number of its own, and the numbers are given out in order
from 1. -/
structure Numbered (numberOf : κ → Option ℕ) (journal : List (κ × ℕ)) : Prop where
  kept : ∀ entry ∈ journal, numberOf entry.1 = some entry.2
  journalled : ∀ key number, numberOf key = some number → (key, number) ∈ journal
  distinct : ∀ key other, numberOf key ≠ none → numberOf key = numberOf other → key = other
  consecutive : given journal = List.range' 1 (given journal).length

/-- One more than the greatest. -/
def next (numbers : List ℕ) : ℕ := numbers.foldr max 0 + 1

theorem given_concat (journal : List (κ × ℕ)) (entry : κ × ℕ) :
    given (journal ++ [entry]) =
      if entry.2 ∈ journal.map Prod.snd then given journal else given journal ++ [entry.2] := by
  rw [given, List.map_append, List.map_singleton, List.eraseDups_append, List.removeAll]
  split
  · next known => simp [known, given]
  · next fresh => simp [fresh, given, List.eraseDups_cons]

namespace Numbered

variable {numberOf : κ → Option ℕ} {journal : List (κ × ℕ)}

theorem empty : Numbered (fun _ : κ => none) [] where
  kept := by simp
  journalled := by simp
  distinct := by simp
  consecutive := rfl

variable {number : ℕ} {key : κ}

theorem mem_numbers (numbered : Numbered numberOf journal) :
    number ∈ journal.map Prod.snd ↔ 1 ≤ number ∧ number ≤ (given journal).length := by
  have same : number ∈ given journal ↔ number ∈ journal.map Prod.snd := List.mem_eraseDups
  rw [← same, numbered.consecutive, List.mem_range'_1, List.length_range']
  omega

/-- The next number is one past those given. -/
theorem next_eq (numbered : Numbered numberOf journal) {numbers : List ℕ}
    (all : ∀ number, number ∈ numbers ↔ ∃ key, numberOf key = some number) :
    next numbers = (given journal).length + 1 := by
  have known (number : ℕ) : number ∈ numbers ↔ number ∈ journal.map Prod.snd := by
    rw [all, List.mem_map]
    constructor
    · rintro ⟨key, found⟩
      exact ⟨(key, number), numbered.journalled key number found, rfl⟩
    · rintro ⟨entry, member, rfl⟩
      exact ⟨entry.1, numbered.kept entry member⟩
  have above : numbers.foldr max 0 ≤ (given journal).length := by
    refine List.max_le_of_forall_le numbers _ fun number member => ?_
    exact (numbered.mem_numbers.mp ((known number).mp member)).2
  have below : (given journal).length ≤ numbers.foldr max 0 := by
    rcases Nat.eq_zero_or_pos (given journal).length with none | some
    · rw [none]
      exact Nat.zero_le _
    · have last : (given journal).length ∈ journal.map Prod.snd :=
        numbered.mem_numbers.mpr ⟨some, le_rfl⟩
      exact List.le_max_of_le ((known _).mpr last) le_rfl
  rw [next, le_antisymm above below]

/-- A key that has a number answers with it again. -/
theorem again (numbered : Numbered numberOf journal) (found : numberOf key = some number) :
    Numbered numberOf (journal ++ [(key, number)]) where
  kept := by
    intro entry member
    rcases List.mem_append.mp member with old | new
    · exact numbered.kept entry old
    · rw [List.mem_singleton.mp new]
      exact found
  journalled := fun other value owns =>
    List.mem_append_left _ (numbered.journalled other value owns)
  distinct := numbered.distinct
  consecutive := by
    have known : number ∈ journal.map Prod.snd :=
      List.mem_map_of_mem (numbered.journalled key number found)
    rw [given_concat, if_pos known]
    exact numbered.consecutive

/-- A key without a number is given the next one. -/
theorem first [DecidableEq κ] (numbered : Numbered numberOf journal) (none : numberOf key = none)
    (fresh : number = (given journal).length + 1) :
    Numbered (Function.update numberOf key (some number)) (journal ++ [(key, number)]) := by
  have unknown : number ∉ journal.map Prod.snd := by
    intro member
    have within := (numbered.mem_numbers.mp member).2
    omega
  have unowned (other : κ) : numberOf other ≠ some number := by
    intro owns
    exact unknown (List.mem_map_of_mem (numbered.journalled other number owns))
  refine ⟨?_, ?_, ?_, ?_⟩
  · intro entry member
    rcases List.mem_append.mp member with old | new
    · have owns := numbered.kept entry old
      rw [Function.update_of_ne _ _ _, owns]
      intro same
      rw [same, none] at owns
      cases owns
    · rw [List.mem_singleton.mp new, Function.update_self]
  · intro other value owns
    by_cases same : other = key
    · rw [same, Function.update_self] at owns
      rw [same, ← Option.some.inj owns]
      exact List.mem_append_right _ List.mem_cons_self
    · rw [Function.update_of_ne same] at owns
      exact List.mem_append_left _ (numbered.journalled other value owns)
  · intro left right owns same
    by_cases isLeft : left = key <;> by_cases isRight : right = key
    · rw [isLeft, isRight]
    · rw [isLeft, Function.update_self, Function.update_of_ne isRight] at same
      exact (unowned right same.symm).elim
    · rw [isRight, Function.update_self, Function.update_of_ne isLeft] at same
      exact (unowned left same).elim
    · rw [Function.update_of_ne isLeft] at owns same
      rw [Function.update_of_ne isRight] at same
      exact numbered.distinct left right owns same
  · rw [given_concat, if_neg unknown, List.length_append, List.length_singleton, List.range'_concat,
      ← numbered.consecutive, fresh]
    simp [Nat.add_comm]

end Numbered

end Lib.Numbering
