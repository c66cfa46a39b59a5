import ErpServer.Print.Report

/-!
# Groups

Which groups are open at a row, where each of them began, and what happens to them as the
rows go by: a section opens and closes its groups by nothing but the keys of its rows.
-/

namespace ErpServer.Print

open Lib
open Receipt (Decimal)

/-! ## Keys -/

section Keys

variable (keysAt : ℕ → List String)

/-- Two rows are in the same group of a level. -/
def SameGroup (level first second : ℕ) : Prop :=
  (keysAt first).take (level + 1) = (keysAt second).take (level + 1)

instance (level first second : ℕ) : Decidable (SameGroup keysAt level first second) :=
  inferInstanceAs (Decidable (_ = _))

/-- The row that the group of a row began with. -/
def startOf (level : ℕ) : ℕ → ℕ
  | 0 => 0
  | row + 1 => if SameGroup keysAt level row (row + 1) then startOf level row else row + 1

/-- The group of a level as it stands when a row has been printed. -/
def groupAfter (row level : ℕ) : OpenGroup :=
  ⟨level, (keysAt row).getD level "", buildGroupPath ((keysAt row).take (level + 1)),
    row + 1 - startOf keysAt level row, startOf keysAt level row⟩

/-- The groups that are open when a row has been printed. -/
def stackAfter (levels row : ℕ) : List OpenGroup :=
  (List.range levels).map (groupAfter keysAt row)

/-- The groups that are open before a row is looked at. -/
def stackBefore (levels : ℕ) : ℕ → List OpenGroup
  | 0 => []
  | row + 1 => stackAfter keysAt levels row

/-- A group as its first row opens it. -/
def newGroup (row level : ℕ) : OpenGroup :=
  ⟨level, (keysAt row).getD level "", buildGroupPath ((keysAt row).take (level + 1)), 0, row⟩

theorem startOf_le (level row : ℕ) : startOf keysAt level row ≤ row := by
  induction row with
  | zero => exact le_refl 0
  | succ row ih =>
      unfold startOf
      split
      · exact ih.trans (Nat.le_succ row)
      · exact le_refl _

variable {level row : ℕ}

/-- All rows from the start of a group on are in it. -/
theorem sameGroup_startOf {other : ℕ} (from_start : startOf keysAt level row ≤ other)
    (upto : other ≤ row) : SameGroup keysAt level other row := by
  induction row with
  | zero =>
      have here : other = 0 := Nat.le_zero.mp upto
      rw [here]
      rfl
  | succ row ih =>
      unfold startOf at from_start
      split at from_start
      · next same =>
          rcases Nat.lt_or_ge row other with last | before
          · have here : other = row + 1 := by omega
            rw [here]
            rfl
          · exact (ih from_start before).trans same
      · have here : other = row + 1 := by omega
        rw [here]
        rfl

/-- The row before a group is in another. -/
theorem not_sameGroup_before (later : 0 < startOf keysAt level row) :
    ¬SameGroup keysAt level (startOf keysAt level row - 1) row := by
  induction row with
  | zero => exact absurd later (lt_irrefl 0)
  | succ row ih =>
      unfold startOf at later ⊢
      split at later
      · next same =>
          rw [if_pos same]
          intro joined
          exact ih later (joined.trans same.symm)
      · next different =>
          rw [if_neg different]
          exact different

/-- Rows of one path stand together. -/
def Contiguous (levels count : ℕ) : Prop :=
  ∀ level < levels, ∀ third < count, ∀ second ≤ third, ∀ first ≤ second,
    SameGroup keysAt level first third → SameGroup keysAt level second third

instance (levels count : ℕ) : Decidable (Contiguous keysAt levels count) :=
  inferInstanceAs (Decidable (∀ level < levels, ∀ third < count, ∀ second ≤ third,
    ∀ first ≤ second, SameGroup keysAt level first third → SameGroup keysAt level second third))

/-- A group ends before a row: there is none, or it has another path. -/
def EndsBefore (count level next : ℕ) : Prop :=
  0 < next ∧ next ≤ count ∧ (next = count ∨ ¬SameGroup keysAt level (next - 1) next)

variable {keysAt}

/-- The rows of a group's path are the rows of the group. -/
theorem sameGroup_iff {levels count next : ℕ} (contiguous : Contiguous keysAt levels count)
    (inside : level < levels) (ends : EndsBefore keysAt count level next) (present : row < count) :
    SameGroup keysAt level row (next - 1) ↔ startOf keysAt level (next - 1) ≤ row ∧ row < next := by
  obtain ⟨positive, bounded, last⟩ := ends
  constructor
  · intro same
    constructor
    · by_contra before
      have later : 0 < startOf keysAt level (next - 1) := by omega
      have upto := startOf_le keysAt level (next - 1)
      apply not_sameGroup_before keysAt later
      exact contiguous level inside (next - 1) (by omega) _ (by omega) row (by omega) same
    · by_contra after
      rcases last with rfl | different
      · exact after present
      · apply different
        have joined := contiguous level inside row present next (by omega) (next - 1) (by omega)
          same.symm
        exact same.symm.trans joined.symm
  · intro range
    exact sameGroup_startOf keysAt range.1 (by omega)

end Keys

/-! ## Which level breaks -/

/-- The level a row breaks at, given the groups that are open before it. -/
def breakLevel (keysAt : ℕ → List String) (levels row : ℕ) : ℕ :=
  LayoutInput.changedFrom (stackBefore keysAt levels row) (keysAt row)

section Break

variable {keysAt : ℕ → List String} {levels row : ℕ}

@[simp] theorem stackAfter_length : (stackAfter keysAt levels row).length = levels := by
  unfold stackAfter
  rw [List.length_map, List.length_range]

variable {level : ℕ}

theorem getElem?_stackAfter (inside : level < levels) :
    (stackAfter keysAt levels row)[level]? = some (groupAfter keysAt row level) := by
  unfold stackAfter
  rw [List.getElem?_map, List.getElem?_range inside]
  rfl

theorem changedFrom_le (openGroups : List OpenGroup) (keys : List String) :
    LayoutInput.changedFrom openGroups keys ≤ keys.length := by
  unfold LayoutInput.changedFrom
  cases found : (List.range keys.length).find? fun level =>
      openGroups[level]?.map OpenGroup.key ≠ keys[level]? with
  | none => exact le_refl _
  | some level =>
      have member := List.mem_of_find?_eq_some found
      exact (List.mem_range.mp member).le

/-- The level found is the outermost whose key is not that of the open group. -/
theorem changedFrom_le_iff {openGroups : List OpenGroup} {keys : List String}
    (inside : level < keys.length) : LayoutInput.changedFrom openGroups keys ≤ level ↔
      ∃ outer ≤ level, openGroups[outer]?.map OpenGroup.key ≠ keys[outer]? := by
  unfold LayoutInput.changedFrom
  cases found : (List.range keys.length).find? fun level =>
      openGroups[level]?.map OpenGroup.key ≠ keys[level]? with
  | none =>
      rw [List.find?_eq_none] at found
      constructor
      · intro absurdly
        exact absurd inside (not_lt.mpr absurdly)
      · intro differs
        obtain ⟨outer, within, different⟩ := differs
        have same := found outer (List.mem_range.mpr (lt_of_le_of_lt within inside))
        exact absurd (decide_eq_true different) same
  | some first =>
      obtain ⟨different, _, before⟩ := List.find?_range_eq_some.mp found
      constructor
      · intro within
        exact ⟨first, within, of_decide_eq_true different⟩
      · intro differs
        obtain ⟨outer, within, changed⟩ := differs
        by_contra later
        have same := before outer (by simpa using lt_of_le_of_lt within (not_le.mp later))
        rw [decide_eq_true changed] at same
        exact absurd same (by decide)

theorem breakLevel_zero : breakLevel keysAt levels 0 = 0 := by
  cases keys : keysAt 0 with
  | nil =>
      have bounded := changedFrom_le (stackBefore keysAt levels 0) (keysAt 0)
      rw [keys, List.length_nil] at bounded
      unfold breakLevel
      rw [keys]
      exact Nat.le_zero.mp bounded
  | cons key rest =>
      have inside : 0 < (keysAt 0).length := by
        rw [keys]
        exact Nat.zero_lt_succ _
      apply Nat.le_zero.mp
      apply (changedFrom_le_iff inside).mpr
      refine ⟨0, le_refl 0, ?_⟩
      rw [keys]
      simp [stackBefore]

theorem sameGroup_iff_getElem? {first second : ℕ} : SameGroup keysAt level first second ↔
      ∀ outer ≤ level, (keysAt first)[outer]? = (keysAt second)[outer]? := by
  unfold SameGroup
  constructor
  · intro same outer within
    have here := congrArg (fun keys : List String => keys[outer]?) same
    simp only [List.getElem?_take, Nat.lt_succ_of_le within, if_true] at here
    exact here
  · intro same
    apply List.ext_getElem?
    intro outer
    rw [List.getElem?_take, List.getElem?_take]
    split
    · next within => exact same outer (Nat.le_of_lt_succ within)
    · rfl

/-- A level breaks where the path down to it changes. -/
theorem breakLevel_succ (lengthBefore : (keysAt row).length = levels)
    (length : (keysAt (row + 1)).length = levels) (inside : level < levels) :
    breakLevel keysAt levels (row + 1) ≤ level ↔ ¬SameGroup keysAt level row (row + 1) := by
  unfold breakLevel
  rw [changedFrom_le_iff (by rwa [length]), sameGroup_iff_getElem?]
  push Not
  apply exists_congr
  intro outer
  apply and_congr_right
  intro within
  have deep : outer < levels := lt_of_le_of_lt within inside
  have shown : (stackBefore keysAt levels (row + 1))[outer]?.map OpenGroup.key =
      (keysAt row)[outer]? := by
    change (stackAfter keysAt levels row)[outer]?.map OpenGroup.key = _
    have present : outer < (keysAt row).length := by rwa [lengthBefore]
    rw [getElem?_stackAfter deep, Option.map_some]
    change some ((keysAt row).getD outer "") = _
    rw [List.getD_eq_getElem?_getD, List.getElem?_eq_getElem present, Option.getD_some]
  rw [shown]

end Break

/-! ## Events -/

/-- The groups that close, from the innermost out to a level. -/
def closings (stack : List OpenGroup) (nextRow level : ℕ) : ℕ → List GroupEvent
  | 0 => []
  | index + 1 =>
      if index < level then []
      else
        match stack[index]? with
        | none => closings stack nextRow level index
        | some group => .closed group nextRow stack :: closings stack nextRow level index

/-- The groups that open at a row, from a level inwards. -/
def openings (keysAt : ℕ → List String) (base : List OpenGroup) (row level count : ℕ) :
    List GroupEvent :=
  (List.range' level count).map fun inner =>
    .opened (newGroup keysAt row inner)
      (base ++ (List.range' level (inner + 1 - level)).map (newGroup keysAt row))

/-- What happens to the groups before a row is printed. -/
def rowEvents (keysAt : ℕ → List String) (levels row : ℕ) : List GroupEvent :=
  let stack := stackBefore keysAt levels row
  let level := breakLevel keysAt levels row
  closings stack row level stack.length ++
    openings keysAt (stack.take level) row level (levels - level)

/-- What happens to the groups of a section. -/
def sectionEvents (keysAt : ℕ → List String) (levels count : ℕ) : List GroupEvent :=
  let stack := stackBefore keysAt levels count
  (List.range count).flatMap (rowEvents keysAt levels) ++ closings stack count 0 stack.length

variable {level : ℕ}

variable {base stack : List OpenGroup} {index nextRow row : ℕ} {event : GroupEvent}
variable {keysAt : ℕ → List String}

theorem closings_eq_nil (none : index ≤ level) : closings stack nextRow level index = [] := by
  cases index with
  | zero => rfl
  | succ index => exact if_pos none

theorem mem_closings : event ∈ closings stack nextRow level index ↔
      ∃ inner, level ≤ inner ∧ inner < index ∧ ∃ group, stack[inner]? = some group ∧
        event = .closed group nextRow stack := by
  induction index with
  | zero => simp [closings]
  | succ index ih =>
      unfold closings
      split
      · next above =>
          constructor
          · exact fun member => absurd member List.not_mem_nil
          · intro closing
            obtain ⟨inner, deep, within, _⟩ := closing
            omega
      · next deep =>
          have split : (∃ inner, level ≤ inner ∧ inner < index + 1 ∧
              ∃ group, stack[inner]? = some group ∧ event = .closed group nextRow stack) ↔
              (∃ group, stack[index]? = some group ∧ event = .closed group nextRow stack) ∨
                ∃ inner, level ≤ inner ∧ inner < index ∧
                  ∃ group, stack[inner]? = some group ∧ event = .closed group nextRow stack := by
            constructor
            · intro closing
              obtain ⟨inner, from_level, within, found⟩ := closing
              rcases Nat.lt_succ_iff_lt_or_eq.mp within with before | rfl
              · exact Or.inr ⟨inner, from_level, before, found⟩
              · exact Or.inl found
            · intro closing
              rcases closing with found | ⟨inner, from_level, within, found⟩
              · exact ⟨index, not_lt.mp deep, Nat.lt_succ_self index, found⟩
              · exact ⟨inner, from_level, Nat.lt_succ_of_lt within, found⟩
          rw [split, ← ih]
          cases found : stack[index]? with
          | none => simp
          | some group => simp

theorem mem_openings {count : ℕ} : event ∈ openings keysAt base row level count ↔
      ∃ inner, level ≤ inner ∧ inner < level + count ∧
        event = .opened (newGroup keysAt row inner)
          (base ++ (List.range' level (inner + 1 - level)).map (newGroup keysAt row)) := by
  unfold openings
  simp only [List.mem_map, List.mem_range'_1, eq_comm, and_assoc]

/-! ## Nesting -/

/-- What an event does to the groups that are open, by level and first row: a group opens
inside all of them, and only the innermost closes. -/
def GroupEvent.apply (opened : List (ℕ × ℕ)) : GroupEvent → Option (List (ℕ × ℕ))
  | .opened group _ =>
      if group.level = opened.length then some (opened ++ [(group.level, group.firstRow)])
      else none
  | .closed group _ _ =>
      if opened.getLast? = some (group.level, group.firstRow) then some opened.dropLast else none

/-- Every group that opens is closed once, the innermost first. -/
def ProperlyNested (events : List GroupEvent) : Prop :=
  events.foldlM GroupEvent.apply [] = some []

def placeOf (group : OpenGroup) : ℕ × ℕ := (group.level, group.firstRow)

theorem closings_nested {stack : List OpenGroup} {nextRow level index : ℕ}
    (within : index ≤ stack.length) (above : level ≤ index) :
    (closings stack nextRow level index).foldlM GroupEvent.apply
        ((stack.take index).map placeOf) = some ((stack.take level).map placeOf) := by
  induction index with
  | zero =>
      rw [Nat.le_zero.mp above]
      rfl
  | succ index ih =>
      rcases Nat.lt_succ_iff_lt_or_eq.mp (Nat.lt_succ_of_le above) with deeper | same
      · have inside : index < stack.length := within
        unfold closings
        rw [if_neg (by omega), List.getElem?_eq_getElem inside]
        dsimp only
        rw [List.foldlM_cons, List.take_succ_eq_append_getElem inside, List.map_append]
        have closes : GroupEvent.apply
            ((stack.take index).map placeOf ++ [stack[index]].map placeOf)
            (.closed stack[index] nextRow stack) = some ((stack.take index).map placeOf) := by
          unfold GroupEvent.apply
          dsimp only
          rw [List.map_singleton, List.getLast?_concat, List.dropLast_concat]
          exact if_pos rfl
        rw [closes]
        exact ih inside.le (Nat.lt_succ_iff.mp deeper)
      · rw [← same, closings_eq_nil (le_refl level)]
        rfl

theorem openings_nested (length : base.length = level) (count : ℕ) :
    (openings keysAt base row level count).foldlM GroupEvent.apply (base.map placeOf) =
      some ((base ++ (List.range' level count).map (newGroup keysAt row)).map placeOf) := by
  induction count with
  | zero => simp [openings]
  | succ count ih =>
      have last : openings keysAt base row level (count + 1) =
          openings keysAt base row level count ++ [.opened (newGroup keysAt row (level + count))
            (base ++ (List.range' level (count + 1)).map (newGroup keysAt row))] := by
        unfold openings
        rw [List.range'_1_concat, List.map_append, List.map_singleton,
          ← List.range'_1_concat, show level + count + 1 - level = count + 1 by omega]
      rw [last, List.foldlM_append, ih]
      have opens : GroupEvent.apply
          ((base ++ (List.range' level count).map (newGroup keysAt row)).map placeOf)
          (.opened (newGroup keysAt row (level + count))
            (base ++ (List.range' level (count + 1)).map (newGroup keysAt row))) =
          some ((base ++ (List.range' level (count + 1)).map (newGroup keysAt row)).map
            placeOf) := by
        unfold GroupEvent.apply
        dsimp only
        rw [if_pos, List.range'_1_concat, List.map_append, List.map_append, List.map_append,
          List.map_append, List.append_assoc]
        · rfl
        · simp [newGroup, length]
      change (do
        let opened ← GroupEvent.apply _ _
        [].foldlM GroupEvent.apply opened) = _
      rw [opens]
      rfl

/-! ## From row to row -/

/-- One more row in a group. -/
def OpenGroup.bump (group : OpenGroup) : OpenGroup := { group with rowCount := group.rowCount + 1 }

section Rows

variable {keysAt : ℕ → List String} {levels : ℕ}

variable {level row : ℕ}

theorem breakLevel_le (length : (keysAt row).length = levels) :
    breakLevel keysAt levels row ≤ (stackBefore keysAt levels row).length := by
  cases row with
  | zero => exact breakLevel_zero.le
  | succ row =>
      have bounded := changedFrom_le (stackBefore keysAt levels (row + 1)) (keysAt (row + 1))
      rw [length] at bounded
      change _ ≤ (stackAfter keysAt levels row).length
      rwa [stackAfter_length]

theorem breakLevel_le_levels (length : (keysAt row).length = levels) :
    breakLevel keysAt levels row ≤ levels := by
  have bounded := changedFrom_le (stackBefore keysAt levels row) (keysAt row)
  rwa [length] at bounded

theorem stackAfter_split (within : level ≤ levels) : stackAfter keysAt levels row =
      (List.range level).map (groupAfter keysAt row) ++
        (List.range' level (levels - level)).map (groupAfter keysAt row) := by
  unfold stackAfter
  rw [← List.map_append, List.range_eq_range', List.range_eq_range']
  have joined := @List.range'_append_1 0 level (levels - level)
  rw [Nat.zero_add, Nat.add_sub_cancel' within] at joined
  rw [joined]

/-- A row of the group it follows is one more row of it. -/
theorem bump_groupAfter (same : SameGroup keysAt level row (row + 1)) :
    (groupAfter keysAt row level).bump = groupAfter keysAt (row + 1) level := by
  have start : startOf keysAt level (row + 1) = startOf keysAt level row := if_pos same
  have before := startOf_le keysAt level row
  have key : (keysAt row).getD level "" = (keysAt (row + 1)).getD level "" := by
    rw [List.getD_eq_getElem?_getD, List.getD_eq_getElem?_getD,
      sameGroup_iff_getElem?.mp same level (le_refl level)]
  have count : row + 1 + 1 - startOf keysAt level row =
      row + 1 - startOf keysAt level row + 1 := by omega
  unfold groupAfter OpenGroup.bump
  rw [start, key, same, count]

theorem bump_newGroup (begins : startOf keysAt level row = row) :
    (newGroup keysAt row level).bump = groupAfter keysAt row level := by
  have count : row + 1 - row = 0 + 1 := by omega
  unfold newGroup groupAfter OpenGroup.bump
  rw [begins, count]

/-- The groups that stay open and those the row opens are the groups after the row. -/
theorem stack_next (lengths : ∀ other ≤ row, (keysAt other).length = levels) :
    ((stackBefore keysAt levels row).take (breakLevel keysAt levels row) ++
      (List.range' (breakLevel keysAt levels row)
        (levels - breakLevel keysAt levels row)).map (newGroup keysAt row)).map OpenGroup.bump =
      stackBefore keysAt levels (row + 1) := by
  change _ = stackAfter keysAt levels row
  rw [stackAfter_split (breakLevel_le_levels (lengths row (le_refl row))), List.map_append]
  cases row with
  | zero =>
      rw [breakLevel_zero, List.map_map]
      apply congrArg
      apply List.map_congr_left
      intro level _
      exact bump_newGroup rfl
  | succ row =>
      have within := breakLevel_le_levels (lengths (row + 1) (le_refl _))
      have breaks {level : ℕ} (inside : level < levels) :=
        breakLevel_succ (lengths row (Nat.le_succ row)) (lengths (row + 1) (le_refl _)) inside
      congr 1
      · change ((stackAfter keysAt levels row).take _).map _ = _
        rw [stackAfter, ← List.map_take, List.take_range, Nat.min_eq_left within, List.map_map]
        apply List.map_congr_left
        intro level member
        have before := List.mem_range.mp member
        apply bump_groupAfter
        by_contra different
        have broken := (breaks (lt_of_lt_of_le before within)).mpr different
        exact absurd before (not_lt.mpr broken)
      · rw [List.map_map]
        apply List.map_congr_left
        intro level member
        have range := List.mem_range'_1.mp member
        apply bump_newGroup
        exact if_neg ((breaks (by omega)).mp range.1)

theorem rowEvents_nested (lengths : ∀ other ≤ row, (keysAt other).length = levels) :
    (rowEvents keysAt levels row).foldlM GroupEvent.apply
        ((stackBefore keysAt levels row).map placeOf) =
      some ((stackBefore keysAt levels (row + 1)).map placeOf) := by
  have length := lengths row (le_refl row)
  have closed := @closings_nested _ row _ _ (le_refl _) (breakLevel_le length)
  rw [List.take_length] at closed
  have base : ((stackBefore keysAt levels row).take (breakLevel keysAt levels row)).length =
      breakLevel keysAt levels row := by
    rw [List.length_take, Nat.min_eq_left (breakLevel_le length)]
  unfold rowEvents
  dsimp only
  rw [List.foldlM_append, closed]
  change (openings keysAt _ row _ _).foldlM GroupEvent.apply _ = _
  rw [openings_nested base, ← stack_next lengths, List.map_map]
  rfl

/-- The groups of a section open and close in order. -/
theorem sectionEvents_nested {count : ℕ}
    (lengths : ∀ row < count, (keysAt row).length = levels) :
    ProperlyNested (sectionEvents keysAt levels count) := by
  have rows (upto : ℕ) (within : upto ≤ count) :
      ((List.range upto).flatMap (rowEvents keysAt levels)).foldlM GroupEvent.apply [] =
        some ((stackBefore keysAt levels upto).map placeOf) := by
    induction upto with
    | zero => rfl
    | succ row ih =>
        rw [List.range_succ, List.flatMap_append, List.foldlM_append, ih (by omega),
          List.flatMap_singleton]
        exact rowEvents_nested fun other before => lengths other (by omega)
  unfold ProperlyNested sectionEvents
  dsimp only
  rw [List.foldlM_append, rows count (le_refl count)]
  have closed := @closings_nested (stackBefore keysAt levels count) count _ _ (le_refl _)
    (Nat.zero_le _)
  rw [List.take_length, List.take_zero] at closed
  exact closed

end Rows

end ErpServer.Print
