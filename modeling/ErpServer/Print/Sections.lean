import ErpServer.Print.Groups

/-!
# Sections

What a section does to its groups as it is laid out.  The bands it prints on the way make no
difference to them.
-/

namespace ErpServer.Print

open Lib
open Receipt (Decimal)

namespace LayoutInput

variable {Row Text Figure : Type} (input : LayoutInput Row Text Figure)
variable (precomputed : PrecomputedAggregates)

/-- The group keys of a row by its place. -/
def keysAt (details : DetailSection Row) (row : ℕ) : List String :=
  (details.rows[row]?).elim [] fun value => input.rowKeys details value row

variable {details : DetailSection Row} {row : ℕ}

theorem keysAt_eq {value : Row} (present : details.rows[row]? = some value) :
    input.keysAt details row = input.rowKeys details value row := by
  unfold keysAt
  rw [present]
  rfl

theorem keysAt_length (inside : row < details.rows.length) :
    (input.keysAt details row).length = details.groupBy.length := by
  rw [input.keysAt_eq (List.getElem?_eq_getElem inside)]
  exact List.length_map _

/-! ## Group bands -/

@[simp] theorem emitGroupBand_openGroups (bands : List Band) (level : ℕ) (context : Context Row)
    (run : LayoutRun Row Text Figure) :
    (input.emitGroupBand precomputed bands level context run).openGroups = run.openGroups := by
  unfold emitGroupBand
  cases bands[level]? with
  | none => rfl
  | some band => rfl

@[simp] theorem emitGroupBand_events (bands : List Band) (level : ℕ) (context : Context Row)
    (run : LayoutRun Row Text Figure) :
    (input.emitGroupBand precomputed bands level context run).events = run.events := by
  unfold emitGroupBand
  cases bands[level]? with
  | none => rfl
  | some band => rfl

@[simp] theorem emitGroupBand_records (bands : List Band) (level : ℕ) (context : Context Row)
    (run : LayoutRun Row Text Figure) :
    (input.emitGroupBand precomputed bands level context run).records = run.records := by
  unfold emitGroupBand
  cases bands[level]? with
  | none => rfl
  | some band => rfl

/-! ## Closing and opening -/

/-- What a step of a section leaves: the groups that are open, and the events so far. -/
structure GroupState (run : LayoutRun Row Text Figure) (openGroups : List OpenGroup)
    (events : List GroupEvent) (records : List (SectionRecord Row)) : Prop where
  openGroups : run.openGroups = openGroups
  events : run.events = events
  records : run.records = records

variable {run : LayoutRun Row Text Figure} {stack : List OpenGroup}
variable {events : List GroupEvent} {records : List (SectionRecord Row)}

theorem GroupState.closeGroups (footers : List Band) (nextRow level index : ℕ)
    (state : GroupState run stack events records) :
    GroupState (input.closeGroups precomputed footers nextRow level index run) stack
      (events ++ closings stack nextRow level index) records := by
  induction index generalizing run events with
  | zero =>
      rw [closings, List.append_nil]
      exact state
  | succ index ih =>
      unfold LayoutInput.closeGroups closings
      by_cases above : index < level
      · rw [if_pos above, if_pos above, List.append_nil]
        exact state
      · have same : run.openGroups[index]? = stack[index]? := by rw [state.openGroups]
        rw [if_neg above, if_neg above, same]
        cases found : stack[index]? with
        | none => exact ih state
        | some group =>
            have shown : GroupState (input.emitGroupBand precomputed footers index
                (groupContext (currentPageDescriptor run.sheets) group)
                { run with events := run.events ++ [.closed group nextRow run.openGroups] })
                stack (events ++ [.closed group nextRow stack]) records := by
              constructor
              · rw [emitGroupBand_openGroups]
                exact state.openGroups
              · rw [emitGroupBand_events, ← state.openGroups, ← state.events]
              · rw [emitGroupBand_records]
                exact state.records
            have rest := ih shown
            rw [List.append_assoc] at rest
            exact rest

theorem GroupState.closeGroupsFrom (footers : List Band) (nextRow level : ℕ)
    (state : GroupState run stack events records) :
    GroupState (input.closeGroupsFrom precomputed footers nextRow level run) (stack.take level)
      (events ++ closings stack nextRow level stack.length) records := by
  have closed := state.closeGroups input precomputed footers nextRow level stack.length
  unfold LayoutInput.closeGroupsFrom
  dsimp only
  rw [state.openGroups]
  exact ⟨congrArg (List.take level) closed.openGroups, closed.events, closed.records⟩

theorem GroupState.openGroup {details : DetailSection Row} {row : ℕ} {value : Row}
    {base : List OpenGroup} (state : GroupState run base events records) (count : ℕ) :
    GroupState ((List.range' base.length count).foldl
        (input.openGroup precomputed details (input.keysAt details row) value row) run)
      (base ++ (List.range' base.length count).map (newGroup (input.keysAt details) row))
      (events ++ openings (input.keysAt details) base row base.length count) records := by
  induction count with
  | zero =>
      simp only [List.range'_zero, List.map_nil, List.append_nil, openings]
      exact state
  | succ count ih =>
      have last : openings (input.keysAt details) base row base.length (count + 1) =
          openings (input.keysAt details) base row base.length count ++
            [.opened (newGroup (input.keysAt details) row (base.length + count))
              (base ++ (List.range' base.length (count + 1)).map
                (newGroup (input.keysAt details) row))] := by
        unfold openings
        rw [List.range'_1_concat, List.map_append, List.map_singleton, ← List.range'_1_concat,
          show base.length + count + 1 - base.length = count + 1 by omega]
      have kept : (base ++ (List.range' base.length count).map
          (newGroup (input.keysAt details) row)).take (base.length + count) =
          base ++ (List.range' base.length count).map (newGroup (input.keysAt details) row) := by
        apply List.take_of_length_le
        simp
      have grown : base ++ (List.range' base.length (count + 1)).map
          (newGroup (input.keysAt details) row) =
          base ++ (List.range' base.length count).map (newGroup (input.keysAt details) row) ++
            [newGroup (input.keysAt details) row (base.length + count)] := by
        rw [List.range'_1_concat, List.map_append, List.append_assoc]
        rfl
      rw [last, List.range'_1_concat, List.foldl_append, ← List.range'_1_concat]
      constructor
      · change (input.emitGroupBand _ _ _ _ _).openGroups = _
        rw [emitGroupBand_openGroups, grown]
        dsimp only
        rw [ih.openGroups, kept]
        rfl
      · change (input.emitGroupBand _ _ _ _ _).events = _
        rw [emitGroupBand_events, grown, ← List.append_assoc]
        dsimp only
        rw [ih.openGroups, ih.events, kept]
        rfl
      · change (input.emitGroupBand _ _ _ _ _).records = _
        rw [emitGroupBand_records]
        exact ih.records

/-! ## Rows -/

theorem GroupState.emitRow {value : Row} (present : details.rows[row]? = some value)
    (state : GroupState run
      (stackBefore (input.keysAt details) details.groupBy.length row) events records) :
    GroupState (input.emitRow precomputed details run (value, row))
      (stackBefore (input.keysAt details) details.groupBy.length (row + 1))
      (events ++ rowEvents (input.keysAt details) details.groupBy.length row) records := by
  let levels := details.groupBy.length
  let stack := stackBefore (input.keysAt details) levels row
  let level := breakLevel (input.keysAt details) levels row
  have inside : row < details.rows.length := (List.getElem?_eq_some_iff.mp present).1
  have lengths : ∀ other ≤ row, (input.keysAt details other).length = levels :=
    fun other within => input.keysAt_length (lt_of_le_of_lt within inside)
  have keys := input.keysAt_eq present
  have bounded : level ≤ stack.length := breakLevel_le (lengths row (le_refl row))
  have base : (stack.take level).length = level := by
    rw [List.length_take, Nat.min_eq_left bounded]
  have closed : GroupState
      (if level < run.openGroups.length then
        input.closeGroupsFrom precomputed details.groupFooters row level run else run)
      (stack.take level) (events ++ closings stack row level stack.length) records := by
    rw [state.openGroups]
    by_cases breaks : level < stack.length
    · rw [if_pos breaks]
      exact state.closeGroupsFrom input precomputed details.groupFooters row level
    · rw [if_neg breaks, closings_eq_nil (not_lt.mp breaks), List.append_nil,
        List.take_of_length_le (not_lt.mp breaks)]
      exact state
  have opened : GroupState _ _ _ records :=
    @GroupState.openGroup _ _ _ input precomputed _ _ _ details row value _ closed
      (levels - level)
  rw [base] at opened
  have broken : GroupState (input.breakGroups precomputed details (input.keysAt details row)
      value row run)
      (stack.take level ++ (List.range' level (levels - level)).map
        (newGroup (input.keysAt details) row))
      (events ++ rowEvents (input.keysAt details) levels row) records := by
    have changed : changedFrom run.openGroups (input.keysAt details row) = level := by
      rw [state.openGroups]
      rfl
    unfold LayoutInput.breakGroups rowEvents
    dsimp only
    rw [changed, lengths row (le_refl row), ← List.append_assoc]
    exact opened
  have next := stack_next lengths
  unfold LayoutInput.emitRow
  dsimp only
  rw [← keys]
  exact ⟨(congrArg (List.map OpenGroup.bump) broken.openGroups).trans next, broken.events,
    broken.records⟩

theorem GroupState.emitRows {rest : List Row} (left : details.rows.drop row = rest)
    (state : GroupState run
      (stackBefore (input.keysAt details) details.groupBy.length row) events records) :
    GroupState ((rest.zipIdx row).foldl (input.emitRow precomputed details) run)
      (stackBefore (input.keysAt details) details.groupBy.length (row + rest.length))
      (events ++ (List.range' row rest.length).flatMap
        (rowEvents (input.keysAt details) details.groupBy.length)) records := by
  induction rest generalizing row run events with
  | nil =>
      simp only [List.length_nil, List.range'_zero, List.flatMap_nil, List.append_nil]
      exact state
  | cons value rest ih =>
      have present : details.rows[row]? = some value := by
        rw [← List.head?_drop, left]
        rfl
      have after : details.rows.drop (row + 1) = rest := by
        rw [← List.drop_drop, left]
        rfl
      have printed := ih after (state.emitRow input precomputed present)
      rw [List.zipIdx_cons, List.foldl_cons, List.length_cons, List.range'_succ,
        List.flatMap_cons, ← List.append_assoc, ← Nat.add_assoc, Nat.add_right_comm]
      exact printed

/-- A section leaves the events of its rows, and no group open. -/
theorem GroupState.emitDetailSection {openGroups : List OpenGroup}
    (state : GroupState run openGroups events records) :
    GroupState (input.emitDetailSection precomputed details run) []
      (sectionEvents (input.keysAt details) details.groupBy.length details.rows.length)
      (records ++ [⟨details,
        sectionEvents (input.keysAt details) details.groupBy.length details.rows.length⟩]) := by
  have start : GroupState { run with openGroups := [], events := [] }
      (stackBefore (input.keysAt details) details.groupBy.length 0) [] records :=
    ⟨rfl, rfl, state.records⟩
  have rows := start.emitRows input precomputed (List.drop_zero)
  rw [Nat.zero_add, ← List.range_eq_range', List.nil_append] at rows
  have closed := rows.closeGroupsFrom input precomputed details.groupFooters
    details.rows.length 0
  unfold LayoutInput.emitDetailSection
  refine ⟨closed.openGroups, closed.events, ?_⟩
  dsimp only
  rw [closed.records, closed.events]
  rfl

/-- The sections that print: those with rows. -/
def printedSections : List (DetailSection Row) :=
  input.collectDetailSections.filter fun details => !details.rows.isEmpty

theorem firstPass_records : input.firstPass.records =
    input.printedSections.map fun details =>
      ⟨details, sectionEvents (input.keysAt details) details.groupBy.length
        details.rows.length⟩ := by
  have bands (bands : List Band) (run : LayoutRun Row Text Figure) :
      (bands.foldl (input.emitTemplateBand input.prePass) run).records =
        run.records ++ ((bands.filterMap input.sectionOf).filter fun details =>
          !details.rows.isEmpty).map fun details =>
            ⟨details, sectionEvents (input.keysAt details) details.groupBy.length
              details.rows.length⟩ := by
    induction bands generalizing run with
    | nil => simp
    | cons band rest ih =>
        rw [List.foldl_cons, ih]
        have plain (notDetail : band.type ≠ .DETAIL) : input.sectionOf band = none :=
          if_neg notDetail
        unfold emitTemplateBand
        cases type : band.type with
        | DETAIL =>
            dsimp only
            cases found : input.sectionOf band with
            | none => simp [found]
            | some details =>
                dsimp only
                have section' : (band :: rest).filterMap input.sectionOf =
                    details :: rest.filterMap input.sectionOf :=
                  List.filterMap_cons_some found
                rw [section']
                by_cases empty : details.rows = []
                · rw [if_neg (by simpa using empty)]
                  split
                  · simp [empty]
                  · simp [empty]
                · have state : GroupState run run.openGroups run.events run.records :=
                    ⟨rfl, rfl, rfl⟩
                  have printed : GroupState (input.emitDetailSection input.prePass details run)
                      _ _ _ := state.emitDetailSection input input.prePass
                  rw [if_pos empty, printed.records, List.filter_cons_of_pos (by simpa using empty),
                    List.map_cons, List.append_assoc]
                  rfl
        | _ => simp [plain (by rw [type]; decide)]
  exact bands input.template.bands _

end LayoutInput

end ErpServer.Print
