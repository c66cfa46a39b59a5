import ErpServer.Print.Sections
import ErpServer.Print.Steps

/-!
# What a report prints

The bands in the order the engine comes to them, each with what it is evaluated with.  What
there is to print is known before anything is laid out; where it lands is not.
-/

namespace ErpServer.Print

open Lib
open Receipt (Decimal)

/-- A band that is about to be printed, with the sheets as it finds them. -/
structure Emission (Row Text Figure : Type) where
  band : Band
  context : Context Row
  reserveMm : Decimal
  openGroups : List OpenGroup
  sheets : Sheets Row Text Figure

variable {Row Text Figure : Type}

/-- The page of the root context. -/
def rootPage : PageDescriptor := ⟨1, 1, true, true⟩

/-- A context with its page forgotten. -/
def Context.offPage (context : Context Row) : Context Row := { context with page := rootPage }

/-- What is printed and with which groups open, wherever that is. -/
def Emission.matter (emission : Emission Row Text Figure) :
    Band × Context Row × List OpenGroup :=
  (emission.band, emission.context.offPage, emission.openGroups)

namespace LayoutInput

variable (input : LayoutInput Row Text Figure)

/-! ## The bands as they come -/

section Recording

variable (precomputed : PrecomputedAggregates)

/-- The group band of a level, where the template has one. -/
def groupEmissions (bands : List Band) (level : ℕ) (context : Context Row)
    (run : LayoutRun Row Text Figure) : List (Emission Row Text Figure) :=
  (bands[level]?).toList.map fun band => ⟨band, context, 0, run.openGroups, run.sheets⟩

/-- What `closeGroups` prints. -/
def closeEmissions (footers : List Band) (nextRow level : ℕ) :
    ℕ → LayoutRun Row Text Figure → List (Emission Row Text Figure)
  | 0, _ => []
  | index + 1, run =>
      if index < level then []
      else
        match run.openGroups[index]? with
        | none => closeEmissions footers nextRow level index run
        | some group =>
            let context := groupContext (currentPageDescriptor run.sheets) group
            let noted := { run with events := run.events ++ [.closed group nextRow run.openGroups] }
            groupEmissions footers index context noted ++
              closeEmissions footers nextRow level index
                (input.emitGroupBand precomputed footers index context noted)

/-- What `openGroup` prints, level after level. -/
def openEmissions (details : DetailSection Row) (keys : List String) (row : Row) (index : ℕ) :
    List ℕ → LayoutRun Row Text Figure → List (Emission Row Text Figure)
  | [], _ => []
  | level :: rest, run =>
      let inner := keys.take (level + 1)
      let group : OpenGroup := ⟨level, keys.getD level "", buildGroupPath inner, 0, index⟩
      let openGroups := run.openGroups.take level ++ [group]
      let context := rowContext (currentPageDescriptor run.sheets) openGroups row index
        details.rows.length inner
      groupEmissions details.groupHeaders level context
          { run with
            openGroups := openGroups
            events := run.events ++ [.opened group openGroups] } ++
        openEmissions details keys row index rest
          (input.openGroup precomputed details keys row index run level)

/-- What `breakGroups` prints. -/
def breakEmissions (details : DetailSection Row) (keys : List String) (row : Row) (index : ℕ)
    (run : LayoutRun Row Text Figure) : List (Emission Row Text Figure) :=
  let changed := changedFrom run.openGroups keys
  let levels := List.range' changed (keys.length - changed)
  if changed < run.openGroups.length then
    input.closeEmissions precomputed details.groupFooters index changed run.openGroups.length run ++
      input.openEmissions precomputed details keys row index levels
        (input.closeGroupsFrom precomputed details.groupFooters index changed run)
  else
    input.openEmissions precomputed details keys row index levels run

/-- The row itself, as `emitRow` hands it on. -/
def rowEmission (details : DetailSection Row) (run : LayoutRun Row Text Figure)
    (item : Row × ℕ) : Emission Row Text Figure :=
  let keys := input.rowKeys details item.1 item.2
  let broken := input.breakGroups precomputed details keys item.1 item.2 run
  let openGroups := broken.openGroups.map OpenGroup.bump
  let context := rowContext (currentPageDescriptor broken.sheets) openGroups item.1 item.2
    details.rows.length keys
  { band := details.band
    context := context
    reserveMm := input.reserveMm details openGroups context (item.2 + 1 = details.rows.length)
    openGroups := openGroups
    sheets := broken.sheets }

/-- What the rows of a section print, with the groups that change before them. -/
def rowsEmissions (details : DetailSection Row) :
    List (Row × ℕ) → LayoutRun Row Text Figure → List (Emission Row Text Figure)
  | [], _ => []
  | item :: rest, run =>
      input.breakEmissions precomputed details (input.rowKeys details item.1 item.2) item.1 item.2
          run ++
        input.rowEmission precomputed details run item ::
          rowsEmissions details rest (input.emitRow precomputed details run item)

/-- What `emitDetailSection` prints. -/
def sectionEmissions (details : DetailSection Row) (run : LayoutRun Row Text Figure) :
    List (Emission Row Text Figure) :=
  let start := { run with openGroups := [], events := [] }
  let printed := details.rows.zipIdx.foldl (input.emitRow precomputed details) start
  input.rowsEmissions precomputed details details.rows.zipIdx start ++
    input.closeEmissions precomputed details.groupFooters details.rows.length 0
      printed.openGroups.length printed

/-- What `emitTemplateBand` prints. -/
def bandEmissions (run : LayoutRun Row Text Figure) (band : Band) :
    List (Emission Row Text Figure) :=
  match band.type with
  | .PAGE_HEADER | .PAGE_FOOTER | .GROUP_HEADER | .GROUP_FOOTER | .NO_DATA => []
  | .DETAIL =>
      match input.sectionOf band with
      | none => []
      | some details =>
          if details.rows ≠ [] then
            input.sectionEmissions precomputed details run
          else
            match run.noDataEmitted, input.firstBand .NO_DATA with
            | false, some noData => [⟨noData, rootContext, 0, run.openGroups, run.sheets⟩]
            | _, _ => []
  | .REPORT_HEADER | .SUMMARY | .REPORT_FOOTER =>
      [⟨band, rootContext, 0, run.openGroups, run.sheets⟩]

def templateEmissions : List Band → LayoutRun Row Text Figure → List (Emission Row Text Figure)
  | [], _ => []
  | band :: rest, run =>
      input.bandEmissions precomputed run band ++
        templateEmissions rest (input.emitTemplateBand precomputed run band)

end Recording

/-- Every band a report comes to, hidden or not. -/
def emissions : List (Emission Row Text Figure) :=
  input.templateEmissions input.prePass input.template.bands
    { sheets := input.startPage input.prePass [] {} }

/-! ## What there is to print -/

/-- What an event of a section prints: the header of a group with the row that opens it, or
its footer. -/
def eventMatter (details : DetailSection Row) :
    GroupEvent → Option (Band × Context Row × List OpenGroup)
  | .opened group openGroups =>
      details.groupHeaders[group.level]?.bind fun band =>
        details.rows[group.firstRow]?.map fun row =>
          (band, rowContext rootPage openGroups row group.firstRow details.rows.length
            ((input.keysAt details group.firstRow).take (group.level + 1)), openGroups)
  | .closed group _ openGroups =>
      details.groupFooters[group.level]?.map fun band =>
        (band, groupContext rootPage group, openGroups)

def rowMatter (details : DetailSection Row) (item : Row × ℕ) :
    Band × Context Row × List OpenGroup :=
  let openGroups := stackBefore (input.keysAt details) details.groupBy.length (item.2 + 1)
  (details.band, rowContext rootPage openGroups item.1 item.2 details.rows.length
    (input.keysAt details item.2), openGroups)

/-- The footers after the last row of a section. -/
def closingMatter (details : DetailSection Row) : List (Band × Context Row × List OpenGroup) :=
  let stack := stackBefore (input.keysAt details) details.groupBy.length details.rows.length
  (closings stack details.rows.length 0 stack.length).filterMap (input.eventMatter details)

/-- A section: before each row the groups that end and begin, and the last groups' footers. -/
def sectionMatter (details : DetailSection Row) : List (Band × Context Row × List OpenGroup) :=
  (details.rows.zipIdx.flatMap fun item =>
    (rowEvents (input.keysAt details) details.groupBy.length item.2).filterMap
      (input.eventMatter details) ++ [input.rowMatter details item]) ++
    input.closingMatter details

/-- A band in its place in the template, and whether NO_DATA has been printed then: the first
section without rows prints it. -/
def bandMatter (noDataEmitted : Bool) (band : Band) : List (Band × Context Row × List OpenGroup) × Bool :=
  match band.type with
  | .PAGE_HEADER | .PAGE_FOOTER | .GROUP_HEADER | .GROUP_FOOTER | .NO_DATA => ([], noDataEmitted)
  | .DETAIL =>
      match input.sectionOf band with
      | none => ([], noDataEmitted)
      | some details =>
          if details.rows ≠ [] then
            (input.sectionMatter details, noDataEmitted)
          else
            match noDataEmitted, input.firstBand .NO_DATA with
            | false, some noData => ([(noData, rootContext, [])], true)
            | _, _ => ([], noDataEmitted)
  | .REPORT_HEADER | .SUMMARY | .REPORT_FOOTER => ([(band, rootContext, [])], noDataEmitted)

/-- The bands of a template in declaration order. -/
def matterFrom : Bool → List Band → List (Band × Context Row × List OpenGroup)
  | _, [] => []
  | noDataEmitted, band :: rest =>
      (input.bandMatter noDataEmitted band).1 ++
        matterFrom (input.bandMatter noDataEmitted band).2 rest

/-- All a report has to print. -/
def matter : List (Band × Context Row × List OpenGroup) := input.matterFrom false input.template.bands

/-! ## The order of printing -/

section Matter

variable (precomputed : PrecomputedAggregates) {details : DetailSection Row}
variable {run : LayoutRun Row Text Figure}

@[simp] theorem emitGroupBand_noData (bands : List Band) (level : ℕ) (context : Context Row)
    (run : LayoutRun Row Text Figure) :
    (input.emitGroupBand precomputed bands level context run).noDataEmitted =
      run.noDataEmitted := by
  rw [emitGroupBand]
  cases bands[level]? with
  | none => rfl
  | some band => rfl

theorem groupEmissions_matter (bands : List Band) (level : ℕ) (context : Context Row)
    (run : LayoutRun Row Text Figure) :
    (groupEmissions bands level context run).map Emission.matter =
      ((bands[level]?).map fun band => (band, context.offPage, run.openGroups)).toList := by
  cases found : bands[level]? with
  | none => simp [groupEmissions, found]
  | some band => simp [groupEmissions, found, Emission.matter]

/-- The groups of a stack stand at their levels. -/
def AtLevels (stack : List OpenGroup) : Prop :=
  ∀ (level : ℕ) (group : OpenGroup), stack[level]? = some group → group.level = level

theorem stackBefore_atLevels (keysAt : ℕ → List String) (levels row : ℕ) :
    AtLevels (stackBefore keysAt levels row) := by
  intro level group found
  cases row with
  | zero => exact absurd found (by simp [stackBefore])
  | succ row =>
      change (stackAfter keysAt levels row)[level]? = some group at found
      have inside := (List.getElem?_eq_some_iff.mp found).1
      rw [stackAfter_length] at inside
      rw [getElem?_stackAfter inside] at found
      cases found
      rfl

theorem closeEmissions_matter {stack : List OpenGroup} (standing : AtLevels stack)
    (open_eq : run.openGroups = stack) (nextRow level index : ℕ) :
    (input.closeEmissions precomputed details.groupFooters nextRow level index run).map
        Emission.matter =
      (closings stack nextRow level index).filterMap (input.eventMatter details) := by
  induction index generalizing run with
  | zero => rfl
  | succ index ih =>
      rw [closeEmissions, closings]
      by_cases above : index < level
      · rw [if_pos above, if_pos above]
        rfl
      · rw [if_neg above, if_neg above, open_eq]
        cases found : stack[index]? with
        | none => exact ih open_eq
        | some group =>
            dsimp only
            have closed : input.eventMatter details (.closed group nextRow stack) =
                details.groupFooters[index]?.map fun band =>
                  (band, groupContext rootPage group, stack) := by
              rw [eventMatter, standing index group found]
            rw [List.map_append, groupEmissions_matter, ih]
            · cases footer : details.groupFooters[index]? with
              | none =>
                  rw [footer] at closed
                  rw [List.filterMap_cons_none closed]
                  rfl
              | some band =>
                  rw [footer] at closed
                  rw [List.filterMap_cons_some closed]
                  rfl
            · exact emitGroupBand_openGroups input precomputed _ _ _ _

theorem openings_succ (keysAt : ℕ → List String) (base : List OpenGroup) (row level count : ℕ) :
    openings keysAt base row level (count + 1) =
      .opened (newGroup keysAt row level) (base ++ [newGroup keysAt row level]) ::
        openings keysAt (base ++ [newGroup keysAt row level]) row (level + 1) count := by
  unfold openings
  rw [List.range'_succ, List.map_cons]
  have one : level + 1 - level = 1 := by omega
  apply List.cons_eq_cons.mpr
  constructor
  · rw [one]
    rfl
  · apply List.map_congr_left
    intro inner member
    have range := List.mem_range'_1.mp member
    have grown : inner + 1 - level = (inner + 1 - (level + 1)) + 1 := by omega
    rw [grown, List.range'_succ, List.map_cons, List.append_assoc]
    rfl

variable {value : Row} {row : ℕ} {records : List (SectionRecord Row)} {events : List GroupEvent}

theorem openEmissions_matter (present : details.rows[row]? = some value) {base : List OpenGroup}
    (open_eq : run.openGroups = base) (count : ℕ) :
    (input.openEmissions precomputed details (input.keysAt details row) value row
        (List.range' base.length count) run).map Emission.matter =
      (openings (input.keysAt details) base row base.length count).filterMap
        (input.eventMatter details) := by
  induction count generalizing run base with
  | zero => rfl
  | succ count ih =>
      let group := newGroup (input.keysAt details) row base.length
      have kept : run.openGroups.take base.length ++ [group] = base ++ [group] := by
        rw [open_eq, List.take_length]
      have opened : input.eventMatter details (.opened group (base ++ [group])) =
          details.groupHeaders[base.length]?.map fun band =>
            (band, rowContext rootPage (base ++ [group]) value row details.rows.length
              ((input.keysAt details row).take (base.length + 1)), base ++ [group]) := by
        have from_row : details.rows[group.firstRow]? = some value := present
        rw [eventMatter, from_row]
        change (details.groupHeaders[base.length]?).bind _ = _
        cases details.groupHeaders[base.length]? <;> rfl
      have next := @ih (input.openGroup precomputed details (input.keysAt details row) value row
        run base.length) (base ++ [group]) (by
          rw [openGroup]
          exact (emitGroupBand_openGroups input precomputed _ _ _ _).trans kept)
      rw [List.length_append, List.length_singleton] at next
      rw [List.range'_succ, openEmissions, openings_succ, List.map_append, groupEmissions_matter,
        next]
      change (Option.map (fun band => (band, Context.offPage (rowContext _
        (run.openGroups.take base.length ++ [group]) _ _ _ _),
        run.openGroups.take base.length ++ [group])) _).toList ++ _ = _
      rw [kept]
      cases header : details.groupHeaders[base.length]? with
      | none =>
          rw [header] at opened
          rw [List.filterMap_cons_none opened]
          rfl
      | some band =>
          rw [header] at opened
          rw [List.filterMap_cons_some opened]
          rfl

theorem breakEmissions_matter (present : details.rows[row]? = some value)
    (state : GroupState run (stackBefore (input.keysAt details) details.groupBy.length row) events
      records) :
    (input.breakEmissions precomputed details (input.keysAt details row) value row run).map
        Emission.matter =
      (rowEvents (input.keysAt details) details.groupBy.length row).filterMap
        (input.eventMatter details) := by
  let levels := details.groupBy.length
  let stack := stackBefore (input.keysAt details) levels row
  let level := breakLevel (input.keysAt details) levels row
  have inside : row < details.rows.length := (List.getElem?_eq_some_iff.mp present).1
  have length := input.keysAt_length inside
  have base : (stack.take level).length = level := by
    rw [List.length_take, Nat.min_eq_left (breakLevel_le length)]
  have standing : AtLevels stack := stackBefore_atLevels _ _ _
  have changed : changedFrom run.openGroups (input.keysAt details row) = level := by
    rw [state.openGroups]
    rfl
  have opened {closed : LayoutRun Row Text Figure} (open_eq : closed.openGroups = stack.take level) :
      (input.openEmissions precomputed details (input.keysAt details row) value row
        (List.range' level ((input.keysAt details row).length - level)) closed).map
          Emission.matter =
        (openings (input.keysAt details) (stack.take level) row level (levels - level)).filterMap
          (input.eventMatter details) := by
    have step := input.openEmissions_matter precomputed present open_eq (levels - level)
    rw [base] at step
    rw [length]
    exact step
  rw [breakEmissions, rowEvents, List.filterMap_append, changed, state.openGroups]
  by_cases breaks : level < stack.length
  · have closed := state.closeGroupsFrom input precomputed details.groupFooters row level
    rw [if_pos breaks, List.map_append, opened closed.openGroups,
      input.closeEmissions_matter precomputed standing state.openGroups]
  · have whole : run.openGroups = stack.take level := by
      rw [state.openGroups, List.take_of_length_le (not_lt.mp breaks)]
    rw [if_neg breaks, closings_eq_nil (not_lt.mp breaks), opened whole]
    rfl

theorem rowEmission_openGroups (present : details.rows[row]? = some value)
    (state : GroupState run (stackBefore (input.keysAt details) details.groupBy.length row) events
      records) : (input.rowEmission precomputed details run (value, row)).openGroups =
      stackBefore (input.keysAt details) details.groupBy.length (row + 1) :=
  (state.emitRow input precomputed present).openGroups

theorem rowEmission_matter (present : details.rows[row]? = some value)
    (state : GroupState run (stackBefore (input.keysAt details) details.groupBy.length row) events
      records) : (input.rowEmission precomputed details run (value, row)).matter =
      input.rowMatter details (value, row) := by
  have groups := input.rowEmission_openGroups precomputed present state
  rw [rowMatter, ← groups, input.keysAt_eq present]
  rfl

theorem rowsEmissions_matter {rest : List Row} (left : details.rows.drop row = rest)
    (state : GroupState run (stackBefore (input.keysAt details) details.groupBy.length row) events
      records) :
    (input.rowsEmissions precomputed details (rest.zipIdx row) run).map Emission.matter =
      (rest.zipIdx row).flatMap fun item =>
        (rowEvents (input.keysAt details) details.groupBy.length item.2).filterMap
          (input.eventMatter details) ++ [input.rowMatter details item] := by
  induction rest generalizing row run events with
  | nil => rfl
  | cons value rest ih =>
      have present : details.rows[row]? = some value := by
        rw [← List.head?_drop, left]
        rfl
      have after : details.rows.drop (row + 1) = rest := by
        rw [← List.drop_drop, left]
        rfl
      have broken := input.breakEmissions_matter precomputed present state
      have later := ih after (state.emitRow input precomputed present)
      rw [List.zipIdx_cons, rowsEmissions, List.flatMap_cons, List.map_append, List.map_cons,
        input.rowEmission_matter precomputed present state, later,
        ← input.keysAt_eq present, broken, List.append_assoc]
      rfl

theorem sectionEmissions_matter (details : DetailSection Row) (run : LayoutRun Row Text Figure) :
    (input.sectionEmissions precomputed details run).map Emission.matter =
      input.sectionMatter details := by
  have start : GroupState { run with openGroups := [], events := [] }
      (stackBefore (input.keysAt details) details.groupBy.length 0) [] run.records :=
    ⟨rfl, rfl, rfl⟩
  have rows := start.emitRows input precomputed List.drop_zero
  rw [Nat.zero_add] at rows
  rw [sectionEmissions, sectionMatter, List.map_append,
    input.rowsEmissions_matter precomputed List.drop_zero start, closingMatter,
    input.closeEmissions_matter precomputed (stackBefore_atLevels _ _ _) rows.openGroups,
    rows.openGroups]

theorem closeGroups_noData (footers : List Band) (nextRow level index : ℕ)
    (run : LayoutRun Row Text Figure) :
    (input.closeGroups precomputed footers nextRow level index run).noDataEmitted =
      run.noDataEmitted := by
  induction index generalizing run with
  | zero => rfl
  | succ index ih =>
      rw [closeGroups]
      split
      · rfl
      · split
        · exact ih run
        · rw [ih, emitGroupBand_noData]

theorem openGroups_noData (details : DetailSection Row) (keys : List String) (row : Row)
    (index : ℕ) (levels : List ℕ) (run : LayoutRun Row Text Figure) :
    (levels.foldl (input.openGroup precomputed details keys row index) run).noDataEmitted =
      run.noDataEmitted := by
  induction levels generalizing run with
  | nil => rfl
  | cons level rest ih =>
      rw [List.foldl_cons, ih, openGroup, emitGroupBand_noData]

theorem emitDetailSection_noData (details : DetailSection Row) (run : LayoutRun Row Text Figure) :
    (input.emitDetailSection precomputed details run).noDataEmitted = run.noDataEmitted := by
  have row (item : Row × ℕ) (run : LayoutRun Row Text Figure) :
      (input.emitRow precomputed details run item).noDataEmitted = run.noDataEmitted := by
    change (input.breakGroups precomputed details _ item.1 item.2 run).noDataEmitted = _
    rw [breakGroups, openGroups_noData]
    split
    · exact input.closeGroups_noData precomputed _ _ _ _ run
    · rfl
  have rows (items : List (Row × ℕ)) (run : LayoutRun Row Text Figure) :
      (items.foldl (input.emitRow precomputed details) run).noDataEmitted = run.noDataEmitted := by
    induction items generalizing run with
    | nil => rfl
    | cons item rest ih => exact (ih _).trans (row item run)
  exact (input.closeGroups_noData precomputed _ _ _ _ _).trans (rows _ _)

/-- Between the bands of the template no group is open. -/
theorem emitTemplateBand_openGroups (closed : run.openGroups = []) (band : Band) :
    (input.emitTemplateBand precomputed run band).openGroups = [] := by
  unfold emitTemplateBand
  split
  all_goals first | exact closed | skip
  split
  · exact closed
  · split
    · rw [emitDetailSection, closeGroupsFrom]
      rfl
    · split <;> exact closed

theorem bandEmissions_matter (closed : run.openGroups = []) (band : Band) :
    ((input.bandEmissions precomputed run band).map Emission.matter,
      (input.emitTemplateBand precomputed run band).noDataEmitted) =
      input.bandMatter run.noDataEmitted band := by
  unfold bandEmissions emitTemplateBand bandMatter
  cases band.type with
  | DETAIL =>
      dsimp only
      cases input.sectionOf band with
      | none => rfl
      | some details =>
          dsimp only
          by_cases filled : details.rows ≠ []
          · rw [if_pos filled, if_pos filled, if_pos filled, sectionEmissions_matter,
              input.emitDetailSection_noData]
          · rw [if_neg filled, if_neg filled, if_neg filled]
            cases emitted : run.noDataEmitted with
            | true =>
                dsimp only
                rw [emitted]
                rfl
            | false =>
                cases input.firstBand .NO_DATA with
                | none =>
                    dsimp only
                    rw [emitted]
                    rfl
                | some noData =>
                    dsimp only
                    rw [closed]
                    rfl
  | REPORT_HEADER | SUMMARY | REPORT_FOOTER =>
      dsimp only
      rw [closed]
      rfl
  | _ => rfl

theorem templateEmissions_matter (bands : List Band) (closed : run.openGroups = []) :
    (input.templateEmissions precomputed bands run).map Emission.matter =
      input.matterFrom run.noDataEmitted bands := by
  induction bands generalizing run with
  | nil => rfl
  | cons band rest ih =>
      rw [templateEmissions, matterFrom, List.map_append,
        ih (input.emitTemplateBand_openGroups precomputed closed band),
        ← input.bandEmissions_matter precomputed closed]

/-- What is printed, and in which order, is settled by the template and the data. -/
theorem emissions_matter : input.emissions.map Emission.matter = input.matter :=
  input.templateEmissions_matter input.prePass input.template.bands rfl

/-- The report on other paper, in another mode, its bands measured and drawn otherwise. -/
def onPaper (layoutMode : LayoutMode) (paper : Paper) (drawing : Drawing Row Text Figure) :
    LayoutInput Row Text Figure :=
  { input with
    template := { input.template with layoutMode, paper }
    drawing }

/-- Neither the paper nor what the bands measure settles which bands a report comes to, in
which order and with which groups open. -/
theorem emissions_onPaper (layoutMode : LayoutMode) (paper : Paper)
    (drawing : Drawing Row Text Figure) :
    (input.onPaper layoutMode paper drawing).emissions.map Emission.matter =
      input.emissions.map Emission.matter := by
  rw [emissions_matter, emissions_matter]
  have bandwise (noDataEmitted : Bool) (band : Band) :
      (input.onPaper layoutMode paper drawing).bandMatter noDataEmitted band =
        input.bandMatter noDataEmitted band := by
    unfold bandMatter
    rfl
  have all (bands : List Band) : ∀ noDataEmitted,
      (input.onPaper layoutMode paper drawing).matterFrom noDataEmitted bands =
        input.matterFrom noDataEmitted bands := by
    induction bands with
    | nil => exact fun _ => rfl
    | cons band rest ih =>
        intro noDataEmitted
        rw [matterFrom, matterFrom, bandwise, ih]
  exact all input.template.bands false

end Matter

/-! ## One band after another -/

/-- A band of the template that is no page's own. -/
def BodyBand (band : Band) : Prop := band ∈ input.template.bands ∧ band.type ∉ PAGE_BANDS

/-- The bands a section prints are bands of the template. -/
structure Declared (details : DetailSection Row) : Prop where
  band : input.BodyBand details.band
  headers : ∀ header ∈ details.groupHeaders, input.BodyBand header
  footers : ∀ footer ∈ details.groupFooters, input.BodyBand footer

/-- Nothing is kept free below a band but what `reserveMm` says. -/
def Reserves (emission : Emission Row Text Figure) : Prop :=
  emission.reserveMm = 0 ∨ ∃ details openGroups context isLastRow, input.Declared details ∧
    emission.reserveMm = input.reserveMm details openGroups context isLastRow

/-- What is kept by every band of the body that is printed, and by every row that is counted,
with the bands so far. -/
structure Traced (precomputed : PrecomputedAggregates)
    (holds : List (Emission Row Text Figure) → Sheets Row Text Figure → List (RowRecord Row) → Prop) :
    Prop where
  printed : ∀ {emissions rows} (emission : Emission Row Text Figure),
    input.BodyBand emission.band → input.Reserves emission →
    holds emissions emission.sheets rows →
    holds (emissions ++ [emission]) (input.emitBand precomputed emission.openGroups emission.band
      emission.context emission.reserveMm emission.sheets).1 rows
  counted : ∀ {emissions sheets rows} (details : DetailSection Row) (context : Context Row)
    (drawnOn : Option ℕ), input.Landed details.band context sheets drawnOn →
    holds emissions sheets rows →
    holds emissions { sheets with
        pageAggregates := input.accumulatePageAggregates details context sheets.pageAggregates }
      (rows ++ [⟨details.band, details.dataset, context, drawnOn,
        sheets.current.map fun _ => sheets.closed.length⟩])

theorem bandsByLevel_mem {type : BandType} {dataset : String} {band : Band}
    (member : band ∈ input.bandsByLevel type dataset) : band ∈ input.template.bands := by
  unfold bandsByLevel at member
  obtain ⟨level, _, found⟩ := List.mem_filterMap.mp member
  have present := List.mem_filter.mp (List.mem_of_getLast? found)
  exact (List.mem_filter.mp present.1).1

theorem declared_of_sectionOf {band : Band} (declared : band ∈ input.template.bands)
    (found : input.sectionOf band = some details) : input.Declared details := by
  have made := input.sectionOf_eq_some found
  have detail : input.BodyBand details.band := by
    rw [made.band_eq]
    exact ⟨declared, by rw [made.isDetail]; decide⟩
  have headers (header : Band) (member : header ∈ details.groupHeaders) : input.BodyBand header := by
    have type := made.headers header member
    have among := member
    unfold sectionOf at found
    rw [if_pos made.isDetail] at found
    obtain ⟨dataset, _, rfl⟩ := Option.map_eq_some_iff.mp found
    exact ⟨input.bandsByLevel_mem among, by rw [type]; decide⟩
  have footers (footer : Band) (member : footer ∈ details.groupFooters) : input.BodyBand footer := by
    have type := made.footers footer member
    have among := member
    unfold sectionOf at found
    rw [if_pos made.isDetail] at found
    obtain ⟨dataset, _, rfl⟩ := Option.map_eq_some_iff.mp found
    exact ⟨input.bandsByLevel_mem among, by rw [type]; decide⟩
  exact ⟨detail, headers, footers⟩

namespace Traced

variable {input} {precomputed : PrecomputedAggregates} {before : List (Emission Row Text Figure)}
variable {holds : List (Emission Row Text Figure) → Sheets Row Text Figure →
  List (RowRecord Row) → Prop}
variable {run : LayoutRun Row Text Figure} {details : DetailSection Row}

theorem groupEmissions (traced : input.Traced precomputed holds) {bands : List Band}
    (declared : ∀ band ∈ bands, input.BodyBand band) (level : ℕ) (context : Context Row)
    (start : holds before run.sheets run.rows) :
    holds (before ++ LayoutInput.groupEmissions bands level context run)
      (input.emitGroupBand precomputed bands level context run).sheets
      (input.emitGroupBand precomputed bands level context run).rows := by
  rw [LayoutInput.groupEmissions, emitGroupBand]
  cases found : bands[level]? with
  | none =>
      rw [Option.toList_none, List.map_nil, List.append_nil]
      exact start
  | some band =>
      exact traced.printed ⟨band, context, 0, run.openGroups, run.sheets⟩
        (declared band (List.mem_of_getElem? found)) (Or.inl rfl) start

theorem closeEmissions (traced : input.Traced precomputed holds) {footers : List Band}
    (declared : ∀ band ∈ footers, input.BodyBand band) (nextRow level index : ℕ)
    (start : holds before run.sheets run.rows) :
    holds (before ++ input.closeEmissions precomputed footers nextRow level index run)
      (input.closeGroups precomputed footers nextRow level index run).sheets
      (input.closeGroups precomputed footers nextRow level index run).rows := by
  induction index generalizing run before with
  | zero =>
      rw [LayoutInput.closeEmissions, List.append_nil]
      exact start
  | succ index ih =>
      rw [LayoutInput.closeEmissions, closeGroups]
      by_cases above : index < level
      · rw [if_pos above, if_pos above, List.append_nil]
        exact start
      · rw [if_neg above, if_neg above]
        cases run.openGroups[index]? with
        | none => exact ih start
        | some group =>
            dsimp only
            rw [← List.append_assoc]
            apply ih
            apply traced.groupEmissions declared
            exact start

theorem openEmissions (traced : input.Traced precomputed holds)
    (declared : ∀ band ∈ details.groupHeaders, input.BodyBand band) (keys : List String) (row : Row)
    (index : ℕ) (levels : List ℕ) (start : holds before run.sheets run.rows) :
    holds (before ++ input.openEmissions precomputed details keys row index levels run)
      (levels.foldl (input.openGroup precomputed details keys row index) run).sheets
      (levels.foldl (input.openGroup precomputed details keys row index) run).rows := by
  induction levels generalizing run before with
  | nil =>
      rw [LayoutInput.openEmissions, List.append_nil]
      exact start
  | cons level rest ih =>
      rw [LayoutInput.openEmissions, List.foldl_cons, ← List.append_assoc]
      apply ih
      rw [openGroup]
      apply traced.groupEmissions declared
      exact start

theorem breakEmissions (traced : input.Traced precomputed holds) (declared : input.Declared details)
    (keys : List String) (row : Row) (index : ℕ) (start : holds before run.sheets run.rows) :
    holds (before ++ input.breakEmissions precomputed details keys row index run)
      (input.breakGroups precomputed details keys row index run).sheets
      (input.breakGroups precomputed details keys row index run).rows := by
  rw [LayoutInput.breakEmissions, breakGroups]
  split
  · rw [← List.append_assoc]
    apply traced.openEmissions declared.headers
    exact traced.closeEmissions declared.footers _ _ _ start
  · exact traced.openEmissions declared.headers _ _ _ _ start

theorem rowEmission (traced : input.Traced precomputed holds) (declared : input.Declared details)
    (isDetail : details.band.type = .DETAIL) (item : Row × ℕ)
    (start : holds before run.sheets run.rows) :
    holds (before ++ input.breakEmissions precomputed details (input.rowKeys details item.1 item.2)
      item.1 item.2 run ++ [input.rowEmission precomputed details run item])
      (input.emitRow precomputed details run item).sheets
      (input.emitRow precomputed details run item).rows := by
  have broken := traced.breakEmissions declared (input.rowKeys details item.1 item.2) item.1
    item.2 start
  have printed := traced.printed (input.rowEmission precomputed details run item) declared.band
    (Or.inr ⟨_, _, _, _, declared, rfl⟩) broken
  have repeats : details.band.type ∉ CROSSTAB_BANDS := by
    rw [isDetail]
    decide
  exact traced.counted details _ _ (input.emitBand_landed precomputed _ details.band repeats _ _ _)
    printed

theorem rowsEmissions (traced : input.Traced precomputed holds) (declared : input.Declared details)
    (isDetail : details.band.type = .DETAIL) (items : List (Row × ℕ))
    (start : holds before run.sheets run.rows) :
    holds (before ++ input.rowsEmissions precomputed details items run)
      (items.foldl (input.emitRow precomputed details) run).sheets
      (items.foldl (input.emitRow precomputed details) run).rows := by
  induction items generalizing run before with
  | nil =>
      rw [LayoutInput.rowsEmissions, List.append_nil]
      exact start
  | cons item rest ih =>
      have next := ih (traced.rowEmission declared isDetail item start)
      rw [LayoutInput.rowsEmissions, List.foldl_cons]
      rw [List.append_assoc, List.append_assoc] at next
      exact next

theorem sectionEmissions (traced : input.Traced precomputed holds) (declared : input.Declared details)
    (isDetail : details.band.type = .DETAIL) (start : holds before run.sheets run.rows) :
    holds (before ++ input.sectionEmissions precomputed details run)
      (input.emitDetailSection precomputed details run).sheets
      (input.emitDetailSection precomputed details run).rows := by
  rw [LayoutInput.sectionEmissions, ← List.append_assoc]
  apply traced.closeEmissions declared.footers
  exact traced.rowsEmissions declared isDetail _ start

theorem bandEmissions (traced : input.Traced precomputed holds) {band : Band}
    (declared : band ∈ input.template.bands) (start : holds before run.sheets run.rows) :
    holds (before ++ input.bandEmissions precomputed run band)
      (input.emitTemplateBand precomputed run band).sheets
      (input.emitTemplateBand precomputed run band).rows := by
  have skipped : holds (before ++ []) run.sheets run.rows := by
    rw [List.append_nil]
    exact start
  have plain (body : band.type ∉ PAGE_BANDS) :
      holds (before ++ [⟨band, rootContext, 0, run.openGroups, run.sheets⟩])
        (input.emitBand precomputed run.openGroups band rootContext 0 run.sheets).1 run.rows :=
    traced.printed ⟨band, rootContext, 0, run.openGroups, run.sheets⟩ ⟨declared, body⟩ (Or.inl rfl)
      start
  unfold LayoutInput.bandEmissions emitTemplateBand
  cases type : band.type with
  | PAGE_HEADER => exact skipped
  | PAGE_FOOTER => exact skipped
  | GROUP_HEADER => exact skipped
  | GROUP_FOOTER => exact skipped
  | NO_DATA => exact skipped
  | REPORT_HEADER => exact plain (by rw [type]; decide)
  | SUMMARY => exact plain (by rw [type]; decide)
  | REPORT_FOOTER => exact plain (by rw [type]; decide)
  | DETAIL =>
      dsimp only
      cases found : input.sectionOf band with
      | none => exact skipped
      | some details =>
          have made := input.sectionOf_eq_some found
          dsimp only
          split
          · exact traced.sectionEmissions (input.declared_of_sectionOf declared found)
              (made.band_eq ▸ made.isDetail) start
          · cases emitted : run.noDataEmitted with
            | true => exact skipped
            | false =>
                cases noDataBand : input.firstBand .NO_DATA with
                | none => exact skipped
                | some noData =>
                    have noDataType : noData.type = .NO_DATA := by
                      simpa using List.find?_some noDataBand
                    have body : input.BodyBand noData :=
                      ⟨List.mem_of_find?_eq_some noDataBand, by rw [noDataType]; decide⟩
                    exact traced.printed ⟨noData, rootContext, 0, run.openGroups, run.sheets⟩ body
                      (Or.inl rfl) start

theorem templateEmissions (traced : input.Traced precomputed holds) {bands : List Band}
    (declared : ∀ band ∈ bands, band ∈ input.template.bands)
    (start : holds before run.sheets run.rows) :
    holds (before ++ input.templateEmissions precomputed bands run)
      (bands.foldl (input.emitTemplateBand precomputed) run).sheets
      (bands.foldl (input.emitTemplateBand precomputed) run).rows := by
  induction bands generalizing run before with
  | nil =>
      rw [LayoutInput.templateEmissions, List.append_nil]
      exact start
  | cons band rest ih =>
      rw [LayoutInput.templateEmissions, List.foldl_cons, ← List.append_assoc]
      apply ih
      · exact fun other member => declared other (List.mem_cons_of_mem band member)
      · exact traced.bandEmissions (declared band List.mem_cons_self) start

/-- What holds of the first page, and is kept, holds when the last band is out. -/
theorem emissions (traced : input.Traced input.prePass holds)
    (start : holds [] (input.startPage input.prePass [] {}) []) :
    holds input.emissions input.printed.sheets input.printed.rows :=
  @templateEmissions _ _ _ input input.prePass [] holds
    { sheets := input.startPage input.prePass [] {} } traced input.template.bands
    (fun _ member => member) start

end Traced

theorem emissions_declared : ∀ emission ∈ input.emissions, input.BodyBand emission.band := by
  have traced : input.Traced input.prePass fun emissions _ _ =>
      ∀ emission ∈ emissions, input.BodyBand emission.band :=
    { printed := by
        intro emissions rows emission body reserves before other member
        rcases List.mem_append.mp member with old | new
        · exact before other old
        · rw [List.mem_singleton.mp new]
          exact body
      counted := fun _ _ _ _ declared => declared }
  exact traced.emissions fun emission member => absurd member List.not_mem_nil

theorem Kept.printed {input : LayoutInput Row Text Figure}
    {holds : Sheets Row Text Figure → List (RowRecord Row) → Prop}
    (kept : input.Kept input.prePass holds) (start : holds (input.startPage input.prePass [] {}) []) :
    holds input.printed.sheets input.printed.rows := by
  have traced : input.Traced input.prePass fun _ => holds :=
    { printed := fun emission body _ holds =>
        Steps.invariant kept.step (input.emitBand_steps input.prePass emission.openGroups
          emission.band body.2 emission.context emission.reserveMm emission.sheets) holds
      counted := fun details context drawnOn landed holds =>
        kept.count details context drawnOn landed holds }
  exact traced.emissions start

end LayoutInput

end ErpServer.Print
