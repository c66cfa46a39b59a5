import ErpServer.Print.CrosstabPlan

/-!
# A split crosstab is whole

Every page after the first places a row or the totals row, so a table takes a page a row at
most and one for its totals.  What is drawn is the rows in their order, and after the last
of them the totals row.  A totals row that no page holds is never drawn.
-/

namespace ErpServer.Print

open Lib
open Receipt (Decimal)

/-! ## The law -/

section Law

variable (plan : CrosstabPlan) (body : PageBody)

/-- A page without rows holds the totals row, below the header if that repeats. -/
def TotalsRowFits : Prop :=
  plan.totalsRowHeightMm = 0 ∨
    sliceHeaderMm plan plan.element.repeatHeader + plan.totalsRowHeightMm ≤
      body.heightMm + 1 / 1000

def totalsRows : ℕ := if 0 < plan.totalsRowHeightMm then 1 else 0

/-- How far a slice may reach past the body. -/
def toleranceMm (slice : CrosstabSlice) : Decimal :=
  if slice.withTotals then 1 / 1000 else plan.rowHeightMm / 1000

/-- The rows some slices draw, one after another. -/
def rowsDrawn (slices : List DrawnSlice) : List CrosstabModelRow :=
  slices.flatMap fun drawn => drawn.slice.rows plan

/-- A slice that draws a row or the totals row ends within the body, but for a tolerance. -/
def DrawnSlice.EndsWithin (drawn : DrawnSlice) : Prop :=
  0 < drawn.slice.rowCount ∨ drawn.slice.withTotals = true →
    drawn.topMm + drawn.slice.heightMm ≤
      body.topMm + body.heightMm + toleranceMm plan drawn.slice

/-- The slices draw the table from a row on, over these many pages more at most. -/
structure Splits (fromRow pages breaks : ℕ) (table : DrawnTable) : Prop where
  inOrder : rowsDrawn plan table.slices <+: plan.model.rows.drop fromRow
  whole : table.ending = .complete →
    rowsDrawn plan table.slices = plan.model.rows.drop fromRow
  totalsLast : table.ending = .complete →
    ∃ before, table.slices.map (fun drawn => drawn.slice.withTotals) =
      List.replicate before false ++ [decide (0 < plan.totalsRowHeightMm)]
  noTotals : table.ending ≠ .complete →
    ∀ drawn ∈ table.slices, drawn.slice.withTotals = false
  within : ∀ drawn ∈ table.slices, drawn.announced = false → drawn.EndsWithin plan body
  announced : ∀ drawn ∈ table.slices, drawn.announced = true →
    drawn.slice.rowCount = 1 ∧ drawn.slice.withTotals = false
  broken : table.pages ≤ pages + breaks
  noGuard : table.ending ≠ .guard
  completes : pages + breaks ≤ MAX_PAGES → table.ending = .complete

end Law

/-- The pages a band may add after its table: for what trails it, and for a break it asks
for. -/
def pagesAfter (band : CrosstabBand) : ℕ :=
  (if band.trailing = some true then 1 else 0) + if band.requestsPageBreak then 1 else 0

/-- The law without a tolerance, a limit or a totals row that no page holds. -/
structure SplitsExactly (plan : CrosstabPlan) (body : PageBody) (pages : ℕ)
    (table : DrawnTable) : Prop where
  whole : rowsDrawn plan table.slices = plan.model.rows
  totalsLast : ∃ before, table.slices.map (fun drawn => drawn.slice.withTotals) =
    List.replicate before false ++ [decide (0 < plan.totalsRowHeightMm)]
  broken : table.pages ≤ pages + (plan.model.rows.length + totalsRows plan + 1)
  within : ∀ drawn ∈ table.slices, drawn.announced = false →
    drawn.topMm + drawn.slice.heightMm ≤ body.topMm + body.heightMm

/-! ## One slice -/

section Slice

variable {plan : CrosstabPlan} {body : PageBody}

/-- The rows that fit end within what is left, but for a thousandth of a row. -/
theorem rows_fit {rowCount : ℕ} {forRowsMm : Decimal} (some_row : 0 < rowCount)
    (fits : rowCount ≤ (rowsThatFit plan forRowsMm).toNat) :
    rowCount * plan.rowHeightMm ≤ forRowsMm + plan.rowHeightMm / 1000 := by
  have row_pos : 0 < plan.rowHeightMm := plan.rowHeightMm_pos
  have within : (rowCount : ℤ) ≤ ⌊forRowsMm / plan.rowHeightMm + 1 / 1000⌋ := by
    rw [rowsThatFit, if_pos row_pos] at fits
    omega
  have share : (rowCount : Decimal) ≤ forRowsMm / plan.rowHeightMm + 1 / 1000 := by
    have := Int.le_floor.1 within
    simpa using this
  calc rowCount * plan.rowHeightMm
      ≤ (forRowsMm / plan.rowHeightMm + 1 / 1000) * plan.rowHeightMm :=
        mul_le_mul_of_nonneg_right share row_pos.le
    _ = forRowsMm + plan.rowHeightMm / 1000 := by
        rw [add_mul, div_mul_cancel₀ _ row_pos.ne']
        ring

/-- What a run puts on a page. -/
structure TableRun.Draws (plan : CrosstabPlan) (body : PageBody) (run : TableRun)
    (drawn : DrawnSlice) : Prop where
  fromRow : drawn.slice.fromRow = run.fromRow
  inside : run.fromRow + drawn.slice.rowCount ≤ plan.model.rows.length
  progress : run.fromRow < plan.model.rows.length → 0 < drawn.slice.rowCount
  totals : drawn.slice.withTotals = true →
    run.fromRow + drawn.slice.rowCount = plan.model.rows.length ∧ 0 < plan.totalsRowHeightMm
  within : drawn.announced = false → drawn.EndsWithin plan body
  announced : drawn.announced = true →
    drawn.slice.rowCount = 1 ∧ drawn.slice.withTotals = false

variable {withHeader : Bool} {availableMm : Decimal} {fromRow : ℕ}

theorem sliceCrosstab_withTotals :
    (sliceCrosstab plan fromRow availableMm withHeader).withTotals = true ↔
      (sliceCrosstab plan fromRow availableMm withHeader).rowCount =
          plan.model.rows.length - fromRow ∧
        0 < plan.totalsRowHeightMm ∧
        sliceHeaderMm plan withHeader +
            (sliceCrosstab plan fromRow availableMm withHeader).rowCount * plan.rowHeightMm +
          plan.totalsRowHeightMm ≤ availableMm + 1 / 1000 := by
  simp only [sliceCrosstab, decide_eq_true_eq]

/-- The height of a slice that draws something fits what is left, but for the tolerance. -/
theorem sliceCrosstab_height
    (draws : 0 < (sliceCrosstab plan fromRow availableMm withHeader).rowCount ∨
      (sliceCrosstab plan fromRow availableMm withHeader).withTotals = true) :
    (sliceCrosstab plan fromRow availableMm withHeader).heightMm ≤
      availableMm + toleranceMm plan (sliceCrosstab plan fromRow availableMm withHeader) := by
  cases totals : (sliceCrosstab plan fromRow availableMm withHeader).withTotals with
  | true =>
      have height := (sliceCrosstab_withTotals.1 totals).2.2
      simp only [sliceCrosstab] at totals height
      simp only [sliceCrosstab, toleranceMm, totals, if_true]
      exact height
  | false =>
      rw [totals] at draws
      have some_row : 0 < (sliceCrosstab plan fromRow availableMm withHeader).rowCount := by
        simpa using draws
      have height := rows_fit some_row (min_le_right _ _)
      simp only [sliceCrosstab] at totals height
      simp only [sliceCrosstab, toleranceMm, totals, Bool.false_eq_true, if_false, add_zero]
      linarith

theorem TableRun.draw_spec {run : TableRun} {drawn : DrawnSlice}
    (inside : run.fromRow ≤ plan.model.rows.length) (draw : run.draw plan body = some drawn) :
    run.Draws plan body drawn := by
  have fewer : (sliceCrosstab plan run.fromRow (body.topMm + body.heightMm - run.tableTopMm)
      run.withHeader).rowCount ≤ plan.model.rows.length - run.fromRow :=
    min_le_left _ _
  unfold TableRun.draw at draw
  simp only at draw
  split at draw
  next stuck =>
    split at draw
    next fresh =>
      -- A row placed on a fresh page although it does not fit.
      cases draw
      have noTotals : (sliceCrosstab plan run.fromRow
          (body.topMm + body.heightMm - run.tableTopMm) run.withHeader).withTotals = false := by
        rw [Bool.eq_false_iff]
        intro totals
        have last := (sliceCrosstab_withTotals.1 totals).1
        omega
      exact
        { fromRow := rfl
          inside := by
            show run.fromRow + 1 ≤ _
            omega
          progress := fun _ => Nat.one_pos
          totals := fun totals => by
            rw [show _ = false from noTotals] at totals
            cases totals
          within := fun unannounced => by cases unannounced
          announced := fun _ => ⟨rfl, noTotals⟩ }
    next => cases draw
  next placed =>
    cases draw
    exact
      { fromRow := rfl
        inside := by
          show run.fromRow + (sliceCrosstab _ _ _ _).rowCount ≤ _
          omega
        progress := fun remain => by
          show 0 < (sliceCrosstab _ _ _ _).rowCount
          omega
        totals := fun totals => by
          obtain ⟨last, shown, -⟩ := sliceCrosstab_withTotals.1 totals
          refine ⟨?_, shown⟩
          show run.fromRow + (sliceCrosstab _ _ _ _).rowCount = _
          omega
        within := fun _ draws => by
          have height := sliceCrosstab_height draws
          show run.tableTopMm + (sliceCrosstab _ _ _ _).heightMm ≤ _
          linarith
        announced := fun announced => by cases announced }

end Slice

/-! ## A fresh page -/

/-- A run at the top of a page of its own, with something left to draw. -/
structure TableRun.Fresh (plan : CrosstabPlan) (body : PageBody) (run : TableRun) : Prop where
  broken : 0 < run.pagesBroken
  top : run.tableTopMm = body.topMm
  header : run.withHeader = plan.element.repeatHeader
  inside : run.fromRow ≤ plan.model.rows.length
  unfinished : run.fromRow < plan.model.rows.length ∨ 0 < plan.totalsRowHeightMm

/-- The page breaks a fresh page may need. -/
def breaksLeft (plan : CrosstabPlan) (fromRow : ℕ) : ℕ :=
  plan.model.rows.length - fromRow + totalsRows plan - 1

section Fresh

variable {plan : CrosstabPlan} {body : PageBody} {run later : TableRun} {drawn : DrawnSlice}

theorem TableRun.Fresh.draw_isSome (fresh : run.Fresh plan body) :
    ∃ drawn, run.draw plan body = some drawn := by
  have atTop : 0 < run.pagesBroken ∧ run.tableTopMm ≤ body.topMm + 1 / 1000 := by
    refine ⟨fresh.broken, ?_⟩
    rw [fresh.top]
    norm_num
  unfold TableRun.draw
  simp only [if_pos atTop]
  split
  · exact ⟨_, rfl⟩
  · exact ⟨_, rfl⟩

/-- With the rows drawn, a fresh page takes the totals row. -/
theorem TableRun.Fresh.draws_totals (fresh : run.Fresh plan body)
    (fits : TotalsRowFits plan body) (rowsDone : run.fromRow = plan.model.rows.length)
    (draw : run.draw plan body = some drawn) : drawn.slice.withTotals = true := by
  have shown : 0 < plan.totalsRowHeightMm := by
    rcases fresh.unfinished with remain | shown
    · omega
    · exact shown
  have room : sliceHeaderMm plan plan.element.repeatHeader + plan.totalsRowHeightMm ≤
      body.heightMm + 1 / 1000 := by
    rcases fits with hidden | room
    · exact absurd hidden shown.ne'
    · exact room
  have noRows : (sliceCrosstab plan run.fromRow (body.topMm + body.heightMm - run.tableTopMm)
      run.withHeader).rowCount = 0 := by
    have fewer : (sliceCrosstab plan run.fromRow
        (body.topMm + body.heightMm - run.tableTopMm) run.withHeader).rowCount ≤
          plan.model.rows.length - run.fromRow := min_le_left _ _
    omega
  unfold TableRun.draw at draw
  simp only at draw
  rw [if_neg (by omega)] at draw
  cases draw
  show (sliceCrosstab _ _ _ _).withTotals = true
  rw [sliceCrosstab_withTotals]
  refine ⟨by omega, shown, ?_⟩
  rw [noRows, fresh.header, fresh.top]
  simp only [Nat.cast_zero, zero_mul, add_zero]
  linarith

/-- A slice that does not complete the table has no totals row, and leaves something. -/
theorem TableRun.Draws.incomplete (draws : run.Draws plan body drawn)
    (incomplete : crosstabIsComplete plan drawn.slice = false) :
    drawn.slice.withTotals = false ∧
      (run.fromRow + drawn.slice.rowCount < plan.model.rows.length ∨
        0 < plan.totalsRowHeightMm) := by
  simp only [crosstabIsComplete, draws.fromRow, decide_eq_false_iff_not, not_and_or,
    not_or] at incomplete
  constructor
  · rw [Bool.eq_false_iff]
    intro totals
    have last := (draws.totals totals).1
    rcases incomplete with remain | ⟨-, untotalled⟩
    · omega
    · exact untotalled totals
  · rcases incomplete with remain | ⟨shown, -⟩
    · left
      omega
    · right
      exact lt_of_le_of_ne plan.totalsRowHeightMm_nonneg (Ne.symm shown)

/-- A slice that completes the table draws its last row, and its totals row if there is one. -/
theorem TableRun.Draws.complete (draws : run.Draws plan body drawn)
    (complete : crosstabIsComplete plan drawn.slice = true) :
    run.fromRow + drawn.slice.rowCount = plan.model.rows.length ∧
      drawn.slice.withTotals = decide (0 < plan.totalsRowHeightMm) := by
  simp only [crosstabIsComplete, draws.fromRow, decide_eq_true_eq] at complete
  have inside := draws.inside
  constructor
  · omega
  · rcases complete.2 with hidden | totals
    · have untotalled : drawn.slice.withTotals = false := by
        rw [Bool.eq_false_iff]
        intro totals
        exact (draws.totals totals).2.ne' hidden
      rw [untotalled, hidden]
      simp
    · rw [totals, decide_eq_true (draws.totals totals).2]

theorem TableRun.breakPage_eq_none (full : run.breakPage plan body = none) :
    MAX_PAGES ≤ run.pages := by
  unfold TableRun.breakPage at full
  split at full
  next limit => exact limit
  next => cases full

/-- A page broken before the table is complete is a fresh one. -/
theorem TableRun.breakPage_fresh (inside : run.fromRow ≤ plan.model.rows.length)
    (unfinished : run.fromRow < plan.model.rows.length ∨ 0 < plan.totalsRowHeightMm)
    (broken : run.breakPage plan body = some later) :
    later.Fresh plan body ∧ later.fromRow = run.fromRow ∧
      later.pages = run.pages + 1 ∧ run.pages < MAX_PAGES := by
  unfold TableRun.breakPage at broken
  split at broken
  · cases broken
  next below =>
    cases broken
    exact ⟨⟨Nat.succ_pos _, rfl, rfl, inside, unfinished⟩, rfl, rfl, not_le.1 below⟩

/-- A page holds nothing only while rows remain. -/
theorem TableRun.draw_eq_none (stuck : run.draw plan body = none) :
    run.fromRow < plan.model.rows.length := by
  unfold TableRun.draw at stuck
  simp only at stuck
  split at stuck
  next remain => exact remain.2
  next => cases stuck

theorem TableRun.Draws.next (draws : run.Draws plan body drawn)
    (incomplete : crosstabIsComplete plan drawn.slice = false)
    (broken : (run.past drawn).breakPage plan body = some later) :
    later.Fresh plan body ∧ later.fromRow = run.fromRow + drawn.slice.rowCount ∧
      later.pages = run.pages + 1 ∧ run.pages < MAX_PAGES := by
  have row : (run.past drawn).fromRow = run.fromRow + drawn.slice.rowCount := by
    simp only [TableRun.past, draws.fromRow]
  rw [← row]
  apply TableRun.breakPage_fresh
  · exact row.trans_le draws.inside
  · rw [row]
    exact (draws.incomplete incomplete).2
  · exact broken

end Fresh

/-! ## Slice after slice -/

section Splits

variable {plan : CrosstabPlan} {body : PageBody} {run : TableRun} {drawn : DrawnSlice}
  {rest table : DrawnTable} {fromRow pages breaks : ℕ}

theorem TableRun.Draws.rows (draws : run.Draws plan body drawn) :
    drawn.slice.rows plan = (plan.model.rows.drop run.fromRow).take drawn.slice.rowCount := by
  rw [CrosstabSlice.rows, draws.fromRow]

/-- A slice that completes the table. -/
theorem Splits.completed (draws : run.Draws plan body drawn)
    (complete : crosstabIsComplete plan drawn.slice = true) :
    Splits plan body run.fromRow run.pages breaks ⟨[drawn], run.pages, .complete⟩ := by
  have ⟨last, totals⟩ := draws.complete complete
  have all : rowsDrawn plan [drawn] = plan.model.rows.drop run.fromRow := by
    simp only [rowsDrawn, List.flatMap_cons, List.flatMap_nil, List.append_nil, draws.rows]
    apply List.take_of_length_le
    simp only [List.length_drop]
    omega
  exact
    { inOrder := all ▸ List.prefix_rfl
      whole := fun _ => all
      totalsLast := fun _ => ⟨0, by simp [totals]⟩
      noTotals := fun incomplete => absurd rfl incomplete
      within := by simpa using draws.within
      announced := by simpa using draws.announced
      broken := Nat.le_add_right _ _
      noGuard := by simp
      completes := fun _ => rfl }

/-- Nothing is drawn, and no page is left. -/
theorem Splits.nothing (full : MAX_PAGES ≤ pages) (needed : 0 < breaks) :
    Splits plan body fromRow pages breaks ⟨[], pages, .pageLimit⟩ where
  inOrder := List.nil_prefix
  whole := by simp
  totalsLast := by simp
  noTotals := by simp
  within := by simp
  announced := by simp
  broken := Nat.le_add_right _ _
  noGuard := by simp
  completes := by omega

/-- A slice before the rest of the table. -/
theorem Splits.after (draws : run.Draws plan body drawn)
    (incomplete : crosstabIsComplete plan drawn.slice = false)
    (split : Splits plan body (run.fromRow + drawn.slice.rowCount) pages breaks rest) :
    Splits plan body run.fromRow pages breaks (rest.after (some drawn)) := by
  have untotalled := (draws.incomplete incomplete).1
  have slices : (rest.after (some drawn)).slices = drawn :: rest.slices := rfl
  have rows : rowsDrawn plan (drawn :: rest.slices) =
      (plan.model.rows.drop run.fromRow).take drawn.slice.rowCount ++
        rowsDrawn plan rest.slices := by
    simp only [rowsDrawn, List.flatMap_cons, draws.rows]
  have parts : plan.model.rows.drop run.fromRow =
      (plan.model.rows.drop run.fromRow).take drawn.slice.rowCount ++
        plan.model.rows.drop (run.fromRow + drawn.slice.rowCount) := by
    rw [← List.drop_drop, List.take_append_drop]
  exact
    { inOrder := by
        have joined := (List.prefix_append_right_inj
          ((plan.model.rows.drop run.fromRow).take drawn.slice.rowCount)).2 split.inOrder
        rw [← parts] at joined
        rw [slices, rows]
        exact joined
      whole := fun complete => by
        rw [slices, rows, split.whole complete]
        exact parts.symm
      totalsLast := fun complete => by
        obtain ⟨before, flags⟩ := split.totalsLast complete
        refine ⟨before + 1, ?_⟩
        rw [slices, List.map_cons, untotalled, flags, List.replicate_succ, List.cons_append]
      noTotals := fun partly => by
        rw [slices, List.forall_mem_cons]
        exact ⟨untotalled, split.noTotals partly⟩
      within := by
        rw [slices, List.forall_mem_cons]
        exact ⟨draws.within, split.within⟩
      announced := by
        rw [slices, List.forall_mem_cons]
        exact ⟨draws.announced, split.announced⟩
      broken := split.broken
      noGuard := split.noGuard
      completes := split.completes }

/-- A page break more before the table. -/
theorem Splits.later {start more : ℕ} (split : Splits plan body fromRow start breaks table)
    (atMost : start + breaks ≤ pages + more) : Splits plan body fromRow pages more table :=
  { split with
    broken := split.broken.trans atMost
    completes := fun room => split.completes (atMost.trans room) }

/-- From a fresh page on, each page takes a row or the totals row.  By induction on what the
guard leaves. -/
theorem drawSlices_fresh (fits : TotalsRowFits plan body) (left : ℕ) (fresh : run.Fresh plan body)
    (guarded : MAX_PAGES - run.pages < left) :
    Splits plan body run.fromRow run.pages (breaksLeft plan run.fromRow)
      (drawSlices plan body left run) := by
  induction left generalizing run with
  | zero => exact absurd guarded (Nat.not_lt_zero _)
  | succ left ih =>
      obtain ⟨drawn, draw⟩ := fresh.draw_isSome
      have draws : run.Draws plan body drawn := TableRun.draw_spec fresh.inside draw
      simp only [drawSlices, draw]
      cases done : crosstabIsComplete plan drawn.slice with
      | true => exact Splits.completed draws done
      | false =>
          have ⟨untotalled, leaves⟩ := draws.incomplete done
          have remain : run.fromRow < plan.model.rows.length := by
            refine lt_of_le_of_ne fresh.inside ?_
            intro rowsDone
            have totals := fresh.draws_totals fits rowsDone draw
            rw [untotalled] at totals
            cases totals
          have progress := draws.progress remain
          have inside := draws.inside
          have fewer : breaksLeft plan (run.fromRow + drawn.slice.rowCount) + 1 ≤
              breaksLeft plan run.fromRow := by
            unfold breaksLeft totalsRows
            split
            · omega
            · rcases leaves with more | shown
              · omega
              · contradiction
          simp only [Bool.false_eq_true, if_false]
          cases broken : (run.past drawn).breakPage plan body with
          | none =>
              have full := TableRun.breakPage_eq_none broken
              exact Splits.after draws done (Splits.nothing full (by omega))
          | some later =>
              have ⟨laterFresh, row, laterPages, below⟩ := draws.next done broken
              have split := ih laterFresh (by omega)
              rw [row, laterPages] at split
              exact Splits.after draws done (split.later (by omega))

/-- The first page may hold no row; it is broken once. -/
theorem drawSlices_start (fits : TotalsRowFits plan body) (atFirst : run.fromRow = 0)
    (left : ℕ) (guarded : MAX_PAGES - run.pages < left) :
    Splits plan body 0 run.pages (plan.model.rows.length + totalsRows plan)
      (drawSlices plan body left run) := by
  have inside : run.fromRow ≤ plan.model.rows.length := by omega
  cases left with
  | zero => exact absurd guarded (Nat.not_lt_zero _)
  | succ left =>
      cases draw : run.draw plan body with
      | none =>
          have remain : 0 < plan.model.rows.length := by
            have stuck := TableRun.draw_eq_none draw
            omega
          simp only [drawSlices, draw]
          cases broken : run.breakPage plan body with
          | none => exact Splits.nothing (TableRun.breakPage_eq_none broken) (by omega)
          | some later =>
              have ⟨fresh, row, pages, below⟩ :=
                TableRun.breakPage_fresh inside (Or.inl (by omega)) broken
              have split := drawSlices_fresh fits left fresh (by omega)
              rw [row, atFirst, pages] at split
              refine split.later ?_
              unfold breaksLeft
              omega
      | some drawn =>
          have draws : run.Draws plan body drawn := TableRun.draw_spec inside draw
          simp only [drawSlices, draw]
          rw [← atFirst]
          cases done : crosstabIsComplete plan drawn.slice with
          | true => exact Splits.completed draws done
          | false =>
              have leaves := (draws.incomplete done).2
              have drawnRows := draws.inside
              have needed : breaksLeft plan (run.fromRow + drawn.slice.rowCount) + 1 ≤
                  plan.model.rows.length + totalsRows plan := by
                unfold breaksLeft totalsRows
                split
                · omega
                · rcases leaves with more | shown
                  · omega
                  · contradiction
              simp only [Bool.false_eq_true, if_false]
              cases broken : (run.past drawn).breakPage plan body with
              | none =>
                  have full := TableRun.breakPage_eq_none broken
                  exact Splits.after draws done (Splits.nothing full (by omega))
              | some later =>
                  have ⟨fresh, row, pages, below⟩ := draws.next done broken
                  have split := drawSlices_fresh fits left fresh (by omega)
                  rw [row, pages] at split
                  exact Splits.after draws done (split.later (by omega))

end Splits

/-! ## The band -/

section Band

variable {plan : CrosstabPlan} {body : PageBody} {band : CrosstabBand}

variable {cursorMm : Decimal} {pages : ℕ}

theorem tableStart_some {start : TableRun}
    (starts : tableStart plan body band pages cursorMm = some start) :
    start.fromRow = 0 ∧ pages ≤ start.pages ∧ start.pages ≤ pages + 1 := by
  unfold tableStart at starts
  simp only at starts
  split at starts
  · split at starts
    · cases starts
    · cases starts
      exact ⟨rfl, Nat.le_succ pages, le_rfl⟩
  · cases starts
    exact ⟨rfl, le_rfl, Nat.le_succ pages⟩

theorem tableStart_none (stops : tableStart plan body band pages cursorMm = none) :
    MAX_PAGES ≤ pages := by
  unfold tableStart at stops
  simp only at stops
  split at stops
  · split at stops
    next full => exact full
    next => cases stops
  · cases stops

theorem PagePosition.breakPage_pages (position : PagePosition) :
    position.breakPage.pages ≤ position.pages + 1 := by
  unfold PagePosition.breakPage
  split
  · exact Nat.le_succ _
  · exact le_rfl

theorem finishFlowBandAfterTable_pages (trailing : Bool) (pages : ℕ) (tableEndMm : Decimal) :
    (finishFlowBandAfterTable plan body band trailing pages tableEndMm).pages ≤
      pages + if trailing then 1 else 0 := by
  unfold finishFlowBandAfterTable
  simp only
  split
  next moved =>
    rw [if_pos moved.1]
    exact PagePosition.breakPage_pages _
  next => exact Nat.le_add_right _ _

theorem finishTable_pages (start : TableRun) (pages : ℕ) (tableEndMm : Decimal) :
    (finishTable plan body band start pages tableEndMm).pages ≤
      pages + if band.trailing = some true then 1 else 0 := by
  unfold finishTable
  cases band.trailing with
  | none => exact Nat.le_add_right _ _
  | some trailing =>
      simpa using finishFlowBandAfterTable_pages trailing pages tableEndMm

theorem finishBand_pages (start : TableRun) (pages : ℕ) (tableEndMm : Decimal) :
    (finishBand plan body band start pages tableEndMm).pages ≤ pages + pagesAfter band := by
  have finished : (finishTable plan body band start pages tableEndMm).pages ≤
      pages + if band.trailing = some true then 1 else 0 :=
    finishTable_pages start pages tableEndMm
  unfold finishBand pagesAfter
  split
  · have broken := PagePosition.breakPage_pages
      (finishTable plan body band start pages tableEndMm)
    omega
  · omega

end Band

/-- A table whose totals row a page holds is drawn whole, in order and within the body, and
takes a page more than one a row and one for the totals. -/
theorem crosstab_split (plan : CrosstabPlan) (body : PageBody) (band : CrosstabBand)
    (pages : ℕ) (cursorMm : Decimal) (fits : TotalsRowFits plan body) :
    Splits plan body 0 pages (plan.model.rows.length + totalsRows plan + 1)
        (emitCrosstabBand plan body band pages cursorMm).table ∧
      (emitCrosstabBand plan body band pages cursorMm).position.pages ≤
        pages + (plan.model.rows.length + totalsRows plan + 1) + pagesAfter band := by
  unfold emitCrosstabBand
  cases starts : tableStart plan body band pages cursorMm with
  | none =>
      refine ⟨Splits.nothing (tableStart_none starts) (Nat.succ_pos _), ?_⟩
      show pages ≤ _
      omega
  | some start =>
      have ⟨atFirst, noFewer, atMost⟩ := tableStart_some starts
      have split := drawSlices_start fits atFirst (MAX_PAGES + 1) (by omega)
      have table : Splits plan body 0 pages (plan.model.rows.length + totalsRows plan + 1)
          (drawSlices plan body (MAX_PAGES + 1) start) :=
        split.later (by omega)
      simp only
      cases ending : (drawSlices plan body (MAX_PAGES + 1) start).ending with
      | complete =>
          refine ⟨table, (finishBand_pages start _ _).trans ?_⟩
          exact Nat.add_le_add_right table.broken _
      | pageLimit => exact ⟨table, table.broken.trans (Nat.le_add_right _ _)⟩
      | guard => exact absurd ending split.noGuard

/-! ## Three tables -/

private theorem no_column_width : (0 : Decimal) ≤ 0 :=
  le_rfl

private theorem table_width : (0 : Decimal) < 100 := by
  norm_num

private theorem label_width : (0 : Decimal) ≤ 30 := by
  norm_num

private theorem caption_height : (0 : Decimal) ≤ 20 := by
  norm_num

private theorem line_height : (0 : Decimal) < 10 := by
  norm_num

private theorem twelve_columns : 0 < 12 := by
  norm_num

/-- Charges by kind and month. -/
private def charges (showColumnTotals : Bool) : CrosstabElement where
  id := "charges"
  w := 100
  rowBy := "kind"
  columnBy := "month"
  measure := "amount"
  fn := .sum
  format := ""
  blankWhenZero := false
  measureLabel := ""
  extraRowBys := []
  extraColumnBys := []
  extraMeasures := []
  rowHeaderWidthMm := 30
  columnWidthMm := 0
  headerHeightMm := 20
  rowHeightMm := 10
  showRowTotals := false
  showColumnTotals
  totalsLabel := "Total"
  rowSort := .FIRST_SEEN
  columnSort := .FIRST_SEEN
  maxColumns := 12
  overflow := .FOLD
  overflowLabel := "Other"
  showSubtotals := false
  subtotalLabel := "Subtotal"
  repeatHeader := true
  w_pos := table_width
  rowHeaderWidthMm_nonneg := label_width
  columnWidthMm_nonneg := no_column_width
  headerHeightMm_nonneg := caption_height
  rowHeightMm_pos := line_height
  maxColumns_pos := twelve_columns

/-- A charge is its kind; all are of one month, each of ten. -/
private def readCharge : CrosstabRowReader String where
  text expression kind _ _ := if expression = "kind" then kind else "Jan"
  number _ _ _ _ := some 10

/-- The header is 20 high, a row and the totals row are 10. -/
private def chargesPlan (showColumnTotals : Bool) (kinds : List String) : CrosstabPlan :=
  planCrosstab (charges showColumnTotals)
    (buildCrosstabModel compare (charges showColumnTotals) kinds readCharge) ⟨4, 4⟩

private def chargesBand : CrosstabBand := ⟨0, 0, 30, 0, none, false⟩

theorem charges_split :
    TotalsRowFits (chargesPlan true ["Freight", "Labour"]) ⟨0, 30⟩ ∧
      Splits (chargesPlan true ["Freight", "Labour"]) ⟨0, 30⟩ 0 1 4
        (emitCrosstabBand (chargesPlan true ["Freight", "Labour"]) ⟨0, 30⟩ chargesBand 1
          0).table := by
  have fits : TotalsRowFits (chargesPlan true ["Freight", "Labour"]) ⟨0, 30⟩ := by
    unfold TotalsRowFits
    decide +kernel
  exact ⟨fits, (crosstab_split _ ⟨0, 30⟩ chargesBand 1 0 fits).1⟩

/-- Two rows a hair taller than the body are drawn on it; a report of 2000 pages takes no
more; and a totals row that fits no page below the header is never drawn. -/
theorem charges_not_exactly :
    ¬SplitsExactly (chargesPlan false ["Freight", "Labour", "Packing"]) ⟨0, 39995 / 1000⟩ 1
        (emitCrosstabBand (chargesPlan false ["Freight", "Labour", "Packing"])
          ⟨0, 39995 / 1000⟩ chargesBand 1 0).table ∧
      ¬SplitsExactly (chargesPlan false ["Freight", "Labour"]) ⟨0, 30⟩ 2000
        (emitCrosstabBand (chargesPlan false ["Freight", "Labour"]) ⟨0, 30⟩ chargesBand 2000
          0).table ∧
      ¬SplitsExactly (chargesPlan true ["Freight"]) ⟨0, 25⟩ 1
        (emitCrosstabBand (chargesPlan true ["Freight"]) ⟨0, 25⟩ chargesBand 1 0).table := by
  refine ⟨?_, ?_, ?_⟩
  · intro exactly
    exact absurd exactly.within (by decide +kernel)
  · intro exactly
    exact absurd exactly.whole (by decide +kernel)
  · intro exactly
    exact absurd exactly.broken (by decide +kernel)

end ErpServer.Print
