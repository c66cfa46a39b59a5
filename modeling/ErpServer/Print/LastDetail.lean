import ErpServer.Print.Pagination

/-!
# The summary and the last detail row

A SUMMARY that asks for it keeps room below the last row of a section, and so stays on its
page.
-/

namespace ErpServer.Print

open Lib
open Receipt (Decimal)

variable {Row Text Figure : Type}

namespace LayoutInput

variable (input : LayoutInput Row Text Figure)

/-- The band asks for a page of its own. -/
def asksFreshPage (band : Band) : Bool := band.startNewPage || band.startNewNumeration

/-- How tall some bands are together, the hidden ones left out. -/
def stackMm (emissions : List (Emission Row Text Figure)) : Decimal :=
  ((emissions.filter input.shown).map input.height).sum

/-- None of the bands starts a page or ends one. -/
def Quiet (emissions : List (Emission Row Text Figure)) : Prop :=
  ∀ emission ∈ emissions, input.shown emission = true →
    asksFreshPage emission.band = false ∧ input.breaksAfter emission = false

variable {input} {first sheets : Sheets Row Text Figure}
variable {emissions : List (Emission Row Text Figure)}

/-! ## Parts of a run -/

theorem Lays.split {front back : List (Emission Row Text Figure)}
    (laid : input.Lays first (front ++ back) sheets) :
    ∃ middle, input.Lays first front middle ∧ input.Lays middle back sheets := by
  generalize whole : front ++ back = all at laid
  induction laid generalizing back with
  | start =>
      obtain ⟨rfl, rfl⟩ := List.append_eq_nil_iff.mp whole
      exact ⟨first, .start, .start⟩
  | counted pageAggregates laid ih =>
      obtain ⟨middle, before, after⟩ := ih whole
      exact ⟨middle, before, after.counted pageAggregates⟩
  | @printed emissions emission declared reserves laid ih =>
      rcases List.eq_nil_or_concat back with rfl | ⟨rest, last, rfl⟩
      · rw [List.append_nil] at whole
        rw [whole]
        exact ⟨input.left emission, laid.printed emission declared reserves, .start⟩
      · rw [List.concat_eq_append, ← List.append_assoc] at whole
        obtain ⟨same, lastSame⟩ := List.append_inj' whole rfl
        cases lastSame
        obtain ⟨middle, before, after⟩ := ih same
        rw [List.concat_eq_append]
        exact ⟨middle, before, after.printed emission declared reserves⟩

variable {emission : Emission Row Text Figure}

/-- The last band of a run found the sheets as the bands before it left them. -/
theorem Lays.last (laid : input.Lays first (emissions ++ [emission]) sheets) :
    input.Lays first emissions emission.sheets ∧ input.BodyBand emission.band ∧
      input.Reserves emission ∧ ∃ pageAggregates,
        sheets = { input.left emission with pageAggregates := pageAggregates } := by
  generalize whole : emissions ++ [emission] = all at laid
  induction laid with
  | start => exact absurd whole (by simp)
  | counted pageAggregates laid ih =>
      obtain ⟨before, declared, reserves, counted, rfl⟩ := ih whole
      exact ⟨before, declared, reserves, pageAggregates, rfl⟩
  | printed other declared reserves laid ih =>
      obtain ⟨same, lastSame⟩ := List.append_inj' whole rfl
      cases lastSame
      rw [same]
      exact ⟨laid, declared, reserves, (input.left emission).pageAggregates, rfl⟩

/-! ## Bands that stay -/

/-- A band that fits below the cursor and asks for nothing goes there. -/
theorem stays {page : LayoutPage Row Text Figure} (current : emission.sheets.current = some page)
    (noReserve : emission.reserveMm = 0) (quiet : asksFreshPage emission.band = false)
    (fits : ∀ bodyMm, input.bodyHeightMm = some bodyMm → input.height emission ≤ bodyMm ∧
      emission.sheets.cursorMm + input.height emission ≤ bodyMm + TOLERANCE_MM) :
    input.placed emission = emission.sheets := by
  have nothing : ¬emission.band.startNewPage ∧ ¬emission.band.startNewNumeration := by
    simpa [asksFreshPage] using quiet
  have met : input.met emission = emission.sheets := by
    unfold LayoutInput.met startFreshPageIfAsked
    rw [current]
    dsimp only
    rw [if_pos nothing]
  have needed : input.required emission = input.height emission := by
    rw [required, noReserve, add_zero]
  have room : input.needsPageBreak emission.sheets (input.height emission) = false := by
    rw [needsPageBreak, current]
    cases limited : input.bodyHeightMm with
    | none => rfl
    | some bodyMm =>
        obtain ⟨whole, below⟩ := fits bodyMm limited
        dsimp only
        rw [if_neg (not_lt.mpr whole)]
        exact decide_eq_false (not_lt.mpr below)
  rw [placed, met, needed, room]
  rfl

theorem stackMm_concat (emission : Emission Row Text Figure) :
    input.stackMm (emissions ++ [emission]) =
      input.stackMm emissions + if input.shown emission then input.height emission else 0 := by
  rw [stackMm, List.filter_append, List.map_append, List.sum_append]
  cases visible : input.shown emission with
  | true => simp [stackMm, visible]
  | false => simp [stackMm, visible]

theorem stackMm_nonneg (plain : input.Plain)
    (declared : ∀ emission ∈ emissions, input.BodyBand emission.band) :
    0 ≤ input.stackMm emissions := by
  apply List.sum_nonneg
  intro height member
  obtain ⟨emission, among, rfl⟩ := List.mem_map.mp member
  exact height_nonneg plain (declared emission (List.mem_filter.mp among).1)

/-- Bands that fit below the cursor together, and ask for nothing, go there. -/
theorem Lays.stay (plain : input.Plain) (laid : input.Lays first emissions sheets)
    (opened : ∃ page, first.current = some page)
    (noReserve : ∀ emission ∈ emissions, emission.reserveMm = 0) (quiet : input.Quiet emissions)
    (fits : ∀ bodyMm, input.bodyHeightMm = some bodyMm → input.stackMm emissions ≤ bodyMm ∧
      first.cursorMm + input.stackMm emissions ≤ bodyMm + TOLERANCE_MM) :
    sheets.closed = first.closed ∧ (∃ page, sheets.current = some page) ∧
      sheets.cursorMm = first.cursorMm + input.stackMm emissions := by
  induction laid with
  | start => exact ⟨rfl, opened, (add_zero _).symm⟩
  | counted pageAggregates laid ih => exact ih noReserve quiet fits
  | @printed before emission declared reserves laid ih =>
      have member : emission ∈ before ++ [emission] := by simp
      have stacked := @stackMm_concat _ _ _ input before emission
      have height := height_nonneg plain declared
      have beforeHeight := stackMm_nonneg plain laid.declared
      have known := ih (fun other among => noReserve other (List.mem_append_left _ among))
        (fun other among => quiet other (List.mem_append_left _ among)) (by
          intro bodyMm limited
          have all := fits bodyMm limited
          rw [stacked] at all
          split at all
          · constructor <;> linarith [all.1, all.2]
          · simpa using all)
      obtain ⟨closed, ⟨page, current⟩, down⟩ := known
      cases visible : input.shown emission with
      | false =>
          rw [visible, if_neg (by decide), add_zero] at stacked
          rw [input.left_hidden visible, stacked]
          exact ⟨closed, ⟨page, current⟩, down⟩
      | true =>
          rw [visible, if_pos rfl] at stacked
          have asked := quiet emission member visible
          have placed := stays current (noReserve emission member) asked.1 (by
            intro bodyMm limited
            have all := fits bodyMm limited
            rw [stacked] at all
            rw [down]
            constructor <;> linarith [all.1, all.2])
          have left := input.left_shown visible (plain.noCrosstab emission.band declared.1)
          rw [asked.2, if_neg Bool.false_ne_true] at left
          rw [left, stacked]
          refine ⟨?_, ?_, ?_⟩
          · rw [printedOn_closed, placed, closed]
          · rw [printedOn, placed, Sheets.pushAll_of_page current]
            exact ⟨_, rfl⟩
          · change input.bottomMm emission = _
            rw [bottomMm, topMm, placed, down, add_assoc]

theorem Lays.longer (plain : input.Plain) (laid : input.Lays first emissions sheets) :
    first.closed.length ≤ sheets.closed.length := by
  induction laid with
  | start => exact le_refl _
  | counted pageAggregates laid ih => exact ih
  | printed emission declared reserves laid ih => exact ih.trans (found_longer plain declared)

variable (input) in
/-- A row, the footers after it and the summary fit one body and ask for no page break, and
the footers are no taller than they were measured with the row. -/
structure OneBody (measuredMm : Decimal) (row : Emission Row Text Figure)
    (footers : List (Emission Row Text Figure)) (summary : Emission Row Text Figure) : Prop where
  rowShown : input.shown row = true
  summaryShown : input.shown summary = true
  rowStays : input.breaksAfter row = false
  footersStay : input.Quiet footers
  summaryStays : asksFreshPage summary.band = false
  asMeasured : input.stackMm footers ≤ measuredMm
  fits : ∀ bodyMm, input.bodyHeightMm = some bodyMm →
    input.height row + input.stackMm footers + input.height summary ≤ bodyMm

/-- What a row keeps free below it is there for what follows. -/
theorem Lays.together (plain : input.Plain) {row summary : Emission Row Text Figure}
    {before footers after : List (Emission Row Text Figure)} {measuredMm : Decimal}
    (laid : input.Lays (input.startPage input.prePass [] {})
      (before ++ row :: footers ++ summary :: after) sheets)
    (room : sheets.closed.length < MAX_PAGES)
    (reserve : row.reserveMm = input.height summary + measuredMm)
    (footersReserve : ∀ footer ∈ footers, footer.reserveMm = 0)
    (summaryReserve : summary.reserveMm = 0)
    (oneBody : input.OneBody measuredMm row footers summary) :
    input.pageOf summary = input.pageOf row := by
  have whole : before ++ row :: footers ++ summary :: after =
      (before ++ [row]) ++ ((footers ++ [summary]) ++ after) := by simp
  rw [whole] at laid
  obtain ⟨afterRow, toRow, rest⟩ := laid.split
  obtain ⟨afterSummary, toSummary, others⟩ := rest.split
  obtain ⟨toFooters, summaryDeclared, _, _, _⟩ := toSummary.last
  obtain ⟨toBefore, declared, reserves, pageAggregates, left⟩ := toRow.last
  have rowRoom : (input.left row).closed.length < MAX_PAGES := by
    have shorter := rest.longer plain
    rw [left] at shorter
    exact lt_of_le_of_lt shorter room
  have placedRoom := lt_of_le_of_lt (left_longer plain declared oneBody.rowShown) rowRoom
  have met := (toBefore.onSheets plain
    (lt_of_le_of_lt (found_longer plain declared) rowRoom)).met
    (lt_of_le_of_lt (placed_longer row) placedRoom)
  have rowLeft := input.left_shown oneBody.rowShown (plain.noCrosstab row.band declared.1)
  rw [oneBody.rowStays, if_neg Bool.false_ne_true] at rowLeft
  obtain ⟨page, current⟩ := (met.placed placedRoom).current
  have closed : afterRow.closed = (input.placed row).closed := by
    rw [left, rowLeft]
    exact printedOn_closed row
  have opened : ∃ page, afterRow.current = some page := by
    rw [left, rowLeft, printedOn, Sheets.pushAll_of_page current]
    exact ⟨_, rfl⟩
  have cursor : afterRow.cursorMm = input.bottomMm row := by
    rw [left, rowLeft]
    rfl
  have summaryHeight := height_nonneg plain summaryDeclared
  have rowHeight := height_nonneg plain declared
  have stacked := stackMm_nonneg plain toFooters.declared
  -- either all of it fits below the cursor as measured, or the row is at the top of its page
  have below : ∀ bodyMm, input.bodyHeightMm = some bodyMm →
      input.bottomMm row + input.stackMm footers + input.height summary ≤
        bodyMm + TOLERANCE_MM := by
    intro bodyMm limited
    have all := oneBody.fits bodyMm limited
    have measured := oneBody.asMeasured
    rcases placed_cursor met placedRoom limited with ⟨fits, _⟩ | top
    · rw [required, reserve] at fits
      rw [bottomMm]
      linarith
    · have slack : (0 : Decimal) ≤ TOLERANCE_MM := by norm_num [TOLERANCE_MM]
      rw [bottomMm, top]
      linarith
  obtain ⟨footersClosed, ⟨last, footersCurrent⟩, down⟩ := toFooters.stay plain opened
    footersReserve oneBody.footersStay (by
      intro bodyMm limited
      rw [cursor]
      constructor <;> linarith [oneBody.fits bodyMm limited, below bodyMm limited])
  have placed := stays footersCurrent summaryReserve oneBody.summaryStays (by
    intro bodyMm limited
    rw [down, cursor]
    constructor <;> linarith [oneBody.fits bodyMm limited, below bodyMm limited])
  rw [pageOf, placed, footersClosed, closed]
  rfl

/-! ## Where the summary stands in the template -/

variable (input)

/-- The bands that print nothing in their place in the template. -/
def SILENT_BANDS : List BandType :=
  [.PAGE_HEADER, .PAGE_FOOTER, .GROUP_HEADER, .GROUP_FOOTER, .NO_DATA]

/-- The template's SUMMARY keeps to the last detail and follows the section directly. -/
structure FollowsDirectly (details : DetailSection Row) (summary : Band) : Prop where
  declared : ∃ front band silent back,
    input.template.bands = front ++ band :: silent ++ summary :: back ∧
      input.sectionOf band = some details ∧ ∀ other ∈ silent, other.type ∈ SILENT_BANDS
  filled : details.rows ≠ []
  isSummary : input.firstBand .SUMMARY = some summary
  keepWithLastDetail : summary.keepWithLastDetail = true

section Decomposition

variable (precomputed : PrecomputedAggregates)

theorem templateEmissions_append (front back : List Band) (run : LayoutRun Row Text Figure) :
    input.templateEmissions precomputed (front ++ back) run =
      input.templateEmissions precomputed front run ++
        input.templateEmissions precomputed back
          (front.foldl (input.emitTemplateBand precomputed) run) := by
  induction front generalizing run with
  | nil => rfl
  | cons band rest ih =>
      rw [List.cons_append, templateEmissions, templateEmissions, ih, List.append_assoc]
      rfl

theorem rowsEmissions_concat (details : DetailSection Row) (items : List (Row × ℕ))
    (item : Row × ℕ) (run : LayoutRun Row Text Figure) :
    ∃ front, input.rowsEmissions precomputed details (items ++ [item]) run =
      front ++ [input.rowEmission precomputed details
        (items.foldl (input.emitRow precomputed details) run) item] := by
  induction items generalizing run with
  | nil => exact ⟨_, rfl⟩
  | cons first rest ih =>
      obtain ⟨front, same⟩ := ih (input.emitRow precomputed details run first)
      rw [List.cons_append, rowsEmissions, same, List.foldl_cons]
      exact ⟨_, (List.append_assoc _ (_ :: front) _).symm⟩

theorem closeEmissions_reserve (footers : List Band) (nextRow level index : ℕ)
    (run : LayoutRun Row Text Figure) :
    ∀ emission ∈ input.closeEmissions precomputed footers nextRow level index run,
      emission.reserveMm = 0 := by
  induction index generalizing run with
  | zero => exact fun emission member => absurd member List.not_mem_nil
  | succ index ih =>
      rw [closeEmissions]
      split
      · exact fun emission member => absurd member List.not_mem_nil
      · split
        · exact ih run
        · intro emission member
          rcases List.mem_append.mp member with own | later
          · obtain ⟨band, _, rfl⟩ := List.mem_map.mp own
            rfl
          · exact ih _ emission later

/-- A section ends with its last row and the footers after it. -/
structure EndsWith (details : DetailSection Row) (row : Emission Row Text Figure)
    (footers : List (Emission Row Text Figure)) : Prop where
  band : row.band = details.band
  last : ∃ value, details.rows.getLast? = some value ∧
    row.context.row = .row value (details.rows.length - 1) details.rows.length
  reserve : row.reserveMm = input.reserveMm details row.openGroups row.context true
  closing : footers.map Emission.matter = input.closingMatter details
  noReserve : ∀ footer ∈ footers, footer.reserveMm = 0

theorem sectionEmissions_endsWith {details : DetailSection Row} (filled : details.rows ≠ [])
    (run : LayoutRun Row Text Figure) :
    ∃ front row footers, input.sectionEmissions precomputed details run =
      front ++ row :: footers ∧ input.EndsWith details row footers := by
  have start : GroupState { run with openGroups := [], events := [] }
      (stackBefore (input.keysAt details) details.groupBy.length 0) [] run.records :=
    ⟨rfl, rfl, rfl⟩
  have rows := start.emitRows input precomputed List.drop_zero
  rw [Nat.zero_add] at rows
  obtain ⟨init, value, split⟩ : ∃ init value, details.rows = init ++ [value] :=
    ⟨_, _, (List.dropLast_append_getLast filled).symm⟩
  have length : details.rows.length = init.length + 1 := by
    rw [split, List.length_append, List.length_singleton]
  have numbered : details.rows.zipIdx = init.zipIdx ++ [(value, init.length)] := by
    rw [split, List.zipIdx_append, Nat.zero_add]
    rfl
  let begun : LayoutRun Row Text Figure := { run with openGroups := [], events := [] }
  let printed := details.rows.zipIdx.foldl (input.emitRow precomputed details) begun
  let row := input.rowEmission precomputed details
    (init.zipIdx.foldl (input.emitRow precomputed details) begun) (value, init.length)
  obtain ⟨front, shape⟩ := input.rowsEmissions_concat precomputed details init.zipIdx
    (value, init.length) begun
  rw [← numbered] at shape
  refine ⟨front, row, input.closeEmissions precomputed details.groupFooters details.rows.length 0
    printed.openGroups.length printed, ?_, ?_⟩
  · rw [sectionEmissions, shape, List.append_assoc]
    rfl
  · constructor
    · rfl
    · refine ⟨value, ?_, ?_⟩
      · rw [split, List.getLast?_concat]
      · have index : init.length = details.rows.length - 1 := by omega
        rw [← index]
        rfl
    · have isLast : decide (init.length + 1 = details.rows.length) = true :=
        decide_eq_true length.symm
      rw [← isLast]
      rfl
    · rw [input.closeEmissions_matter precomputed (stackBefore_atLevels _ _ _) rows.openGroups,
        rows.openGroups]
      rfl
    · exact input.closeEmissions_reserve precomputed _ _ _ _ _

end Decomposition

/-- What a report prints for a section and the summary that follows it directly. -/
theorem emissions_of_followsDirectly {details : DetailSection Row} {summary : Band}
    (follows : input.FollowsDirectly details summary) :
    ∃ before row footers ending after,
      input.emissions = before ++ row :: footers ++ ending :: after ∧
        input.EndsWith details row footers ∧ ending.band = summary ∧
        ending.context = rootContext ∧ ending.reserveMm = 0 := by
  obtain ⟨front, band, silent, back, bands, found, skipped⟩ := follows.declared
  have isDetail := (input.sectionOf_eq_some found).isDetail
  have isSummary : summary.type = .SUMMARY := by
    simpa using List.find?_some follows.isSummary
  have nothing (silent : List Band) (skipped : ∀ other ∈ silent, other.type ∈ SILENT_BANDS)
      (run : LayoutRun Row Text Figure) :
      input.templateEmissions input.prePass silent run = [] := by
    induction silent generalizing run with
    | nil => rfl
    | cons other rest ih =>
        have type := skipped other List.mem_cons_self
        have own : input.bandEmissions input.prePass run other = [] := by
          unfold bandEmissions
          cases kind : other.type <;> simp_all [SILENT_BANDS]
        rw [templateEmissions, own, ih fun next member =>
          skipped next (List.mem_cons_of_mem other member)]
        rfl
  have detailBand (run : LayoutRun Row Text Figure) :
      input.bandEmissions input.prePass run band =
        input.sectionEmissions input.prePass details run := by
    unfold bandEmissions
    rw [isDetail, found]
    exact if_pos follows.filled
  have summaryBand (run : LayoutRun Row Text Figure) :
      input.bandEmissions input.prePass run summary =
        [⟨summary, rootContext, 0, run.openGroups, run.sheets⟩] := by
    unfold bandEmissions
    rw [isSummary]
  have regroup : front ++ band :: silent ++ summary :: back =
      front ++ ([band] ++ (silent ++ ([summary] ++ back))) := by simp
  unfold emissions
  rw [bands, regroup, templateEmissions_append, templateEmissions_append,
    templateEmissions_append, templateEmissions_append, nothing silent skipped]
  generalize front.foldl (input.emitTemplateBand input.prePass) _ = atSection
  obtain ⟨opening, row, footers, shape, endsWith⟩ :=
    input.sectionEmissions_endsWith input.prePass follows.filled atSection
  rw [templateEmissions, detailBand, shape, templateEmissions, templateEmissions, summaryBand,
    templateEmissions]
  generalize input.templateEmissions input.prePass front _ = earlier
  generalize silent.foldl (input.emitTemplateBand input.prePass) _ = atSummary
  generalize input.templateEmissions input.prePass back _ = after
  refine ⟨earlier ++ opening, row, footers,
    ⟨summary, rootContext, 0, atSummary.openGroups, atSummary.sheets⟩, after, ?_, endsWith, rfl,
    rfl, rfl⟩
  simp

end LayoutInput

end ErpServer.Print
