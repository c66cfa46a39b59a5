import ErpServer.Lib.Places
import ErpServer.Print.Laying
import ErpServer.Print.SecondPass

/-!
# Pagination

Whatever lands on the pages of a report: every band once and in order, each on one page,
between its header and its footer.
-/

namespace ErpServer.Print

open Lib
open Receipt (Decimal)

variable {Row Text Figure : Type}

namespace LayoutInput

variable (input : LayoutInput Row Text Figure)

/-- What fits exactly may be over by a rounding error. -/
def TOLERANCE_MM : Decimal := 1 / 1000

/-- What the schema and the measurer promise of a template without tables. -/
structure Plain : Prop where
  noCrosstab : input.NoCrosstab
  heights : ∀ band ∈ input.template.bands, ∀ context, 0 ≤ input.drawing.bandHeight band context

/-- A band stays in the body of its page, or starts at its top when no body can hold it. -/
structure Inside (emission : Emission Row Text Figure) : Prop where
  top : 0 ≤ input.topMm emission
  bottom : ∀ bodyMm, input.bodyHeightMm = some bodyMm →
    input.bottomMm emission ≤ bodyMm + TOLERANCE_MM ∨
      bodyMm < input.height emission ∧ input.topMm emission = 0

/-- A band is on an earlier page, or further up. -/
def Above (first second : Emission Row Text Figure) : Prop :=
  input.pageOf first < input.pageOf second ∨
    input.pageOf first = input.pageOf second ∧ input.bottomMm first ≤ input.topMm second

/-- The bands printed on a page. -/
def onPage (emissions : List (Emission Row Text Figure)) (index : ℕ) :
    List (Emission Row Text Figure) :=
  emissions.filter fun emission => input.shown emission && input.pageOf emission = index

/-- What the bands put on a page. -/
def body (emissions : List (Emission Row Text Figure)) (index : ℕ) :
    List (Primitive Row Text Figure) :=
  (input.onPage emissions index).flatMap input.drawn

/-- The sheets hold what was printed on them, page by page. -/
structure OnSheets (emissions : List (Emission Row Text Figure))
    (sheets : Sheets Row Text Figure) : Prop where
  current : ∃ page, sheets.current = some page
  cursor : 0 ≤ sheets.cursorMm
  openPage : ∀ page, sheets.current = some page → ∃ openGroups numberingStart,
    page.primitives =
      input.headerPrimitives input.prePass openGroups sheets.closed.length numberingStart ++
        input.body emissions sheets.closed.length
  closedPage : ∀ index page, sheets.closed[index]? = some page →
    ∃ headerGroups headerStart footerGroups footerStart totals, page.primitives =
      input.headerPrimitives input.prePass headerGroups index headerStart ++
        input.body emissions index ++
        input.footerPrimitives input.prePass footerGroups index footerStart totals
  upto : ∀ emission ∈ emissions, input.shown emission = true →
    input.pageOf emission ≤ sheets.closed.length
  above : ∀ emission ∈ emissions, input.shown emission = true →
    input.pageOf emission = sheets.closed.length → input.bottomMm emission ≤ sheets.cursorMm
  ordered : (emissions.filter input.shown).Pairwise input.Above
  inside : ∀ emission ∈ emissions, input.shown emission = true → input.Inside emission

variable {input} {emissions : List (Emission Row Text Figure)} {sheets : Sheets Row Text Figure}

variable {index : ℕ} {emission : Emission Row Text Figure} {page : LayoutPage Row Text Figure}

theorem body_beyond
    (upto : ∀ emission ∈ emissions, input.shown emission = true → input.pageOf emission < index) :
    input.body emissions index = [] := by
  have nobody : input.onPage emissions index = [] := by
    apply List.filter_eq_nil_iff.mpr
    intro emission member stands
    have both := Bool.and_eq_true_iff.mp stands
    have here := of_decide_eq_true both.2
    exact absurd (upto emission member both.1) (by omega)
  rw [body, nobody]
  rfl

theorem body_append (front back : List (Emission Row Text Figure)) (index : ℕ) :
    input.body (front ++ back) index = input.body front index ++ input.body back index := by
  unfold body onPage
  rw [List.filter_append, List.flatMap_append]

theorem body_singleton (visible : input.shown emission = true) (index : ℕ) :
    input.body [emission] index =
      if input.pageOf emission = index then input.drawn emission else [] := by
  unfold body onPage
  by_cases here : input.pageOf emission = index
  · simp [visible, here]
  · simp [here]

namespace OnSheets

theorem counted (stands : input.OnSheets emissions sheets) (pageAggregates : Accumulators) :
    input.OnSheets emissions { sheets with pageAggregates := pageAggregates } :=
  ⟨stands.current, stands.cursor, stands.openPage, stands.closedPage, stands.upto, stands.above,
    stands.ordered, stands.inside⟩

theorem renumbered (stands : input.OnSheets emissions sheets) (current : sheets.current = some page)
    (numberingStart : ℕ) : input.OnSheets emissions
      { sheets with current := some { page with numberingStart := numberingStart } } := by
  have held := stands.openPage page current
  refine ⟨⟨_, rfl⟩, stands.cursor, ?_, stands.closedPage, stands.upto, stands.above,
    stands.ordered, stands.inside⟩
  intro other same
  cases same
  exact held

theorem restarted (stands : input.OnSheets emissions sheets) (asked : Bool) :
    input.OnSheets emissions { sheets with restartNumberingOnNextPage := asked } :=
  ⟨stands.current, stands.cursor, stands.openPage, stands.closedPage, stands.upto, stands.above,
    stands.ordered, stands.inside⟩

/-- A page break closes the page with its footer, and opens an empty one with its header. -/
theorem broken (stands : input.OnSheets emissions sheets) (openGroups : List OpenGroup)
    (room : (input.breakPage input.prePass openGroups sheets).closed.length < MAX_PAGES) :
    input.OnSheets emissions (input.breakPage input.prePass openGroups sheets) := by
  obtain ⟨page, current⟩ := stands.current
  have broken := input.broken_of_page openGroups current
  obtain ⟨totals, footerCount, closed⟩ := broken.closed
  obtain ⟨start, headerCount, opened⟩ := broken.opened room
  have top := broken.top room
  have longer : (input.breakPage input.prePass openGroups sheets).closed.length =
      sheets.closed.length + 1 := by
    rw [closed, List.length_append, List.length_singleton]
  generalize input.breakPage input.prePass openGroups sheets = next at *
  have before : ∀ emission ∈ emissions, input.shown emission = true →
      input.pageOf emission < next.closed.length := by
    intro emission member visible
    have within := stands.upto emission member visible
    omega
  constructor
  · exact ⟨_, opened⟩
  · exact top.ge
  · intro other same
    rw [opened] at same
    cases same
    refine ⟨openGroups, start, ?_⟩
    rw [body_beyond before, List.append_nil]
  · intro index other found
    rw [closed] at found
    rcases Places.concat_cases found with earlier | ⟨rfl, rfl⟩
    · exact stands.closedPage index other earlier
    · obtain ⟨headerGroups, headerStart, held⟩ := stands.openPage page current
      refine ⟨headerGroups, headerStart, openGroups, page.numberingStart, sheets.pageAggregates, ?_⟩
      rw [← held]
  · intro emission member visible
    exact (before emission member visible).le
  · intro emission member visible here
    exact absurd here (before emission member visible).ne
  · exact stands.ordered
  · exact stands.inside

end OnSheets

/-! ## Only more pages -/

theorem breakPage_longer (openGroups : List OpenGroup) (sheets : Sheets Row Text Figure) :
    sheets.closed.length ≤ (input.breakPage input.prePass openGroups sheets).closed.length := by
  have started (finished : Sheets Row Text Figure) :
      (input.startPage input.prePass openGroups finished).closed = finished.closed := by
    rcases input.startPage_opens input.prePass openGroups finished with same | opened
    · rw [same]
    · obtain ⟨header, start, _, _, opened⟩ := opened
      rw [opened]
  rw [breakPage, started]
  cases current : sheets.current with
  | none => rw [input.finishPage_of_none input.prePass openGroups current]
  | some page =>
      rw [input.finishPage_eq input.prePass openGroups current, List.length_append]
      exact Nat.le_add_right _ _

theorem met_longer (emission : Emission Row Text Figure) :
    emission.sheets.closed.length ≤ (input.met emission).closed.length := by
  unfold met startFreshPageIfAsked
  split
  · exact le_refl _
  · split
    · exact le_refl _
    · split
      · exact input.breakPage_longer emission.openGroups { emission.sheets with
          restartNumberingOnNextPage := emission.band.startNewNumeration }
      · split
        · exact le_refl _
        · exact le_refl _

theorem placed_longer (emission : Emission Row Text Figure) :
    (input.met emission).closed.length ≤ (input.placed emission).closed.length := by
  rw [placed]
  split
  · exact breakPage_longer _ _
  · exact le_refl _

theorem printedOn_closed (emission : Emission Row Text Figure) :
    (input.printedOn emission).closed = (input.placed emission).closed :=
  Sheets.pushAll_closed (input.placed emission) (input.drawn emission)

theorem left_longer (plain : input.Plain) (declared : input.BodyBand emission.band)
    (visible : input.shown emission = true) :
    (input.placed emission).closed.length ≤ (input.left emission).closed.length := by
  rw [input.left_shown visible (plain.noCrosstab emission.band declared.1), ← printedOn_closed]
  split
  · exact breakPage_longer _ _
  · exact le_refl _

theorem found_longer (plain : input.Plain) (declared : input.BodyBand emission.band) :
    emission.sheets.closed.length ≤ (input.left emission).closed.length := by
  cases visible : input.shown emission with
  | false => rw [input.left_hidden visible]
  | true =>
      exact (met_longer emission).trans
        ((placed_longer emission).trans (left_longer plain declared visible))

/-! ## One band -/

theorem reserves_nonneg (plain : input.Plain) (reserves : input.Reserves emission) :
    0 ≤ emission.reserveMm := by
  rcases reserves with nothing | ⟨details, openGroups, context, isLastRow, declared, kept⟩
  · exact nothing.ge
  · have footer (level : ℕ) : 0 ≤ (details.groupFooters[level]?).elim 0 fun band =>
        input.drawing.bandHeight band context := by
      cases found : details.groupFooters[level]? with
      | none => exact le_refl _
      | some band =>
          exact plain.heights band (declared.footers band (List.mem_of_getElem? found)).1 context
    have footers (groups : List OpenGroup) (total : Decimal) (start : 0 ≤ total) :
        0 ≤ groups.foldl (fun total group => total + (details.groupFooters[group.level]?).elim 0
          fun band => input.drawing.bandHeight band context) total := by
      induction groups generalizing total with
      | nil => exact start
      | cons group rest ih => exact ih _ (add_nonneg start (footer group.level))
    rw [kept, LayoutInput.reserveMm]
    cases found : input.firstBand .SUMMARY with
    | none => exact le_refl 0
    | some summary =>
        dsimp only
        split
        · exact add_nonneg (plain.heights summary (List.mem_of_find?_eq_some found) rootContext)
            (footers openGroups 0 (le_refl 0))
        · exact le_refl 0

theorem height_nonneg (plain : input.Plain) (declared : input.BodyBand emission.band) :
    0 ≤ input.height emission :=
  plain.heights emission.band declared.1 emission.context

theorem OnSheets.met (stands : input.OnSheets emissions emission.sheets)
    (room : (input.met emission).closed.length < MAX_PAGES) :
    input.OnSheets emissions (input.met emission) := by
  obtain ⟨page, current⟩ := stands.current
  unfold LayoutInput.met startFreshPageIfAsked at room ⊢
  rw [current] at room ⊢
  dsimp only at room ⊢
  split
  · exact stands
  · split
    · next nothing below =>
        rw [if_neg nothing, if_pos below] at room
        rw [← current] at room ⊢
        exact (stands.restarted _).broken _ room
    · split
      · exact stands.renumbered current _
      · exact stands

theorem OnSheets.placed (stands : input.OnSheets emissions (input.met emission))
    (room : (input.placed emission).closed.length < MAX_PAGES) :
    input.OnSheets emissions (input.placed emission) := by
  rw [LayoutInput.placed] at room ⊢
  split
  · next breaks =>
      rw [if_pos breaks] at room
      exact stands.broken _ room
  · exact stands

/-- Where the cursor stands when a band is drawn: the band fits there, or it is the first on
its page. -/
theorem placed_cursor (stands : input.OnSheets emissions (input.met emission))
    (room : (input.placed emission).closed.length < MAX_PAGES) {bodyMm : Decimal}
    (limited : input.bodyHeightMm = some bodyMm) :
    (input.topMm emission + input.required emission ≤ bodyMm + TOLERANCE_MM ∧
        input.required emission ≤ bodyMm) ∨
      input.topMm emission = 0 := by
  obtain ⟨page, current⟩ := stands.current
  rw [topMm]
  rw [LayoutInput.placed] at room ⊢
  by_cases breaks : input.needsPageBreak (input.met emission) (input.required emission) = true
  · rw [if_pos breaks] at room ⊢
    right
    exact (input.broken_of_page emission.openGroups current).top room
  · rw [if_neg breaks]
    rw [needsPageBreak, current, limited] at breaks
    dsimp only at breaks
    by_cases tall : bodyMm < input.required emission
    · rw [if_pos tall] at breaks
      right
      simpa using breaks
    · rw [if_neg tall] at breaks
      left
      have fits : ¬bodyMm + 1 / 1000 < (input.met emission).cursorMm + input.required emission := by
        simpa using breaks
      exact ⟨not_lt.mp fits, not_lt.mp tall⟩

theorem inside_of_placed (plain : input.Plain) (reserves : input.Reserves emission)
    (stands : input.OnSheets emissions (input.met emission))
    (room : (input.placed emission).closed.length < MAX_PAGES) : input.Inside emission := by
  constructor
  · exact (stands.placed room).cursor
  · intro bodyMm limited
    have kept := reserves_nonneg plain reserves
    rcases placed_cursor stands room limited with fits | top
    · left
      have whole := fits.1
      rw [required] at whole
      rw [bottomMm]
      linarith
    · by_cases tall : bodyMm < input.height emission
      · exact Or.inr ⟨tall, top⟩
      · left
        have slack : (0 : Decimal) ≤ TOLERANCE_MM := by norm_num [TOLERANCE_MM]
        rw [bottomMm, top]
        linarith [not_lt.mp tall]

/-- A band goes below what is on the page already. -/
theorem OnSheets.printedOn (stands : input.OnSheets emissions (input.placed emission))
    (visible : input.shown emission = true) (height : 0 ≤ input.height emission)
    (inside : input.Inside emission) :
    input.OnSheets (emissions ++ [emission]) (input.printedOn emission) := by
  obtain ⟨page, current⟩ := stands.current
  have closed := @printedOn_closed _ _ _ input emission
  have drawn : (input.printedOn emission).current =
      some { page with primitives := page.primitives ++ input.drawn emission } := by
    rw [LayoutInput.printedOn, Sheets.pushAll_of_page current]
  have below : input.topMm emission ≤ input.bottomMm emission := by
    rw [bottomMm]
    linarith
  have either {member : Emission Row Text Figure} (among : member ∈ emissions ++ [emission]) :
      member ∈ emissions ∨ member = emission := by
    rcases List.mem_append.mp among with before | last
    · exact Or.inl before
    · exact Or.inr (List.mem_singleton.mp last)
  constructor
  · exact ⟨_, drawn⟩
  · exact inside.top.trans below
  · intro other same
    rw [drawn] at same
    cases same
    obtain ⟨openGroups, start, held⟩ := stands.openPage page current
    have here : input.pageOf emission = (input.placed emission).closed.length := rfl
    refine ⟨openGroups, start, ?_⟩
    rw [closed, body_append, body_singleton visible, if_pos here, ← List.append_assoc, ← held]
  · intro index other found
    rw [closed] at found
    have earlier := (List.getElem?_eq_some_iff.mp found).1
    have apart : input.pageOf emission ≠ index := by
      rw [pageOf]
      omega
    rw [body_append, body_singleton visible, if_neg apart, List.append_nil]
    exact stands.closedPage index other found
  · intro member among shown
    rw [closed]
    rcases either among with before | rfl
    · exact stands.upto member before shown
    · exact le_refl _
  · intro member among shown here
    rw [closed] at here
    rcases either among with before | rfl
    · exact (stands.above member before shown here).trans below
    · exact le_refl _
  · rw [List.filter_append, List.pairwise_append]
    refine ⟨stands.ordered, ?_, ?_⟩
    · rw [List.filter_cons_of_pos visible, List.filter_nil]
      exact List.pairwise_singleton _ _
    · intro first among second last
      have before := List.mem_filter.mp among
      have same := List.mem_singleton.mp (List.mem_filter.mp last).1
      rw [same]
      rcases Nat.lt_or_eq_of_le (stands.upto first before.1 before.2) with earlier | here
      · exact Or.inl earlier
      · exact Or.inr ⟨here, stands.above first before.1 before.2 here⟩
  · intro member among shown
    rcases either among with before | rfl
    · exact stands.inside member before shown
    · exact inside

theorem OnSheets.hidden (stands : input.OnSheets emissions sheets)
    (hidden : input.shown emission = false) : input.OnSheets (emissions ++ [emission]) sheets := by
  have nothing (index : ℕ) : input.body (emissions ++ [emission]) index =
      input.body emissions index := by
    unfold body onPage
    rw [List.filter_append, List.filter_cons_of_neg (by simp [hidden]), List.filter_nil,
      List.append_nil]
  have before {member : Emission Row Text Figure} (among : member ∈ emissions ++ [emission])
      (shown : input.shown member = true) : member ∈ emissions := by
    rcases List.mem_append.mp among with before | last
    · exact before
    · rw [List.mem_singleton.mp last, hidden] at shown
      exact absurd shown (by decide)
  constructor
  · exact stands.current
  · exact stands.cursor
  · intro page current
    rw [nothing]
    exact stands.openPage page current
  · intro index page found
    rw [nothing]
    exact stands.closedPage index page found
  · exact fun member among shown => stands.upto member (before among shown) shown
  · exact fun member among shown => stands.above member (before among shown) shown
  · rw [List.filter_append, List.filter_cons_of_neg (by simp [hidden]), List.filter_nil,
      List.append_nil]
    exact stands.ordered
  · exact fun member among shown => stands.inside member (before among shown) shown

/-! ## Every band -/

/-- Where every band so far is, as long as there is room for pages. -/
theorem Lays.onSheets (plain : input.Plain)
    (laid : input.Lays (input.startPage input.prePass [] {}) emissions sheets)
    (room : sheets.closed.length < MAX_PAGES) : input.OnSheets emissions sheets := by
  induction laid with
  | start =>
      have empty : ({} : Sheets Row Text Figure).pages.length < MAX_PAGES :=
        (by decide : 0 < MAX_PAGES)
      have opened := input.startPage_eq input.prePass [] empty
      dsimp only at opened
      rw [opened]
      constructor
      · exact ⟨_, rfl⟩
      · exact le_refl _
      · intro page same
        cases same
        exact ⟨[], _, (List.append_nil _).symm⟩
      · intro index page found
        exact absurd found (by simp)
      · exact fun emission member => absurd member List.not_mem_nil
      · exact fun emission member => absurd member List.not_mem_nil
      · exact List.Pairwise.nil
      · exact fun emission member => absurd member List.not_mem_nil
  | counted pageAggregates laid ih => exact (ih room).counted pageAggregates
  | printed emission declared reserves laid ih =>
      have stands := ih (lt_of_le_of_lt (found_longer plain declared) room)
      cases visible : input.shown emission with
      | false =>
          rw [input.left_hidden visible]
          exact stands.hidden visible
      | true =>
          have beforeBreak := lt_of_le_of_lt (left_longer plain declared visible) room
          have met := stands.met (lt_of_le_of_lt (placed_longer emission) beforeBreak)
          have printed := (met.placed beforeBreak).printedOn visible (height_nonneg plain declared)
            (inside_of_placed plain reserves met beforeBreak)
          rw [input.left_shown visible (plain.noCrosstab emission.band declared.1)] at room ⊢
          split
          · next breaks =>
              rw [if_pos breaks] at room
              exact printed.broken _ room
          · exact printed

theorem Lays.declared {first : Sheets Row Text Figure} (laid : input.Lays first emissions sheets) :
    ∀ emission ∈ emissions, input.BodyBand emission.band := by
  induction laid with
  | start => exact fun emission member => absurd member List.not_mem_nil
  | counted pageAggregates laid ih => exact ih
  | printed emission declared reserves laid ih =>
      intro member among
      rcases List.mem_append.mp among with before | last
      · exact ih member before
      · rw [List.mem_singleton.mp last]
        exact declared

theorem drawn_band (declared : input.BodyBand emission.band) :
    ∀ primitive ∈ input.drawn emission, primitive.band ∉ PAGE_BANDS := by
  intro primitive member
  have made := input.bandPrimitives_asDrawn input.prePass emission.openGroups emission.band
    emission.context _ _ (input.drawing.flow_has emission.band emission.context) _ primitive member
  rw [made.band_eq]
  exact declared.2

theorem body_band (declared : ∀ emission ∈ emissions, input.BodyBand emission.band) (index : ℕ) :
    ∀ primitive ∈ input.body emissions index, primitive.band ∉ PAGE_BANDS := by
  intro primitive member
  obtain ⟨emission, among, drawn⟩ := List.mem_flatMap.mp member
  exact drawn_band (declared emission (List.mem_filter.mp among).1) primitive drawn

/-! ## The pages that come out -/

variable (input) in
/-- A page as it comes out: its header and its footer where `printOn` lets them, and between
them what the bands put there, with its texts set for the page. -/
structure Assembled (index : ℕ) (page : LayoutPage Row Text Figure)
    (header between footer : List (Primitive Row Text Figure)) : Prop where
  primitives : page.primitives =
    let pages := input.firstPass.sheets.closed
    let set := input.setFor (fun drawn => input.endTotal input.firstPass drawn.element)
      (finalDescriptor pages index)
    (if input.printsOn pages.length index .PAGE_HEADER then header.map set else []) ++
      between.map set ++
      (if input.printsOn pages.length index .PAGE_FOOTER then footer.map set else [])

theorem assembled_of_laid {header between footer : List (Primitive Row Text Figure)}
    (headerBand : ∀ primitive ∈ header, primitive.band = .PAGE_HEADER)
    (bodyBand : ∀ primitive ∈ between, primitive.band ∉ PAGE_BANDS)
    (footerBand : ∀ primitive ∈ footer, primitive.band = .PAGE_FOOTER)
    (held : ∀ laid, input.firstPass.sheets.closed[index]? = some laid →
      laid.primitives = header ++ between ++ footer) (standing : input.run[index]? = some page) :
    input.Assembled index page header between footer := by
  rw [input.run_eq] at standing
  unfold finalPages at standing
  dsimp only at standing
  rw [List.getElem?_mapIdx] at standing
  obtain ⟨laid, found, rfl⟩ := Option.map_eq_some_iff.mp standing
  constructor
  dsimp only
  generalize input.firstPass.sheets.closed.length = total
  generalize finalDescriptor input.firstPass.sheets.closed index = descriptor
  generalize setEq : input.setFor (fun drawn => input.endTotal input.firstPass drawn.element)
    descriptor = set
  have bandOf (primitive : Primitive Row Text Figure) : (set primitive).band = primitive.band := by
    rw [← setEq]
    exact input.setFor_band _ _ primitive
  have own {type : BandType} {primitives : List (Primitive Row Text Figure)}
      (same : ∀ primitive ∈ primitives, primitive.band = type) :
      (primitives.map set).filter (fun primitive => input.printsOn total index primitive.band) =
        if input.printsOn total index type then primitives.map set else [] := by
    apply filter_all
    intro primitive member
    obtain ⟨before, among, rfl⟩ := List.mem_map.mp member
    rw [bandOf, same before among]
  have kept : (between.map set).filter
      (fun primitive => input.printsOn total index primitive.band) = between.map set := by
    apply List.filter_eq_self.mpr
    intro primitive member
    obtain ⟨before, among, rfl⟩ := List.mem_map.mp member
    rw [bandOf]
    exact input.printsOn_body total index (bodyBand before among)
  rw [held laid found, List.map_append, List.map_append, List.filter_append, List.filter_append,
    own headerBand, kept, own footerBand]

theorem pageBandPrimitives_band (openGroups : List OpenGroup) (type : BandType)
    (index numberingStart : ℕ) (topMm heightMm : Decimal) (totals : Accumulators) :
    ∀ primitive ∈ input.pageBandPrimitives input.prePass openGroups type index numberingStart topMm
        heightMm totals, primitive.band = type := by
  intro primitive member
  exact (input.pageBandPrimitives_asDrawn input.prePass openGroups type index numberingStart topMm
    heightMm totals primitive member).band_eq

theorem run_length : input.run.length = input.firstPass.sheets.closed.length := by
  rw [input.run_eq]
  unfold finalPages
  exact List.length_mapIdx

theorem printed_onSheets (plain : input.Plain) (room : input.run.length < MAX_PAGES) :
    input.OnSheets input.emissions input.printed.sheets := by
  apply input.emissions_lays.onSheets plain
  rw [run_length, input.firstPass_eq] at room
  dsimp only at room
  apply lt_of_le_of_lt _ room
  cases current : input.printed.sheets.current with
  | none => rw [input.finishPage_of_none input.prePass _ current]
  | some page =>
      rw [input.finishPage_eq input.prePass _ current, List.length_append]
      exact Nat.le_add_right _ _

theorem firstPass_closed (plain : input.Plain) (room : input.run.length < MAX_PAGES) :
    ∃ page totals footerPrimitiveCount, input.printed.sheets.current = some page ∧
      input.firstPass.sheets.closed = input.printed.sheets.closed ++ [{ page with
        primitives := page.primitives ++ input.footerPrimitives input.prePass
          input.printed.openGroups input.printed.sheets.closed.length page.numberingStart
          input.printed.sheets.pageAggregates
        footerPrimitiveCount := footerPrimitiveCount
        totals := totals }] := by
  obtain ⟨page, current⟩ := (printed_onSheets plain room).current
  have closed := congrArg Sheets.closed
    (input.finishPage_eq input.prePass input.printed.openGroups current)
  exact ⟨page, _, _, current, closed⟩

theorem printed_room (plain : input.Plain) (room : input.run.length < MAX_PAGES) :
    input.printed.sheets.closed.length < MAX_PAGES := by
  obtain ⟨page, totals, footerCount, _, closed⟩ := firstPass_closed plain room
  rw [run_length, closed, List.length_append, List.length_singleton] at room
  omega

/-- Every page of the first pass is its header, its bands and its footer. -/
theorem firstPass_page (plain : input.Plain) (room : input.run.length < MAX_PAGES)
    (found : input.firstPass.sheets.closed[index]? = some page) :
    ∃ headerGroups headerStart footerGroups footerStart totals, page.primitives =
      input.headerPrimitives input.prePass headerGroups index headerStart ++
        input.body input.emissions index ++
        input.footerPrimitives input.prePass footerGroups index footerStart totals := by
  have stands := printed_onSheets plain room
  obtain ⟨last, totals, footerCount, current, closed⟩ := firstPass_closed plain room
  rw [closed] at found
  rcases Places.concat_cases found with earlier | ⟨rfl, rfl⟩
  · exact stands.closedPage index page earlier
  · obtain ⟨headerGroups, headerStart, held⟩ := stands.openPage last current
    refine ⟨headerGroups, headerStart, input.printed.openGroups, last.numberingStart,
      input.printed.sheets.pageAggregates, ?_⟩
    rw [← held]

theorem run_page (plain : input.Plain) (room : input.run.length < MAX_PAGES)
    (standing : input.run[index]? = some page) :
    ∃ headerGroups headerStart footerGroups footerStart totals, input.Assembled index page
      (input.headerPrimitives input.prePass headerGroups index headerStart)
      (input.body input.emissions index)
      (input.footerPrimitives input.prePass footerGroups index footerStart totals) := by
  have inside := (List.getElem?_eq_some_iff.mp standing).1
  rw [run_length] at inside
  obtain ⟨headerGroups, headerStart, footerGroups, footerStart, totals, held⟩ :=
    firstPass_page plain room (List.getElem?_eq_getElem inside)
  refine ⟨headerGroups, headerStart, footerGroups, footerStart, totals, ?_⟩
  apply assembled_of_laid _ _ _ _ standing
  · exact pageBandPrimitives_band _ _ _ _ _ _ _
  · exact body_band input.emissions_lays.declared index
  · exact pageBandPrimitives_band _ _ _ _ _ _ _
  · intro laid found
    rw [List.getElem?_eq_getElem inside] at found
    cases found
    exact held

theorem pageOf_lt (plain : input.Plain) (room : input.run.length < MAX_PAGES)
    (member : emission ∈ input.emissions) (visible : input.shown emission = true) :
    input.pageOf emission < input.run.length := by
  obtain ⟨page, totals, footerCount, _, closed⟩ := firstPass_closed plain room
  have upto := (printed_onSheets plain room).upto emission member visible
  rw [run_length, closed, List.length_append, List.length_singleton]
  omega

end LayoutInput

end ErpServer.Print
