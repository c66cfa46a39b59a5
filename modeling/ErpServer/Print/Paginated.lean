import ErpServer.Print.LastDetail
import ErpServer.Print.Settled

/-!
# Page numbers

The report as it would be laid out by someone who knew the page count: every text with the
total it had when it was drawn.  The second pass prints the same wherever the total a text
reads at the end of the layout makes no difference to it.
-/

namespace ErpServer.Print

open Lib
open Receipt (Decimal)

namespace LayoutInput

variable {Row Text Figure : Type} (input : LayoutInput Row Text Figure)

/-! ## The report as if the page count were known -/

/-- Every text that mentions the page is what it would be with the page count known and all
else as it stood when it was drawn; nothing else changes but what `LAST_PAGE` and
`NOT_LAST_PAGE` leave out, and every numbering run counts its own pages. -/
structure NumberedAsKnown : Prop where
  pages : input.run = input.finalPages Drawn.total
  runs : ∀ start, CountsItsPages input.firstPass.sheets.closed start

/-- Every text that mentions the page and stays on it comes out the same for the total left
at the end of the layout as for the one it was drawn with. -/
def TotalsHold : Prop :=
  ∀ index page, input.firstPass.sheets.closed[index]? = some page →
    ∀ text drawn band, Primitive.text text drawn band ∈ page.primitives →
      dependsOnPage drawn.element.value = true →
      input.printsOn input.firstPass.sheets.closed.length index band = true →
      input.textFor (finalDescriptor input.firstPass.sheets.closed index)
          (input.endTotal input.firstPass drawn.element) text drawn =
        input.textFor (finalDescriptor input.firstPass.sheets.closed index) drawn.total text
          drawn

variable {input}

variable {left right : Drawn Row → Decimal}

/-- Two ways of setting a page agree when they agree on every text that stays. -/
theorem setFor_filter_congr {page : PageDescriptor} {keep : BandType → Bool}
    (primitives : List (Primitive Row Text Figure)) :
    ((primitives.map (input.setFor left page)).filter fun primitive => keep primitive.band) =
        (primitives.map (input.setFor right page)).filter (fun primitive =>
          keep primitive.band) ↔
      ∀ text drawn band, Primitive.text text drawn band ∈ primitives →
        dependsOnPage drawn.element.value = true → keep band = true →
        input.textFor page (left drawn) text drawn =
          input.textFor page (right drawn) text drawn := by
  have bands (totalFor : Drawn Row → Decimal) :
      (fun primitive : Primitive Row Text Figure =>
        keep (input.setFor totalFor page primitive).band) =
      fun primitive => keep primitive.band := by
    funext primitive
    rw [setFor_band]
  rw [List.filter_map, List.filter_map, Function.comp_def, Function.comp_def, bands, bands,
    List.map_inj_left]
  constructor
  · intro agree text drawn band member depends kept
    have same := agree (.text text drawn band) (List.mem_filter.mpr ⟨member, kept⟩)
    simp only [setFor, depends, if_true, Primitive.text.injEq] at same
    exact same.1
  · intro agree primitive member
    obtain ⟨member, kept⟩ := List.mem_filter.mp member
    cases primitive with
    | figure figure band => rfl
    | text text drawn band =>
        by_cases depends : dependsOnPage drawn.element.value = true
        · simp only [setFor, depends, if_true, agree text drawn band member depends kept]
        · simp [setFor, depends]

theorem finalPages_congr : input.finalPages left = input.finalPages right ↔
      ∀ index page, input.firstPass.sheets.closed[index]? = some page →
        ∀ text drawn band, Primitive.text text drawn band ∈ page.primitives →
          dependsOnPage drawn.element.value = true →
          input.printsOn input.firstPass.sheets.closed.length index band = true →
          input.textFor (finalDescriptor input.firstPass.sheets.closed index) (left drawn) text
              drawn =
            input.textFor (finalDescriptor input.firstPass.sheets.closed index) (right drawn)
              text drawn := by
  unfold finalPages
  dsimp only
  rw [List.mapIdx_eq_mapIdx_iff]
  constructor
  · intro agree index page standing
    obtain ⟨inside, rfl⟩ := List.getElem?_eq_some_iff.mp standing
    have same := congrArg LayoutPage.primitives (agree index inside)
    exact (setFor_filter_congr _).mp same
  · intro agree index inside
    rw [(setFor_filter_congr _).mpr (agree index _ (List.getElem?_eq_getElem inside))]

variable (input)

theorem numberedAsKnown_iff : input.NumberedAsKnown ↔ input.TotalsHold := by
  constructor
  · intro known
    have pages := known.pages
    rw [input.run_eq] at pages
    exact finalPages_congr.mp pages
  · intro hold
    constructor
    · rw [input.run_eq]
      exact finalPages_congr.mpr hold
    · intro start
      have numbered := input.laid_firstPass.numbered
      rw [input.firstPass_pages] at numbered
      exact numbered.countsItsPages start

end LayoutInput

/-! ## A total that names its page -/

/-- What `row.amount` reads, where a row is its amount. -/
def amountOf : RowValue Decimal → Decimal
  | .none => 0
  | .row amount _ _ => amount
  | .every total => total

def PAGE_TOTAL : String := "{{ row.amount }} (page {{ page.number }})"

def AMOUNT : String := "{{ row.amount }}"

/-- The templates of the reports below, evaluated. -/
def amountEvaluator : Evaluator Decimal where
  evaluateText template context :=
    let amount := toString (amountOf context.row).num
    if template = PAGE_TOTAL then amount ++ " (page " ++ toString context.page.number ++ ")"
    else if template = AMOUNT then amount
    else template
  evaluateNumber _ context := amountOf context.row
  evaluateCondition condition _ := condition ≠ some "false"

/-- Bands of the height they were designed with, and texts as they are. -/
def plainDrawing : Drawing Decimal String Unit where
  bandHeight band _ := band.heightMm
  spacingMm _ := 0
  flow _ _ := none
  spread _ _ _ _ := none
  spread_repeating _ _ _ _ _ := rfl
  flow_has _ _ _ moved := absurd moved (Option.some_ne_none _).symm
  spread_has _ _ _ _ _ _ moved := absurd moved (Option.some_ne_none _).symm
  parseMarkup template := [template]
  plainText _ _ _ _ text := text
  richText _ _ _ _ runs := String.join runs
  blankText _ := ""
  background _ _ _ _ := []
  frame _ _ _ _ := []
  figures _ _ _ _ := []

/-- A report of some amounts, on paper of 100 mm without margins. -/
def amountReport (bands : List Band)
    (uniqueIds : (bands.flatMap fun band => band.elements.map Element.id).Nodup)
    (amounts : List Decimal) : LayoutInput Decimal String Unit where
  template := ⟨.GRAPHIC, ⟨some 100, none, 0, 0⟩, bands, uniqueIds⟩
  datasets _ := amounts
  evaluator := amountEvaluator
  drawing := plainDrawing

def Primitive.shown {Row Figure : Type} : Primitive Row String Figure → Option String
  | .text shown _ _ => some shown
  | .figure _ _ => none

/-- Whether a text that mentions the page and stays on it is settled. -/
def settledOn (input : LayoutInput Decimal String Unit) (index : ℕ) :
    Primitive Decimal String Unit → Bool
  | .text _ drawn type =>
      !dependsOnPage drawn.element.value ||
        !input.printsOn input.firstPass.sheets.closed.length index type ||
        decide (input.Settled index drawn)
  | .figure _ _ => true

theorem allSettled_of_all {input : LayoutInput Decimal String Unit}
    (all : ∀ item ∈ input.firstPass.sheets.closed.zipIdx, ∀ primitive ∈ item.1.primitives,
      settledOn input item.2 primitive = true) : input.AllSettled := by
  intro index page found text drawn type member depends stays
  have settled := all (page, index) (List.mem_zipIdx_iff_getElem?.mpr found) _ member
  simpa [settledOn, depends, stays] using settled

/-- Two rows on a page each, the total of the report in the footers, and that of the last page
in the summary, each with the page. -/
def numberedTotals : LayoutInput Decimal String Unit :=
  amountReport
    [{ type := .DETAIL, heightMm := 60, dataset := some "items" },
      { type := .SUMMARY, heightMm := 10, elements := [.text
        { id := "last"
          value := PAGE_TOTAL
          aggregate := some { fn := .sum, scope := .PAGE } }] },
      { type := .PAGE_FOOTER, heightMm := 10, elements := [.text
        { id := "all"
          value := PAGE_TOTAL
          aggregate := some { fn := .sum, scope := .REPORT } }] }]
    (by decide) [10, 20]

/-- Two rows on a page each, and a footer with the total of its page and its number. -/
def twoPages : LayoutInput Decimal String Unit :=
  amountReport
    [{ type := .DETAIL, heightMm := 60, dataset := some "items" },
      { type := .PAGE_FOOTER, heightMm := 10, elements := [.text
        { id := "total"
          value := PAGE_TOTAL
          aggregate := some { fn := .sum, scope := .PAGE } }] }]
    (by decide) [10, 20]

end ErpServer.Print

namespace ErpServer.Print

open Lib
open Receipt (Decimal)

/-! ## Paginated reports

What pagination promises of a report without tables: nothing is lost, every band stands on a
page with its header and its footer, and the summary stays with the last row. -/

variable {Row Text Figure : Type}

namespace LayoutInput

variable (input : LayoutInput Row Text Figure)

/-- The bands warned of as too tall, in the order the warnings are recorded. -/
def warnings : List BandTooTall :=
  (input.emissions.filter input.shown).filterMap fun emission =>
    input.bandTooTall (input.met emission) (input.required emission)

/-- The summary is on the page of the last row of the section it follows directly, where the
row, the footers after it and the summary make one body. -/
def SummaryKept : Prop :=
  ∀ details summary, input.FollowsDirectly details summary →
    ∃ before row footers ending after,
      input.emissions = before ++ row :: footers ++ ending :: after ∧
        input.EndsWith details row footers ∧ ending.band = summary ∧
        ending.context = rootContext ∧
        (input.OneBody (input.closingFootersHeight row.openGroups details.groupFooters row.context)
            row footers ending →
          input.pageOf ending = input.pageOf row)

structure Paginated : Prop where
  /-- What is printed, and in which order, is what there is to print. -/
  everyBand : input.emissions.map Emission.matter = input.matter
  /-- Every page that comes out is its header, what the bands on it draw, and its footer. -/
  pages : ∀ index page, input.run[index]? = some page →
    ∃ headerGroups headerStart footerGroups footerStart totals, input.Assembled index page
      (input.headerPrimitives input.prePass headerGroups index headerStart)
      (input.body input.emissions index)
      (input.footerPrimitives input.prePass footerGroups index footerStart totals)
  placed : ∀ emission ∈ input.emissions, input.shown emission = true →
    input.pageOf emission < input.run.length
  ordered : (input.emissions.filter input.shown).Pairwise input.Above
  inside : ∀ emission ∈ input.emissions, input.shown emission = true → input.Inside emission
  /-- A band too tall for any page is warned of, where it comes to the top of one. -/
  warned : ∀ emission ∈ input.emissions, input.shown emission = true → ∀ bodyMm,
    input.bodyHeightMm = some bodyMm → bodyMm < input.height emission →
      (input.met emission).cursorMm = 0 → ⟨input.required emission, bodyMm⟩ ∈ input.warnings
  summaryKept : input.SummaryKept

variable {input}

variable {bodyMm : Decimal}

theorem warned_of_met (plain : input.Plain) (room : input.run.length < MAX_PAGES)
    {emission : Emission Row Text Figure} (member : emission ∈ input.emissions)
    (visible : input.shown emission = true) (limited : input.bodyHeightMm = some bodyMm)
    (tall : bodyMm < input.height emission) (top : (input.met emission).cursorMm = 0) :
    ⟨input.required emission, bodyMm⟩ ∈ input.warnings := by
  obtain ⟨front, back, whole⟩ := List.append_of_mem member
  have laid := input.emissions_lays
  have below := (printed_onSheets plain room).upto emission member visible
  have regroup : front ++ emission :: back = (front ++ [emission]) ++ back := by simp
  rw [whole, regroup] at laid
  obtain ⟨middle, before, after⟩ := laid.split
  obtain ⟨found, declared, reserves, _⟩ := before.last
  have printedRoom := printed_room plain room
  have metRoom : (input.met emission).closed.length < MAX_PAGES := by
    have upto := @placed_longer _ _ _ input emission
    change (input.placed emission).closed.length ≤ _ at below
    omega
  have stands := (found.onSheets plain
    (lt_of_le_of_lt (met_longer emission) metRoom)).met metRoom
  obtain ⟨page, current⟩ := stands.current
  have kept := reserves_nonneg plain reserves
  have needed : bodyMm < input.required emission := by
    rw [required]
    linarith
  apply List.mem_filterMap.mpr
  refine ⟨emission, List.mem_filter.mpr ⟨member, visible⟩, ?_⟩
  rw [bandTooTall, current, limited]
  exact if_pos ⟨needed, top⟩

theorem summaryKept (plain : input.Plain) (room : input.run.length < MAX_PAGES) :
    input.SummaryKept := by
  intro details summary follows
  obtain ⟨before, row, footers, ending, after, whole, endsWith, isSummary, atRoot, noReserve⟩ :=
    input.emissions_of_followsDirectly follows
  refine ⟨before, row, footers, ending, after, whole, endsWith, isSummary, atRoot, ?_⟩
  intro oneBody
  have laid := input.emissions_lays
  have endingHeight : input.height ending = input.drawing.bandHeight summary rootContext := by
    rw [height, isSummary, atRoot]
  have reserve : row.reserveMm = input.height ending +
      input.closingFootersHeight row.openGroups details.groupFooters row.context := by
    rw [endsWith.reserve, endingHeight, LayoutInput.reserveMm, follows.isSummary]
    exact if_pos ⟨rfl, follows.keepWithLastDetail⟩
  rw [whole] at laid
  exact laid.together plain (printed_room plain room) reserve endsWith.noReserve noReserve oneBody

/-- Pagination loses nothing and stays on the page. -/
theorem report_paginated {Row Text Figure : Type} {input : LayoutInput Row Text Figure}
    (plain : input.Plain) (room : input.run.length < MAX_PAGES) : input.Paginated := by
  have stands := printed_onSheets plain room
  constructor
  · exact input.emissions_matter
  · exact fun index page standing => run_page plain room standing
  · exact fun emission member visible => pageOf_lt plain room member visible
  · exact stands.ordered
  · exact stands.inside
  · exact fun emission member visible bodyMm limited tall top =>
      warned_of_met plain room member visible limited tall top
  · exact summaryKept plain room

/-! ## What is not promised -/

variable (input)

/-- Every band ends within the body, or is too tall for it and warned of. -/
def Confined : Prop :=
  ∀ emission ∈ input.emissions, input.shown emission = true → ∀ bodyMm,
    input.bodyHeightMm = some bodyMm → input.bottomMm emission ≤ bodyMm ∨
      bodyMm < input.height emission ∧ ⟨input.required emission, bodyMm⟩ ∈ input.warnings

/-- The summary is on the page of the last row whenever they fit one body with the footers. -/
def KeptWheneverItFits : Prop :=
  ∀ details summary, input.FollowsDirectly details summary → ∀ before row footers ending after,
    input.emissions = before ++ row :: footers ++ ending :: after →
      input.EndsWith details row footers → ending.band = summary →
        input.shown row = true → input.shown ending = true →
          (∀ bodyMm, input.bodyHeightMm = some bodyMm →
            input.height row + input.stackMm footers + input.height ending ≤ bodyMm) →
            input.pageOf ending = input.pageOf row

variable {input}

/-- A summary alone on its page, by the kinds of its bands. -/
theorem not_kept {details : DetailSection Row} {summary : Band}
    (follows : input.FollowsDirectly details summary) (detail : details.band.type = .DETAIL)
    (rowMm footerMm summaryMm : Decimal)
    (rows : ∀ emission ∈ input.emissions, emission.band.type = .DETAIL →
      input.shown emission = true ∧ input.height emission = rowMm ∧ input.pageOf emission = 0)
    (footerBands : ∀ footer ∈ input.closingMatter details, footer.1.type = .GROUP_FOOTER)
    (groupFooters : ∀ emission ∈ input.emissions, emission.band.type = .GROUP_FOOTER →
      input.shown emission = true ∧ input.height emission = footerMm)
    (summaries : ∀ emission ∈ input.emissions, emission.band.type = .SUMMARY →
      input.shown emission = true ∧ input.height emission = summaryMm ∧ input.pageOf emission = 1)
    (limited : input.bodyHeightMm = some bodyMm)
    (fits : rowMm + (input.closingMatter details).length * footerMm + summaryMm ≤ bodyMm) :
    ¬input.KeptWheneverItFits := by
  intro kept
  obtain ⟨before, row, footers, ending, after, whole, endsWith, isSummary, atRoot, _⟩ :=
    input.emissions_of_followsDirectly follows
  have summaryType : ending.band.type = .SUMMARY := by
    rw [isSummary]
    simpa using List.find?_some follows.isSummary
  obtain ⟨rowShown, rowHeight, rowPage⟩ := rows row (by rw [whole]; simp) (by
    rw [endsWith.band, detail])
  obtain ⟨summaryShown, summaryHeight, summaryPage⟩ :=
    summaries ending (by rw [whole]; simp) summaryType
  have each (footer : Emission Row Text Figure) (member : footer ∈ footers) :
      input.shown footer = true ∧ input.height footer = footerMm := by
    apply groupFooters footer
    · rw [whole]
      simp [member]
    · have matter := List.mem_map_of_mem (f := Emission.matter) member
      rw [endsWith.closing] at matter
      exact footerBands _ matter
  have stacked : input.stackMm footers = (input.closingMatter details).length * footerMm := by
    have all : footers.filter input.shown = footers :=
      List.filter_eq_self.mpr fun footer member => (each footer member).1
    have same : footers.map input.height = footers.map fun _ => footerMm :=
      List.map_congr_left fun footer member => (each footer member).2
    rw [stackMm, all, same, ← endsWith.closing, List.length_map, List.map_const',
      List.sum_replicate, nsmul_eq_mul]
  have together := kept details summary follows before row footers ending after whole endsWith
    isSummary rowShown summaryShown (by
      intro other same
      rw [limited] at same
      cases same
      rw [rowHeight, stacked, summaryHeight]
      exact fits)
  rw [summaryPage, rowPage] at together
  exact absurd together (by decide)

end LayoutInput

/-- Three rows of 40 mm with a header and a footer, and a summary that stays with the last. -/
def statement : LayoutInput Decimal String Unit :=
  amountReport
    [{ type := .PAGE_HEADER, heightMm := 5 },
      { type := .DETAIL, heightMm := 40, dataset := some "items" },
      { type := .SUMMARY, heightMm := 30, keepWithLastDetail := true },
      { type := .PAGE_FOOTER, heightMm := 5, elements := [.text
        { id := "footer", value := "thank you" }] }]
    (by decide) [10, 20, 30]

theorem statement_paginated : statement.Plain ∧ statement.run.length = 2 ∧ statement.Paginated := by
  have plain : statement.Plain := by
    constructor
    · exact fun band member context cursorMm reserveMm => rfl
    · intro band member context
      change 0 ≤ band.heightMm
      revert band
      decide +kernel
  have pages : statement.run.length = 2 := by decide +kernel
  exact ⟨plain, pages, LayoutInput.report_paginated plain (by rw [pages]; decide)⟩

/-! ## On any paper -/

namespace LayoutInput

variable (input : LayoutInput Row Text Figure)

/-- What the bands that are shown print, in their order. -/
def shownMatter : List (Band × Context Row × List OpenGroup) :=
  (input.emissions.filter input.shown).map Emission.matter

/-- Whether a band is visible does not depend on the page. -/
def VisibleOnAnyPage : Prop :=
  ∀ band ∈ input.template.bands, ∀ context, input.evaluator.evaluateCondition band.visible context =
    input.evaluator.evaluateCondition band.visible context.offPage

variable {input} in
theorem shownMatter_eq (anywhere : input.VisibleOnAnyPage) :
    input.shownMatter = (input.emissions.map Emission.matter).filter fun matter =>
      input.evaluator.evaluateCondition matter.1.visible matter.2.1 := by
  rw [shownMatter, List.filter_map]
  apply congrArg (List.map Emission.matter)
  apply List.filter_congr
  intro emission member
  exact anywhere emission.band (input.emissions_lays.declared emission member).1 emission.context

end LayoutInput

/-- Three rows of 40 mm below a heading that is hidden. -/
def headless : LayoutInput Decimal String Unit :=
  amountReport
    [{ type := .REPORT_HEADER, heightMm := 30, visible := some "false" },
      { type := .DETAIL, heightMm := 40, dataset := some "items" }]
    (by decide) [10, 20, 30]

/-- A row that ends half a thousandth below the body. -/
def overhung : LayoutInput Decimal String Unit :=
  amountReport
    [{ type := .REPORT_HEADER, heightMm := 60 },
      { type := .DETAIL, heightMm := 40 + 1 / 2000, dataset := some "items" }]
    (by decide) [10]

/-- A row taller than the page, met below a header. -/
def unwarned : LayoutInput Decimal String Unit :=
  amountReport
    [{ type := .REPORT_HEADER, heightMm := 10 },
      { type := .DETAIL, heightMm := 120, dataset := some "items" }]
    (by decide) [10]

def plainDetail : Band := { type := .DETAIL, heightMm := 30, dataset := some "items" }

def newPageSummary : Band :=
  { type := .SUMMARY, heightMm := 30, keepWithLastDetail := true, startNewPage := true }

/-- A summary that stays with the last row and asks for a page of its own. -/
def parted : LayoutInput Decimal String Unit :=
  amountReport
    [plainDetail, newPageSummary] (by decide) [10]

def keptSummary : Band := { type := .SUMMARY, heightMm := 20, keepWithLastDetail := true }

def groupFooter : Band :=
  { type := .GROUP_FOOTER, heightMm := 40, dataset := some "items", groupBy := some "all" }

/-- A group footer that grows only where there is no row. -/
def shortMeasured : LayoutInput Decimal String Unit :=
  { amountReport
      [{ type := .REPORT_HEADER, heightMm := 20 }, plainDetail, groupFooter, keptSummary]
      (by decide) [10] with
    drawing := { plainDrawing with
      bandHeight := fun band context =>
        if band.type = .GROUP_FOOTER ∧ context.row ≠ .none then 0 else band.heightMm } }

/-- A row over by half a thousandth, a row too tall without a warning, and two summaries that
leave the last row though they fit with it. -/
theorem overhung_unwarned_parted :
    ¬overhung.Confined ∧ ¬unwarned.Confined ∧ ¬parted.KeptWheneverItFits ∧
      ¬shortMeasured.KeptWheneverItFits := by
  refine ⟨?_, ?_, ?_, ?_⟩
  · intro confined
    have low : ∃ emission ∈ overhung.emissions, overhung.shown emission = true ∧
        100 < overhung.bottomMm emission ∧ overhung.height emission ≤ 100 := by
      decide +kernel
    obtain ⟨emission, member, visible, below, whole⟩ := low
    rcases confined emission member visible 100 (by decide +kernel) with ends | tall
    · exact absurd below (not_lt.mpr ends)
    · exact absurd tall.1 (not_lt.mpr whole)
  · intro confined
    have silent : (∃ emission ∈ unwarned.emissions, unwarned.shown emission = true ∧
        100 < unwarned.bottomMm emission) ∧ unwarned.warnings = [] := by
      decide +kernel
    obtain ⟨⟨emission, member, visible, below⟩, nothing⟩ := silent
    rcases confined emission member visible 100 (by decide +kernel) with ends | tall
    · exact absurd below (not_lt.mpr ends)
    · rw [nothing] at tall
      exact absurd tall.2 List.not_mem_nil
  · have follows : parted.FollowsDirectly ⟨plainDetail, "items", [10], [], [], []⟩
        newPageSummary := by
      refine ⟨⟨[], plainDetail, [], [], rfl, rfl, ?_⟩, List.cons_ne_nil _ _, rfl, rfl⟩
      exact fun other member => absurd member List.not_mem_nil
    exact LayoutInput.not_kept follows rfl 30 0 30 (by decide +kernel) (by decide +kernel)
      (by decide +kernel) (by decide +kernel) (show _ = some 100 by decide +kernel)
      (by decide +kernel)
  · have follows : shortMeasured.FollowsDirectly
        ⟨plainDetail, "items", [10], [], [groupFooter], [some "all"]⟩ keptSummary := by
      refine ⟨⟨[_], plainDetail, [groupFooter], [], rfl, rfl, ?_⟩, List.cons_ne_nil _ _, rfl, rfl⟩
      intro other member
      rw [List.mem_singleton.mp member]
      decide
    exact LayoutInput.not_kept follows rfl 30 40 20 (by decide +kernel) (by decide +kernel)
      (by decide +kernel) (by decide +kernel) (show _ = some 100 by decide +kernel)
      (by decide +kernel)

end ErpServer.Print
