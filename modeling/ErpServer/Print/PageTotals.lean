import ErpServer.Print.Paginated

/-!
# Page totals

A row is counted for the page it left the layout on.  What a footer reads when its page
closes is the total of the rows counted on it, and a row is counted where its band was
printed unless the band is hidden or breaks the page itself.
-/

namespace ErpServer.Print

open Lib
open Receipt (Decimal)

namespace LayoutInput

variable {Row Text Figure : Type} (input : LayoutInput Row Text Figure)

/-- The fields of the page footer that total their page. -/
def footerFields : List (TextElement × Aggregate) :=
  (input.firstBand .PAGE_FOOTER).elim [] fun band =>
    band.aggregates.filter fun field => field.2.scope = .PAGE

/-- Whether the rows of a dataset count for a field of the footer. -/
def feeds (field : TextElement × Aggregate) (dataset : String) : Bool :=
  (input.firstBand .PAGE_FOOTER).any fun band =>
    (field.2.source band).all fun source => source = dataset

def valueOf (field : TextElement × Aggregate) (record : RowRecord Row) : Decimal :=
  input.evaluator.evaluateNumber (field.1.totalled field.2) record.context

/-- The values of a field over the rows counted on a page. -/
def countedValues (rows : List (RowRecord Row)) (field : TextElement × Aggregate)
    (page : ℕ) : List Decimal :=
  (rows.filter fun record =>
    input.feeds field record.dataset && record.countedOn = some page).map (input.valueOf field)

/-- The values of a field over the rows whose band was printed on a page. -/
def drawnValues (rows : List (RowRecord Row)) (field : TextElement × Aggregate)
    (page : ℕ) : List Decimal :=
  (rows.filter fun record =>
    input.feeds field record.dataset && record.drawnOn = some page).map (input.valueOf field)

variable {input}

theorem mem_footerFields {field : TextElement × Aggregate} (member : field ∈ input.footerFields) :
    ∃ band, input.firstBand .PAGE_FOOTER = some band ∧ band ∈ input.template.bands ∧
      field ∈ band.aggregates ∧ field.2.scope = .PAGE := by
  unfold footerFields at member
  cases found : input.firstBand .PAGE_FOOTER with
  | none =>
      rw [found] at member
      exact absurd member List.not_mem_nil
  | some band =>
      rw [found] at member
      obtain ⟨inBand, scope⟩ := List.mem_filter.mp member
      exact ⟨band, rfl, List.mem_of_find?_eq_some found, inBand, of_decide_eq_true scope⟩

/-- A row adds its value to the fields its dataset feeds, and to no other. -/
theorem at_accumulatePageAggregates {field : TextElement × Aggregate}
    (member : field ∈ input.footerFields) (details : DetailSection Row)
    (context : Context Row) (pageAggregates : Accumulators) :
    (input.accumulatePageAggregates details context pageAggregates).at field.1.id =
      if input.feeds field details.dataset then
        accumulate (pageAggregates.at field.1.id)
          (some (input.evaluator.evaluateNumber (field.1.totalled field.2) context))
      else pageAggregates.at field.1.id := by
  obtain ⟨band, found, bandMem, inBand, scope⟩ := mem_footerFields member
  let value := fun other : TextElement × Aggregate =>
    input.evaluator.evaluateNumber (other.1.totalled other.2) context
  change (addAll value (input.pageScopeElementsFor details) pageAggregates).at field.1.id = _
  have fed : input.feeds field details.dataset = true ↔
      field.2.source band = none ∨ field.2.source band = some details.dataset := by
    unfold feeds
    rw [found]
    cases source : field.2.source band with
    | none => simp [source]
    | some source' => simp [source]
  by_cases feeding : input.feeds field details.dataset = true
  · rw [if_pos feeding]
    apply at_addAll_mem value
    · exact input.template.fields_nodup fun band field =>
        field.2.scope = .PAGE ∧
          (field.2.source band = none ∨ field.2.source band = some details.dataset)
    · apply List.mem_flatMap.mpr
      refine ⟨band, bandMem, List.mem_filter.mpr ⟨inBand, ?_⟩⟩
      exact decide_eq_true ⟨scope, fed.mp feeding⟩
  · rw [if_neg feeding]
    apply at_addAll_other value
    intro other otherMem same
    obtain ⟨otherBand, otherBandMem, kept⟩ := List.mem_flatMap.mp otherMem
    obtain ⟨otherIn, picked⟩ := List.mem_filter.mp kept
    obtain ⟨rfl, rfl⟩ := input.template.field_unique otherBandMem bandMem otherIn inBand same
    exact feeding (fed.mpr (of_decide_eq_true picked).2)

/-! ## Counting as the report is printed -/

/-- What a field has come to on every page, by the rows counted so far. -/
structure Counted (field : TextElement × Aggregate) (sheets : Sheets Row Text Figure)
    (rows : List (RowRecord Row)) : Prop where
  closed : ∀ index page, sheets.closed[index]? = some page →
    page.totals.at field.1.id = accumulatorOf (input.countedValues rows field index)
  current : sheets.current ≠ none →
    sheets.pageAggregates.at field.1.id =
      accumulatorOf (input.countedValues rows field sheets.closed.length)
  within : ∀ record ∈ rows, ∀ page, record.countedOn = some page → page < sheets.pages.length

theorem countedValues_concat (rows : List (RowRecord Row)) (record : RowRecord Row)
    (field : TextElement × Aggregate) (page : ℕ) :
    input.countedValues (rows ++ [record]) field page =
      input.countedValues rows field page ++
        if input.feeds field record.dataset = true ∧ record.countedOn = some page then
          [input.valueOf field record] else [] := by
  unfold countedValues
  rw [List.filter_append, List.map_append]
  by_cases here : input.feeds field record.dataset = true ∧ record.countedOn = some page
  · simp [here]
  · have none : [record].filter (fun record =>
        input.feeds field record.dataset && record.countedOn = some page) = [] := by
      apply List.filter_eq_nil_iff.mpr
      intro other member
      rw [List.mem_singleton.mp member]
      simpa using here
    rw [if_neg here, none, List.map_nil]

variable {rows : List (RowRecord Row)} {sheets : Sheets Row Text Figure}

/-- Nothing has been counted on a page that does not exist. -/
theorem countedValues_beyond {field : TextElement × Aggregate} {count : ℕ}
    (within : ∀ record ∈ rows, ∀ page, record.countedOn = some page → page < count) :
    input.countedValues rows field count = [] := by
  unfold countedValues
  rw [List.filter_eq_nil_iff.mpr, List.map_nil]
  intro record member counted
  simp only [Bool.and_eq_true, decide_eq_true_eq] at counted
  exact absurd (within record member count counted.2) (lt_irrefl count)

variable {precomputed : PrecomputedAggregates} {openGroups : List OpenGroup}
variable {field : TextElement × Aggregate}

theorem counted_finishPage (counted : input.Counted field sheets rows) :
    input.Counted field (input.finishPage precomputed openGroups sheets) rows := by
  cases current : sheets.current with
  | none => rwa [input.finishPage_of_none precomputed openGroups current]
  | some page =>
      obtain ⟨footer, _, finished⟩ := input.finishPage_of_page precomputed openGroups current
      have within := counted.within
      rw [Sheets.pages_of_page current] at within
      rw [finished]
      constructor
      · intro index closed standing
        dsimp only at standing
        rcases Places.concat_cases standing with before | ⟨rfl, rfl⟩
        · exact counted.closed index closed before
        · exact counted.current (by rw [current]; exact Option.some_ne_none page)
      · exact fun absent => absurd rfl absent
      · rw [Sheets.pages_of_none rfl]
        simpa using within

theorem counted_startPage (counted : input.Counted field sheets rows)
    (current : sheets.current = none) :
    input.Counted field (input.startPage precomputed openGroups sheets) rows := by
  rcases input.startPage_opens precomputed openGroups sheets with
    same | ⟨header, numberingStart, _, _, started⟩
  · rwa [same]
  · have within := counted.within
    rw [Sheets.pages_of_none current] at within
    rw [started]
    constructor
    · exact counted.closed
    · intro _
      dsimp only
      rw [countedValues_beyond within]
      rfl
    · intro record member page countedOn
      rw [Sheets.pages_of_page rfl, List.length_append]
      exact Nat.lt_succ_of_lt (within record member page countedOn)

variable {band : Band} {context : Context Row} {after before : Sheets Row Text Figure}

theorem counted_step (step : input.Step precomputed openGroups band context before after)
    (counted : input.Counted field before rows) : input.Counted field after rows := by
  cases step with
  | push body primitive asDrawn =>
      cases current : before.current with
      | none => rwa [Sheets.push_of_none current]
      | some page =>
          have within := counted.within
          have open' := counted.current (by rw [current]; exact Option.some_ne_none page)
          rw [Sheets.pages_of_page current] at within
          rw [Sheets.push_of_page current]
          constructor
          · exact counted.closed
          · exact fun _ => open'
          · rw [Sheets.pages_of_page rfl]
            simpa using within
  | move cursorMm => exact ⟨counted.closed, counted.current, counted.within⟩
  | restart asked => exact ⟨counted.closed, counted.current, counted.within⟩
  | renumber page current =>
      have within := counted.within
      have open' := counted.current (by rw [current]; exact Option.some_ne_none page)
      rw [Sheets.pages_of_page current] at within
      constructor
      · exact counted.closed
      · exact fun _ => open'
      · rw [Sheets.pages_of_page rfl]
        simpa using within
  | breakPage =>
      exact counted_startPage (counted_finishPage counted)
        (input.finishPage_current precomputed openGroups before)

/-- A row is added to the accumulators of the page it is counted on. -/
theorem counted_count (member : field ∈ input.footerFields) (details : DetailSection Row)
    (context : Context Row) (drawnOn : Option ℕ) (counted : input.Counted field sheets rows) :
    input.Counted field
      { sheets with
        pageAggregates := input.accumulatePageAggregates details context sheets.pageAggregates }
      (rows ++ [⟨details.band, details.dataset, context, drawnOn,
        sheets.current.map fun _ => sheets.closed.length⟩]) := by
  constructor
  · intro index page standing
    have elsewhere : (sheets.current.map fun _ => sheets.closed.length) ≠ some index := by
      intro here
      obtain ⟨_, _, same⟩ := Option.map_eq_some_iff.mp here
      have inside := (List.getElem?_eq_some_iff.mp standing).1
      exact absurd same (Nat.ne_of_gt inside)
    rw [countedValues_concat, if_neg fun both => elsewhere both.2, List.append_nil]
    exact counted.closed index page standing
  · intro present
    have before := counted.current present
    obtain ⟨page, current⟩ := Option.ne_none_iff_exists'.mp present
    dsimp only
    rw [at_accumulatePageAggregates member, countedValues_concat, before]
    by_cases feeding : input.feeds field details.dataset = true
    · rw [if_pos feeding, if_pos ⟨feeding, by rw [current]; rfl⟩, accumulatorOf_concat]
      rfl
    · rw [if_neg feeding, if_neg fun both => feeding both.1, List.append_nil]
  · intro record inside page countedOn
    change page < sheets.pages.length
    rcases List.mem_append.mp inside with old | new
    · exact counted.within record old page countedOn
    · rw [List.mem_singleton.mp new] at countedOn
      obtain ⟨current, present, rfl⟩ := Option.map_eq_some_iff.mp countedOn
      rw [Sheets.pages_of_page present]
      simp

theorem counted_kept (member : field ∈ input.footerFields) :
    input.Kept precomputed (input.Counted field) where
  step := counted_step
  count := fun details context drawnOn _ counted =>
    counted_count member details context drawnOn counted

theorem counted_firstPass (member : field ∈ input.footerFields) :
    input.Counted field input.firstPass.sheets input.firstPass.rows := by
  have empty : input.Counted field {} [] := by
    constructor
    · exact fun index page standing => absurd standing (by simp)
    · exact fun absent => absurd rfl absent
    · exact fun record inside => absurd inside List.not_mem_nil
  rw [input.firstPass_eq]
  apply counted_finishPage
  exact (counted_kept member).printed (counted_startPage empty rfl)

/-! ## What the footer reads -/

/-- The footer of a closed page reads the totals the page closed with, and no page has a
footer before it closes. -/
structure FooterRead (precomputed : PrecomputedAggregates)
    (sheets : Sheets Row Text Figure) : Prop where
  closed : ∀ page ∈ sheets.closed, ∀ primitive ∈ page.primitives,
    primitive.band = .PAGE_FOOTER → ∃ openGroups,
      input.PageDrawn precomputed openGroups page.totals .PAGE_FOOTER primitive
  current : ∀ page, sheets.current = some page → ∀ primitive ∈ page.primitives,
    primitive.band ≠ .PAGE_FOOTER

theorem footerRead_finishPage (read : input.FooterRead precomputed sheets) :
    input.FooterRead precomputed (input.finishPage precomputed openGroups sheets) := by
  cases current : sheets.current with
  | none => rwa [input.finishPage_of_none precomputed openGroups current]
  | some page =>
      obtain ⟨footer, asDrawn, finished⟩ :=
        input.finishPage_of_page precomputed openGroups current
      rw [finished]
      constructor
      · intro closed member primitive inside isFooter
        rcases List.mem_append.mp member with old | new
        · exact read.closed closed old primitive inside isFooter
        · rw [List.mem_singleton.mp new] at inside ⊢
          rcases List.mem_append.mp inside with before | drawn
          · exact absurd isFooter (read.current page current primitive before)
          · exact ⟨openGroups, asDrawn primitive drawn⟩
      · exact fun page present => absurd present (by simp)

theorem footerRead_startPage (read : input.FooterRead precomputed sheets) :
    input.FooterRead precomputed (input.startPage precomputed openGroups sheets) := by
  rcases input.startPage_opens precomputed openGroups sheets with
    same | ⟨header, numberingStart, asDrawn, _, started⟩
  · rwa [same]
  · rw [started]
    constructor
    · exact read.closed
    · intro page present primitive inside
      cases present
      rw [(asDrawn primitive inside).band_eq]
      decide

theorem footerRead_step (step : input.Step precomputed openGroups band context before after)
    (read : input.FooterRead precomputed before) : input.FooterRead precomputed after := by
  cases step with
  | push body primitive asDrawn =>
      cases current : before.current with
      | none => rwa [Sheets.push_of_none current]
      | some page =>
          rw [Sheets.push_of_page current]
          constructor
          · exact read.closed
          · intro page' present other inside
            cases present
            rcases List.mem_append.mp inside with old | new
            · exact read.current page current other old
            · rw [List.mem_singleton.mp new, asDrawn.band_eq]
              exact fun same => body (by rw [same]; decide)
  | move cursorMm => exact ⟨read.closed, read.current⟩
  | restart asked => exact ⟨read.closed, read.current⟩
  | renumber page current =>
      constructor
      · exact read.closed
      · intro page' present
        cases present
        exact read.current page current
  | breakPage => exact footerRead_startPage (footerRead_finishPage read)

theorem footerRead_firstPass : input.FooterRead input.prePass input.firstPass.sheets := by
  have empty : input.FooterRead input.prePass {} := by
    constructor
    · exact fun page member => absurd member List.not_mem_nil
    · exact fun page present => absurd present (by simp)
  have kept : input.Kept input.prePass fun sheets _ => input.FooterRead input.prePass sheets :=
    ⟨footerRead_step, fun _ _ _ _ read => ⟨read.closed, read.current⟩⟩
  rw [input.firstPass_eq]
  apply footerRead_finishPage
  exact kept.printed (footerRead_startPage empty)

/-- A visible row whose band breaks no page is counted where it was printed, a hidden one is
printed nowhere. -/
theorem landed_firstPass : ∀ record ∈ input.firstPass.rows,
    input.evaluator.evaluateCondition record.band.visible record.context = true →
    input.bandRequestsPageBreak record.band record.context = false →
    record.drawnOn = record.countedOn := by
  have kept : input.Kept input.prePass fun _ rows => ∀ record ∈ rows,
      input.evaluator.evaluateCondition record.band.visible record.context = true →
      input.bandRequestsPageBreak record.band record.context = false →
      record.drawnOn = record.countedOn := by
    constructor
    · exact fun _ all => all
    · intro sheets rows details context drawnOn landed all record member visible stays
      rcases List.mem_append.mp member with old | new
      · exact all record old visible stays
      · rw [List.mem_singleton.mp new] at visible stays ⊢
        exact landed.visible visible stays
  exact kept.printed fun record member => absurd member List.not_mem_nil

variable (input)

/-! ## Page totals -/

/-- The footer of a page shows the totals of exactly the rows printed on it, and the sums of
all pages add up to the sum of the rows printed. -/
structure PageTotalsBelong : Prop where
  shown : ∀ index page, input.run[index]? = some page →
    ∀ text drawn, Primitive.text text drawn .PAGE_FOOTER ∈ page.primitives →
    ∀ aggregate, drawn.element.aggregate = some aggregate → aggregate.scope = .PAGE →
      input.Shows index text drawn (totalOf aggregate.fn
        (input.drawnValues input.firstPass.rows (drawn.element, aggregate) index))
  sums : ∀ field ∈ input.footerFields, field.2.fn = .sum →
    (input.run.map fun page => page.totals.read field.1.id .sum).sum =
      ((input.firstPass.rows.filter fun record =>
        input.feeds field record.dataset && record.drawnOn.isSome).map
        (input.valueOf field)).sum

/-- Every row that counts for the footer prints its band and breaks no page, and a total of
the footer that mentions the page is settled where it stays. -/
structure RowsStay : Prop where
  rows : ∀ record ∈ input.firstPass.rows,
    (∃ field ∈ input.footerFields, input.feeds field record.dataset = true) →
    input.evaluator.evaluateCondition record.band.visible record.context = true ∧
      input.bandRequestsPageBreak record.band record.context = false
  fields : ∀ index page, input.firstPass.sheets.closed[index]? = some page →
    ∀ text drawn, Primitive.text text drawn .PAGE_FOOTER ∈ page.primitives →
      input.printsOn input.firstPass.sheets.closed.length index .PAGE_FOOTER = true →
      ∀ aggregate, drawn.element.aggregate = some aggregate → aggregate.scope = .PAGE →
        dependsOnPage drawn.element.value = true → input.Settled index drawn

variable {input}

theorem RowsStay.drawnOn (stay : input.RowsStay) (member : field ∈ input.footerFields)
    {record : RowRecord Row} (printed : record ∈ input.firstPass.rows)
    (feeding : input.feeds field record.dataset = true) : record.drawnOn = record.countedOn := by
  obtain ⟨visible, stays⟩ := stay.rows record printed ⟨field, member, feeding⟩
  exact landed_firstPass record printed visible stays

theorem RowsStay.drawnValues_eq (stay : input.RowsStay) (member : field ∈ input.footerFields)
    (page : ℕ) : input.drawnValues input.firstPass.rows field page =
      input.countedValues input.firstPass.rows field page := by
  unfold drawnValues countedValues
  apply congrArg (List.map (input.valueOf field))
  apply List.filter_congr
  intro record printed
  by_cases feeding : input.feeds field record.dataset = true
  · rw [stay.drawnOn member printed feeding]
  · rw [Bool.not_eq_true] at feeding
    rw [feeding, Bool.false_and, Bool.false_and]

/-- The pages come out with the totals they closed with. -/
theorem run_totals (field : TextElement × Aggregate) (fn : AggregateFunction) :
    (input.run.map fun page => page.totals.read field.1.id fn) =
      input.firstPass.sheets.closed.map fun page => page.totals.read field.1.id fn := by
  rw [input.run_eq]
  unfold finalPages
  dsimp only
  apply List.ext_getElem?
  intro index
  rw [List.getElem?_map, List.getElem?_map, List.getElem?_mapIdx]
  cases input.firstPass.sheets.closed[index]? with
  | none => rfl
  | some page => rfl

theorem closed_totals (member : field ∈ input.footerFields) :
    (input.firstPass.sheets.closed.map fun page => page.totals.read field.1.id .sum) =
      (List.range input.firstPass.sheets.closed.length).map fun index =>
        (input.countedValues input.firstPass.rows field index).sum := by
  apply List.ext_getElem?
  intro index
  rw [List.getElem?_map, List.getElem?_map]
  cases standing : input.firstPass.sheets.closed[index]? with
  | none =>
      rw [List.getElem?_eq_none_iff] at standing
      rw [List.getElem?_eq_none_iff.mpr (by rwa [List.length_range])]
      rfl
  | some page =>
      have inside := (List.getElem?_eq_some_iff.mp standing).1
      rw [List.getElem?_range inside]
      have counted := (counted_firstPass member).closed index page standing
      simp only [Option.map_some]
      rw [Accumulators.read_eq, counted, ← totalOf_sum]
      rfl

theorem RowsStay.sums (stay : input.RowsStay) (member : field ∈ input.footerFields) :
    (input.run.map fun page => page.totals.read field.1.id .sum).sum =
      ((input.firstPass.rows.filter fun record =>
        input.feeds field record.dataset && record.drawnOn.isSome).map
        (input.valueOf field)).sum := by
  let printed := input.firstPass.rows.filter fun record =>
    input.feeds field record.dataset && record.drawnOn.isSome
  let pages := List.range input.firstPass.sheets.closed.length
  have distinct : (pages.map id).Nodup := by
    rw [List.map_id]
    exact List.nodup_range
  have owned : ∀ record ∈ printed, ∃ page ∈ pages, record.drawnOn = some (id page) := by
    intro record inside
    obtain ⟨old, both⟩ := List.mem_filter.mp inside
    rw [Bool.and_eq_true] at both
    obtain ⟨page, drawnOn⟩ := Option.isSome_iff_exists.mp both.2
    have countedOn := stay.drawnOn member old both.1
    have before := (counted_firstPass member).within record old page
      (by rw [← countedOn, drawnOn])
    rw [input.firstPass_pages] at before
    exact ⟨page, List.mem_range.mpr before, drawnOn⟩
  have each (page : ℕ) :
      (printed.filter fun record => record.drawnOn = some (id page)).map (input.valueOf field) =
        input.drawnValues input.firstPass.rows field page := by
    unfold drawnValues
    rw [List.filter_filter]
    apply congrArg (List.map (input.valueOf field))
    apply List.filter_congr
    intro record _
    by_cases here : record.drawnOn = some page
    · simp [here]
    · simp [here]
  rw [run_totals, closed_totals member, ListSum.sum_by_owner distinct (input.valueOf field) owned]
  apply congrArg List.sum
  apply List.map_congr_left
  intro page _
  rw [each, stay.drawnValues_eq member]

variable (input)

end LayoutInput

/-- A footer with the total of its page, and a hidden one with the page, under rows of 60 mm
each. -/
def pageTotalReport (elements : List Element)
    (uniqueIds : ((elements.map Element.id ++ ["total", "paged"]).Nodup)) (amounts : List Decimal) :
    LayoutInput Decimal String Unit :=
  amountReport
    [{ type := .DETAIL, heightMm := 60, dataset := some "items", elements := elements },
      { type := .PAGE_FOOTER, heightMm := 10, elements := [.text
        { id := "total"
          value := AMOUNT
          aggregate := some { fn := .sum, scope := .PAGE } }, .text
        { id := "paged"
          value := PAGE_TOTAL
          visible := some "false"
          aggregate := some { fn := .sum, scope := .PAGE } }] }]
    uniqueIds amounts

/-- Rows that fill a page each. -/
def filledPages : LayoutInput Decimal String Unit := pageTotalReport [] (by decide) [10, 20, 30]

/-- Rows that break the page themselves. -/
def brokenPages : LayoutInput Decimal String Unit :=
  pageTotalReport [.pageBreak "break" 0 none] (by decide) [10, 20]

/-- Whether a text of the footer is what the rows printed on its page come to. -/
def showsRows (input : LayoutInput Decimal String Unit) (index : ℕ) :
    Primitive Decimal String Unit → Bool
  | .text shown drawn .PAGE_FOOTER =>
      dependsOnPage drawn.element.value || drawn.element.aggregate.all fun aggregate =>
        aggregate.scope ≠ .PAGE || (input.buildTextElement drawn.element
          (totalOf aggregate.fn
            (input.drawnValues input.firstPass.rows (drawn.element, aggregate) index))
          drawn.context drawn.topMm drawn.stretchMm).all fun built => shown = built
  | _ => true

theorem showsRows_of_belong {input : LayoutInput Decimal String Unit}
    (belong : input.PageTotalsBelong) {index : ℕ} {page : LayoutPage Decimal String Unit}
    (standing : input.run[index]? = some page) {primitive : Primitive Decimal String Unit}
    (member : primitive ∈ page.primitives) : showsRows input index primitive = true := by
  unfold showsRows
  split
  · next shown drawn =>
      cases depends : dependsOnPage drawn.element.value with
      | true => rfl
      | false =>
          cases totals : drawn.element.aggregate with
          | none => rfl
          | some aggregate =>
              rw [Bool.false_or, Option.all_some]
              by_cases scope : aggregate.scope = .PAGE
              · have shows := belong.shown index page standing shown drawn member aggregate
                  totals scope
                unfold LayoutInput.Shows at shows
                dsimp only at shows
                rw [depends, if_neg Bool.false_ne_true] at shows
                split at shows
                · next built found =>
                    rw [found, Option.all_some, shows]
                    simp
                · next found =>
                    rw [found, Option.all_none, Bool.or_true]
              · simp [scope]
  · rfl

end ErpServer.Print
