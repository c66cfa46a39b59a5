import ErpServer.Print.Layout
import ErpServer.Lib.ListSum

/-!
# A report

The repeating sections with their groups, the totals computed before the layout, the bands
in declaration order, and the second pass over what depends on the page count.
-/

namespace ErpServer.Print

open Lib
open Receipt (Decimal)

/-- One repeating section: its band, its rows, and the group bands of its dataset by
nesting level, the outermost first. -/
structure DetailSection (Row : Type) where
  band : Band
  dataset : String
  rows : List Row
  groupHeaders : List Band
  groupFooters : List Band
  groupBy : List (Option String)

/-- An aggregate with the dataset it totals. -/
structure AggregateElement where
  id : String
  value : String
  dataset : String
  deriving DecidableEq, Repr

/-- What happens to the groups of a section, with the groups open while the band of the
event is emitted. -/
inductive GroupEvent where
  | opened (group : OpenGroup) (openGroups : List OpenGroup)
  | closed (group : OpenGroup) (nextRow : ℕ) (openGroups : List OpenGroup)

/-- A row of a section: its band, what it was evaluated with, the page its band was printed
on, and the page it was counted on. -/
structure RowRecord (Row : Type) where
  band : Band
  dataset : String
  context : Context Row
  drawnOn : Option ℕ
  countedOn : Option ℕ

/-- The groups of a section as they opened and closed. -/
structure SectionRecord (Row : Type) where
  details : DetailSection Row
  events : List GroupEvent

/-- The layout so far. -/
structure LayoutRun (Row Text Figure : Type) where
  sheets : Sheets Row Text Figure := {}
  openGroups : List OpenGroup := []
  noDataEmitted : Bool := false
  events : List GroupEvent := []
  rows : List (RowRecord Row) := []
  records : List (SectionRecord Row) := []

/-- The dataset an aggregate says it totals, itself or through its band. -/
def Aggregate.source (aggregate : Aggregate) (band : Band) : Option String :=
  aggregate.dataset.or band.dataset

/-- The raw expression, or the value. -/
def TextElement.totalled (element : TextElement) (aggregate : Aggregate) : String :=
  aggregate.overExpression.getD element.value

/-- The fields of a band that total something. -/
def Band.aggregates (band : Band) : List (TextElement × Aggregate) :=
  band.elements.filterMap fun element =>
    match element with
    | .text element => element.aggregate.map fun aggregate => (element, aggregate)
    | _ => none

namespace LayoutInput

variable {Row Text Figure : Type} (input : LayoutInput Row Text Figure)

/-- The group bands of a dataset by level, a later one in place of an earlier, and no
holes. -/
def bandsByLevel (type : BandType) (dataset : String) : List Band :=
  let bands := input.template.bands.filter fun band =>
    band.type = type ∧ band.dataset = some dataset
  let levels := (bands.map Band.groupLevel).foldl max 0 + 1
  (List.range levels).filterMap fun level =>
    (bands.filter fun band => band.groupLevel = level).getLast?

def sectionOf (band : Band) : Option (DetailSection Row) :=
  if band.type = .DETAIL then
    band.dataset.map fun dataset =>
      let groupHeaders := input.bandsByLevel .GROUP_HEADER dataset
      let groupFooters := input.bandsByLevel .GROUP_FOOTER dataset
      { band := band
        dataset := dataset
        rows := (input.datasets dataset).take MAX_DETAIL_ROWS
        groupHeaders := groupHeaders
        groupFooters := groupFooters
        groupBy := (List.range (max groupHeaders.length groupFooters.length)).map fun level =>
          ((groupHeaders[level]?.bind Band.groupBy).or
            (groupFooters[level]?.bind Band.groupBy)) }
  else
    none

def collectDetailSections : List (DetailSection Row) :=
  input.template.bands.filterMap input.sectionOf

/-! ## Contexts -/

def currentPageDescriptor (sheets : Sheets Row Text Figure) : PageDescriptor :=
  let index := sheets.current.elim 0 fun _ => sheets.closed.length
  ⟨index + 1, sheets.pages.length, index = 0, false⟩

def rowContext (page : PageDescriptor) (openGroups : List OpenGroup) (row : Row)
    (index totalRows : ℕ) (keys : List String) : Context Row where
  row := .row row index totalRows
  group := ⟨keys.getLast?.getD "", keys.length - 1,
    (openGroups.getLast?.map OpenGroup.rowCount).getD 0, keys⟩
  page := page
  aggValue := none

def groupContext (page : PageDescriptor) (group : OpenGroup) : Context Row :=
  { rootContext with
    group := ⟨group.key, group.level, group.rowCount,
      group.path.splitOn (String.singleton GROUP_PATH_SEPARATOR)⟩
    page := page }

/-! ## Totals before the layout -/

/-- Every aggregate with the dataset it resolves to; one that could total several is left
out. -/
def collectAggregateElements : List AggregateElement :=
  let sectionDatasets := (input.collectDetailSections.map DetailSection.dataset).dedup
  let soleDataset := if sectionDatasets.length = 1 then sectionDatasets.head? else none
  input.template.bands.flatMap fun band =>
    band.aggregates.filterMap fun field =>
      ((field.2.source band).or soleDataset).map fun dataset =>
        ⟨field.1.id, field.1.totalled field.2, dataset⟩

/-- What the pre-pass evaluates a row with: no page is open yet, and no group. -/
def preContext (details : DetailSection Row) (row : Row) (index : ℕ) : Context Row :=
  rowContext ⟨1, 0, true, false⟩ [] row index details.rows.length []

/-- The group keys of a row, the outermost first. -/
def rowKeys (details : DetailSection Row) (row : Row) (index : ℕ) : List String :=
  details.groupBy.map fun expression =>
    expression.elim "" fun expression =>
      input.evaluator.evaluateText expression (preContext details row index)

/-- A value counts for the report, and for every group around it. -/
def addValue (keys : List String) (id : String) (value : Decimal)
    (aggregates : PrecomputedAggregates) : PrecomputedAggregates :=
  (List.range keys.length).foldl (fun aggregates level =>
    aggregates.addGroup (buildGroupPath (keys.take (level + 1))) id (some value))
    (aggregates.addReport id (some value))

def preRow (details : DetailSection Row) (aggregates : PrecomputedAggregates)
    (item : Row × ℕ) : PrecomputedAggregates :=
  let applicable := input.collectAggregateElements.filter fun element =>
    element.dataset = details.dataset
  applicable.foldl (fun aggregates element =>
    addValue (input.rowKeys details item.1 item.2) element.id
      (input.evaluator.evaluateNumber element.value (preContext details item.1 item.2))
      aggregates) aggregates

def prePass : PrecomputedAggregates :=
  input.collectDetailSections.foldl (fun aggregates details =>
    details.rows.zipIdx.foldl (input.preRow details) aggregates) .empty

/-! ## Sections -/

/-- The PAGE totals a section feeds. -/
def pageScopeElementsFor (details : DetailSection Row) : List (TextElement × Aggregate) :=
  input.template.bands.flatMap fun band =>
    band.aggregates.filter fun field =>
      field.2.scope = .PAGE ∧
        (field.2.source band = none ∨ field.2.source band = some details.dataset)

def accumulatePageAggregates (details : DetailSection Row) (context : Context Row)
    (pageAggregates : Accumulators) : Accumulators :=
  (input.pageScopeElementsFor details).foldl (fun pageAggregates field =>
    pageAggregates.add field.1.id
      (some (input.evaluator.evaluateNumber (field.1.totalled field.2) context))) pageAggregates

/-- The outermost level whose key changed. -/
def changedFrom (openGroups : List OpenGroup) (keys : List String) : ℕ :=
  ((List.range keys.length).find? fun level =>
    openGroups[level]?.map OpenGroup.key ≠ keys[level]?).getD keys.length

variable (precomputed : PrecomputedAggregates)

/-- Emit the group band of a level, where the template has one. -/
def emitGroupBand (bands : List Band) (level : ℕ) (context : Context Row)
    (run : LayoutRun Row Text Figure) : LayoutRun Row Text Figure :=
  match bands[level]? with
  | none => run
  | some band =>
      { run with
        sheets := (input.emitBand precomputed run.openGroups band context 0 run.sheets).1 }

/-- The footers from the innermost group out to a level. -/
def closeGroups (footers : List Band) (nextRow level : ℕ) :
    ℕ → LayoutRun Row Text Figure → LayoutRun Row Text Figure
  | 0, run => run
  | index + 1, run =>
      if index < level then run
      else
        match run.openGroups[index]? with
        | none => closeGroups footers nextRow level index run
        | some group =>
            closeGroups footers nextRow level index
              (input.emitGroupBand precomputed footers index
                (groupContext (currentPageDescriptor run.sheets) group)
                { run with events := run.events ++ [.closed group nextRow run.openGroups] })

/-- Only once every footer is out are the groups gone. -/
def closeGroupsFrom (footers : List Band) (nextRow level : ℕ)
    (run : LayoutRun Row Text Figure) : LayoutRun Row Text Figure :=
  let closed := input.closeGroups precomputed footers nextRow level run.openGroups.length run
  { closed with openGroups := closed.openGroups.take level }

/-- Open the group of one level, and emit its header with the keys down to it. -/
def openGroup (details : DetailSection Row) (keys : List String) (row : Row) (index : ℕ)
    (run : LayoutRun Row Text Figure) (level : ℕ) : LayoutRun Row Text Figure :=
  let inner := keys.take (level + 1)
  let group : OpenGroup := ⟨level, keys.getD level "", buildGroupPath inner, 0, index⟩
  let openGroups := run.openGroups.take level ++ [group]
  input.emitGroupBand precomputed details.groupHeaders level
    (rowContext (currentPageDescriptor run.sheets) openGroups row index details.rows.length inner)
    { run with
      openGroups := openGroups
      events := run.events ++ [.opened group openGroups] }

/-- Height of the footers that will close when the last row is placed. -/
def closingFootersHeight (openGroups : List OpenGroup) (footers : List Band)
    (context : Context Row) : Decimal :=
  openGroups.foldl (fun total group =>
    total + (footers[group.level]?).elim 0 fun band => input.drawing.bandHeight band context) 0

/-- What the last row keeps free below it, so that the summary stays with it. -/
def reserveMm (details : DetailSection Row) (openGroups : List OpenGroup)
    (context : Context Row) (isLastRow : Bool) : Decimal :=
  match input.firstBand .SUMMARY with
  | some summary =>
      if isLastRow ∧ summary.keepWithLastDetail then
        input.drawing.bandHeight summary rootContext +
          input.closingFootersHeight openGroups details.groupFooters context
      else 0
  | none => 0

/-- The groups that change before a row. -/
def breakGroups (details : DetailSection Row) (keys : List String) (row : Row) (index : ℕ)
    (run : LayoutRun Row Text Figure) : LayoutRun Row Text Figure :=
  let changed := changedFrom run.openGroups keys
  let closed := if changed < run.openGroups.length then
    input.closeGroupsFrom precomputed details.groupFooters index changed run else run
  (List.range' changed (keys.length - changed)).foldl
    (input.openGroup precomputed details keys row index) closed

/-- A row with the groups that change before it.  It counts for the page it left the
layout on. -/
def emitRow (details : DetailSection Row) (run : LayoutRun Row Text Figure)
    (item : Row × ℕ) : LayoutRun Row Text Figure :=
  let keys := input.rowKeys details item.1 item.2
  let broken := input.breakGroups precomputed details keys item.1 item.2 run
  let openGroups := broken.openGroups.map fun group =>
    { group with rowCount := group.rowCount + 1 }
  let context := rowContext (currentPageDescriptor broken.sheets) openGroups item.1 item.2
    details.rows.length keys
  let emitted := input.emitBand precomputed openGroups details.band context
    (input.reserveMm details openGroups context (item.2 + 1 = details.rows.length))
    broken.sheets
  { broken with
    sheets := { emitted.1 with
      pageAggregates := input.accumulatePageAggregates details context emitted.1.pageAggregates }
    openGroups := openGroups
    rows := broken.rows ++ [{
      band := details.band
      dataset := details.dataset
      context := context
      drawnOn := emitted.2
      countedOn := emitted.1.current.map fun _ => emitted.1.closed.length }] }

/-- One section from its first row to the footers after its last. -/
def emitDetailSection (details : DetailSection Row) (run : LayoutRun Row Text Figure) :
    LayoutRun Row Text Figure :=
  let rows := details.rows.zipIdx.foldl (input.emitRow precomputed details)
    { run with openGroups := [], events := [] }
  let closed := input.closeGroupsFrom precomputed details.groupFooters details.rows.length 0 rows
  { closed with records := closed.records ++ [⟨details, closed.events⟩] }

/-- A band in its place in the template.  Page and group bands are drawn by others. -/
def emitTemplateBand (run : LayoutRun Row Text Figure) (band : Band) :
    LayoutRun Row Text Figure :=
  match band.type with
  | .PAGE_HEADER | .PAGE_FOOTER | .GROUP_HEADER | .GROUP_FOOTER | .NO_DATA => run
  | .DETAIL =>
      match input.sectionOf band with
      | none => run
      | some details =>
          if details.rows ≠ [] then
            input.emitDetailSection precomputed details run
          else
            match run.noDataEmitted, input.firstBand .NO_DATA with
            | false, some noData =>
                { run with
                  sheets :=
                    (input.emitBand precomputed run.openGroups noData rootContext 0 run.sheets).1
                  noDataEmitted := true }
            | _, _ => run
  | .REPORT_HEADER | .SUMMARY | .REPORT_FOOTER =>
      { run with
        sheets := (input.emitBand precomputed run.openGroups band rootContext 0 run.sheets).1 }

/-- The first pass: every band, and every page closed. -/
def firstPass : LayoutRun Row Text Figure :=
  let started : LayoutRun Row Text Figure := { sheets := input.startPage input.prePass [] {} }
  let emitted := input.template.bands.foldl (input.emitTemplateBand input.prePass) started
  { emitted with sheets := input.finishPage input.prePass emitted.openGroups emitted.sheets }

/-! ## The second pass -/

/-- The last page of a numbering run. -/
def runEnd (pages : List (LayoutPage Row Text Figure)) (start : ℕ) : ℕ :=
  (pages.zipIdx.filter fun page => page.1.numberingStart = start).foldl
    (fun last page => max last page.2) start

/-- A page by its number in its run. -/
def finalDescriptor (pages : List (LayoutPage Row Text Figure)) (pageIndex : ℕ) :
    PageDescriptor :=
  let start := (pages[pageIndex]?.map LayoutPage.numberingStart).getD 0
  let last := runEnd pages start
  ⟨pageIndex - start + 1, last - start + 1, pageIndex = start, pageIndex = last⟩

/-- A text laid out again against the final page numbers.  The slot stays even when the
text now blanks. -/
def rebuild (run : LayoutRun Row Text Figure) (page : PageDescriptor) (drawn : Drawn Row) :
    Primitive Row Text Figure → Primitive Row Text Figure
  | .text existing origin band =>
      let total := readAggregate input.prePass run.sheets.pageAggregates run.openGroups
        drawn.element
      .text ((input.buildTextElement drawn.element total { drawn.context with page := page }
        drawn.topMm drawn.stretchMm).getD (input.drawing.blankText existing)) origin band
  | .figure figure band => .figure figure band

def resolveDeferred (run : LayoutRun Row Text Figure)
    (pages : List (LayoutPage Row Text Figure)) (entry : DeferredText Row) :
    List (LayoutPage Row Text Figure) :=
  pages.modify entry.pageIndex fun page =>
    { page with
      primitives := page.primitives.modify entry.primitiveIndex
        (input.rebuild run (finalDescriptor pages entry.pageIndex) entry.drawn) }

def suppressionNeeded (band : Option Band) (total pageIndex : ℕ) : Bool :=
  let isLast : Bool := pageIndex + 1 = total
  band.any fun band =>
    (band.printOn = .LAST_PAGE && !isLast) || (band.printOn = .NOT_LAST_PAGE && isLast)

/-- The footer drew at the back of the page, the header at its front. -/
def suppressLastPageBands (pages : List (LayoutPage Row Text Figure)) :
    List (LayoutPage Row Text Figure) :=
  pages.mapIdx fun index page =>
    let front :=
      if suppressionNeeded (input.firstBand .PAGE_FOOTER) pages.length index then
        page.primitives.take (page.primitives.length - page.footerPrimitiveCount)
      else page.primitives
    { page with
      primitives :=
        if suppressionNeeded (input.firstBand .PAGE_HEADER) pages.length index then
          front.drop page.headerPrimitiveCount
        else front }

def resolveDeferredText (run : LayoutRun Row Text Figure) : List (LayoutPage Row Text Figure) :=
  input.suppressLastPageBands
    (run.sheets.deferred.foldl (input.resolveDeferred run) run.sheets.closed)

/-- The pages of a report. -/
def run : List (LayoutPage Row Text Figure) := input.resolveDeferredText input.firstPass

end LayoutInput

end ErpServer.Print

namespace ErpServer.Print

open Lib
open Receipt (Decimal)

/-! ## Accumulators -/

def accumulatorOf (values : List Decimal) : Accumulator :=
  (values.map some).foldl accumulate emptyAccumulator

theorem readAccumulator_empty (fn : AggregateFunction) :
    readAccumulator (some emptyAccumulator) fn = 0 := by
  cases fn with
  | sum => rfl
  | count => exact Nat.cast_zero
  | avg => rfl
  | min => rfl
  | max => rfl

theorem readAccumulator_getD (accumulator : Option Accumulator) (fn : AggregateFunction) :
    readAccumulator accumulator fn =
      readAccumulator (some (accumulator.getD emptyAccumulator)) fn := by
  cases accumulator with
  | none => exact (readAccumulator_empty fn).symm
  | some accumulator => rfl

theorem Accumulators.read_eq (accumulators : Accumulators) (key : String)
    (fn : AggregateFunction) :
    accumulators.read key fn = readAccumulator (some (accumulators.at key)) fn :=
  readAccumulator_getD _ fn

theorem Accumulators.at_add (accumulators : Accumulators) (key other : String)
    (value : Option Decimal) :
    (accumulators.add key value).at other =
      if other = key then accumulate (accumulators.at key) value else accumulators.at other := by
  unfold Accumulators.add Accumulators.at
  rw [OrderedMap.get?_set]
  split
  · rfl
  · rfl

theorem accumulatorOf_concat (values : List Decimal) (value : Decimal) :
    accumulatorOf (values ++ [value]) = accumulate (accumulatorOf values) (some value) := by
  unfold accumulatorOf
  rw [List.map_append, List.foldl_append]
  rfl

/-- The sum of a total is the sum of its values. -/
theorem totalOf_sum (values : List Decimal) : totalOf .sum values = values.sum := by
  have folded (start : Accumulator) :
      ((values.map some).foldl accumulate start).sum = start.sum + values.sum := by
    induction values generalizing start with
    | nil => simp
    | cons value rest ih =>
        rw [List.map_cons, List.foldl_cons, ih, List.sum_cons, ← add_assoc]
        rfl
  exact (folded emptyAccumulator).trans (zero_add _)

/-! ## Fields -/

variable {field : TextElement × Aggregate}

theorem mem_aggregates {band : Band} : field ∈ band.aggregates ↔
      .text field.1 ∈ band.elements ∧ field.1.aggregate = some field.2 := by
  obtain ⟨element, aggregate⟩ := field
  unfold Band.aggregates
  rw [List.mem_filterMap]
  constructor
  · intro found
    obtain ⟨origin, member, totals⟩ := found
    cases origin with
    | pageBreak id z when => simp at totals
    | figure id y visible z => simp at totals
    | text other =>
        obtain ⟨totals', named, same⟩ := Option.map_eq_some_iff.mp totals
        obtain ⟨rfl, rfl⟩ := Prod.mk.injEq .. ▸ same
        exact ⟨member, named⟩
  · intro found
    refine ⟨.text element, found.1, ?_⟩
    have totals : element.aggregate = some aggregate := found.2
    simp [totals]

theorem sublist_aggregates (band : Band) :
    (band.aggregates.map fun field => field.1.id).Sublist (band.elements.map Element.id) := by
  unfold Band.aggregates
  induction band.elements with
  | nil => exact List.Sublist.slnil
  | cons element rest ih =>
      cases element with
      | pageBreak id z when => exact ih.cons _
      | figure id y visible z => exact ih.cons _
      | text element =>
          cases totals : element.aggregate with
          | none =>
              rw [List.filterMap_cons_none (by simp [totals])]
              exact ih.cons _
          | some aggregate =>
              rw [@List.filterMap_cons_some _ _ _ _ _ (element, aggregate) (by simp [totals])]
              exact ih.cons_cons _

theorem sublist_flatMap {α β : Type} {items : List α} {small large : α → List β}
    (within : ∀ item ∈ items, (small item).Sublist (large item)) :
    (items.flatMap small).Sublist (items.flatMap large) := by
  induction items with
  | nil => exact List.Sublist.slnil
  | cons item rest ih =>
      rw [List.flatMap_cons, List.flatMap_cons]
      exact (within item List.mem_cons_self).append
        (ih fun other member => within other (List.mem_cons_of_mem item member))

/-- The ids of fields picked from the bands of a template are all different. -/
theorem Template.fields_nodup (template : Template)
    (pick : Band → TextElement × Aggregate → Bool) :
    ((template.bands.flatMap fun band => band.aggregates.filter (pick band)).map
      fun field => field.1.id).Nodup := by
  apply List.Sublist.nodup _ template.uniqueIds
  rw [List.map_flatMap]
  apply sublist_flatMap
  intro band _
  exact (List.filter_sublist.map _).trans (sublist_aggregates band)

/-- A field belongs to one band, and its id to one field. -/
theorem Template.field_unique (template : Template) {left right : Band}
    (leftMem : left ∈ template.bands) (rightMem : right ∈ template.bands)
    {other : TextElement × Aggregate} (found : field ∈ left.aggregates)
    (otherFound : other ∈ right.aggregates) (same : field.1.id = other.1.id) :
    left = right ∧ field = other := by
  have unique := List.nodup_flatMap.mp template.uniqueIds
  have present := mem_aggregates.mp found
  have otherPresent := mem_aggregates.mp otherFound
  have bands : left = right := by
    by_contra different
    have symmetric : Std.Symm (Function.onFun List.Disjoint fun band : Band =>
        band.elements.map Element.id) := ⟨fun _ _ disjoint => disjoint.symm⟩
    have apart := unique.2.forall leftMem rightMem different
    apply apart (List.mem_map_of_mem present.1)
    have id : Element.id (.text field.1) = Element.id (.text other.1) := same
    rw [id]
    exact List.mem_map_of_mem otherPresent.1
  subst bands
  have elements := List.inj_on_of_nodup_map (unique.1 left leftMem) present.1 otherPresent.1 same
  have elements : field.1 = other.1 := Element.text.inj elements
  have totals : field.2 = other.2 := by
    rw [← Option.some.injEq, ← present.2, ← otherPresent.2, elements]
  exact ⟨rfl, Prod.ext elements totals⟩

section AddAll

variable (value : TextElement × Aggregate → Decimal)

/-- Every field adds its value to its own accumulator. -/
def addAll (fields : List (TextElement × Aggregate)) (accumulators : Accumulators) :
    Accumulators :=
  fields.foldl (fun accumulators field => accumulators.add field.1.id (some (value field)))
    accumulators

variable {fields : List (TextElement × Aggregate)}

theorem at_addAll_other {key : String} (other : ∀ field ∈ fields, field.1.id ≠ key)
    (accumulators : Accumulators) :
    (addAll value fields accumulators).at key = accumulators.at key := by
  induction fields generalizing accumulators with
  | nil => rfl
  | cons field rest ih =>
      have later := ih (fun other' member => other other' (List.mem_cons_of_mem field member))
        (accumulators.add field.1.id (some (value field)))
      have different : key ≠ field.1.id := fun same => other field List.mem_cons_self same.symm
      rw [Accumulators.at_add, if_neg different] at later
      exact later

theorem at_addAll_mem (distinct : (fields.map fun field => field.1.id).Nodup)
    {field : TextElement × Aggregate} (member : field ∈ fields) (accumulators : Accumulators) :
    (addAll value fields accumulators).at field.1.id =
      accumulate (accumulators.at field.1.id) (some (value field)) := by
  induction fields generalizing accumulators with
  | nil => exact absurd member List.not_mem_nil
  | cons first rest ih =>
      rw [List.map_cons, List.nodup_cons] at distinct
      rcases List.mem_cons.mp member with rfl | later
      · have alone : ∀ other ∈ rest, other.1.id ≠ field.1.id := by
          intro other inside same
          exact distinct.1 (List.mem_map.mpr ⟨other, inside, same⟩)
        have added := at_addAll_other value alone
          (accumulators.add field.1.id (some (value field)))
        rw [Accumulators.at_add, if_pos rfl] at added
        exact added
      · have different : field.1.id ≠ first.1.id := by
          intro same
          exact distinct.1 (List.mem_map.mpr ⟨field, later, same⟩)
        have added := ih distinct.2 later (accumulators.add first.1.id (some (value first)))
        rw [Accumulators.at_add, if_neg different] at added
        exact added

end AddAll

end ErpServer.Print
