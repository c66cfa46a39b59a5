import ErpServer.Print.Crosstab
import ErpServer.Print.Layout

/-!
# The plan of a crosstab

The label columns share the row header, and the data columns what is left of the element's
width.  At a fixed width whole leaves are cut; the totals columns never are.
-/

namespace ErpServer.Print

open Lib
open Receipt (Decimal)

/-! ## The columns -/

/-- One label column down the left edge. -/
structure PlannedRowColumn where
  xMm : Decimal
  wMm : Decimal
  label : String
  levelIndex : ℕ
  deriving DecidableEq

/-- A data column, or a totals column, which is of no leaf. -/
structure PlannedColumn where
  key : String
  label : String
  xMm : Decimal
  wMm : Decimal
  modelIndex : Option ℕ
  leafIndex : Option ℕ
  measureIndex : ℕ
  deriving DecidableEq

/-- The height of a line in the body font and in the header font. -/
structure CrosstabMeasurer where
  bodyLineMm : Decimal
  headerLineMm : Decimal

structure CrosstabPlan where
  element : CrosstabElement
  model : CrosstabModel
  rowHeaderWidthMm : Decimal
  rowColumns : List PlannedRowColumn
  columns : List PlannedColumn
  headerRowHeightMm : Decimal
  headerRowCount : ℕ
  headerHeightMm : Decimal
  rowHeightMm : Decimal
  totalsRowHeightMm : Decimal
  fullHeightMm : Decimal
  columnsCutForWidth : ℕ
  rowHeightMm_pos : 0 < rowHeightMm
  totalsRowHeightMm_nonneg : 0 ≤ totalsRowHeightMm

/-- Lay items of these widths side by side from here on. -/
def placeFrom {Item Placed : Type} (wMm : Item → Decimal) (place : Decimal → Item → Placed) :
    Decimal → List Item → List Placed
  | _, [] => []
  | cursorMm, item :: rest =>
      place cursorMm item :: placeFrom wMm place (cursorMm + wMm item) rest

/-! ## The label columns -/

section RowColumns

variable (axes : List CrosstabAxisLevel) (rowHeaderWidthMm : Decimal)

def fixedTotal : Decimal := (axes.map fun axis => max 0 axis.widthMm).sum

def sharers : ℕ := (axes.filter fun axis => axis.widthMm ≤ 0).length

/-- Fixed widths that overrun the row header are scaled down to it. -/
def rowScale : Decimal :=
  if rowHeaderWidthMm ≤ fixedTotal axes ∧ 0 < fixedTotal axes then
    rowHeaderWidthMm / fixedTotal axes
  else 1

def shareEach : Decimal :=
  if 0 < sharers axes ∧ fixedTotal axes < rowHeaderWidthMm then
    (rowHeaderWidthMm - fixedTotal axes) / sharers axes
  else 0

def rowColumnWidth (axis : CrosstabAxisLevel) : Decimal :=
  if 0 < axis.widthMm then axis.widthMm * rowScale axes rowHeaderWidthMm
  else shareEach axes rowHeaderWidthMm

def planRowColumns (cornerLabel : String) : List PlannedRowColumn :=
  placeFrom (fun entry => rowColumnWidth axes rowHeaderWidthMm entry.1)
    (fun cursorMm entry =>
      { xMm := cursorMm
        wMm := rowColumnWidth axes rowHeaderWidthMm entry.1
        label := if entry.2 = 0 then cornerLabel else entry.1.label
        levelIndex := entry.2 }) 0 axes.zipIdx

end RowColumns

/-! ## The data columns -/

section Plan

variable (element : CrosstabElement) (model : CrosstabModel)

/-- The row header leaves a millimetre of the element. -/
def rowHeaderOf : Decimal := min element.rowHeaderWidthMm (max 0 (element.w - 1))

def budgetOf : Decimal := max 0 (element.w - rowHeaderOf element)

def totalsSlots : ℕ := if element.showRowTotals then model.measures.length else 0

/-- How many slots of a fixed width the budget takes. -/
def slotsThatFit : ℤ := max 0 ⌊budgetOf element / element.columnWidthMm + 1 / 1000⌋

/-- The leaves that print, and the width of a slot. -/
def leavesThatPrint : ℕ :=
  if 0 < element.columnWidthMm then
    min model.leaves.length
      ((slotsThatFit element - totalsSlots element model) / model.measures.length).toNat
  else model.leaves.length

def slotWidth : Decimal :=
  if 0 < element.columnWidthMm then element.columnWidthMm
  else if 0 < model.leaves.length * model.measures.length + totalsSlots element model then
    budgetOf element / (model.leaves.length * model.measures.length + totalsSlots element model : ℕ)
  else budgetOf element

/-- A measure of a leaf, or of the totals. -/
structure ColumnSlot where
  leafIndex : Option ℕ
  measureIndex : ℕ

def dataSlots : List ColumnSlot :=
  (List.range (leavesThatPrint element model)).flatMap fun leafIndex =>
    (List.range model.measures.length).map fun measureIndex => ⟨some leafIndex, measureIndex⟩

def totalSlots : List ColumnSlot :=
  (List.range (totalsSlots element model)).map fun measureIndex => ⟨none, measureIndex⟩

def placeColumn (cursorMm : Decimal) (slot : ColumnSlot) : PlannedColumn :=
  let several := 1 < model.measures.length
  match slot.leafIndex with
  | some leafIndex =>
      let modelIndex := leafIndex * model.measures.length + slot.measureIndex
      let column := model.columns.getD modelIndex ⟨"", "", leafIndex, slot.measureIndex⟩
      { key := column.key
        label := column.label
        xMm := cursorMm
        wMm := slotWidth element model
        modelIndex := some modelIndex
        leafIndex := some leafIndex
        measureIndex := slot.measureIndex }
  | none =>
      { key := if several then suffixedKey CROSSTAB_TOTALS_KEY (toString slot.measureIndex)
          else CROSSTAB_TOTALS_KEY
        label := if several then ((model.measures.map (·.label)).getD slot.measureIndex "")
          else element.totalsLabel
        xMm := cursorMm
        wMm := slotWidth element model
        modelIndex := none
        leafIndex := none
        measureIndex := slot.measureIndex }

def planColumns : List PlannedColumn :=
  placeFrom (fun _ => slotWidth element model) (placeColumn element model)
    (rowHeaderOf element) (dataSlots element model ++ totalSlots element model)

end Plan

/-! ## The plan -/

/-- A row is as high as a line of its font at least. -/
def rowHeightOf (element : CrosstabElement) (measurer : CrosstabMeasurer) : Decimal :=
  max element.rowHeightMm measurer.bodyLineMm

def totalsRowHeightOf (element : CrosstabElement) (measurer : CrosstabMeasurer) : Decimal :=
  if element.showColumnTotals then rowHeightOf element measurer else 0

private theorem rowHeightOf_pos (element : CrosstabElement) (measurer : CrosstabMeasurer) :
    0 < rowHeightOf element measurer :=
  lt_max_of_lt_left element.rowHeightMm_pos

private theorem totalsRowHeightOf_nonneg (element : CrosstabElement)
    (measurer : CrosstabMeasurer) : 0 ≤ totalsRowHeightOf element measurer := by
  unfold totalsRowHeightOf
  split
  · exact (rowHeightOf_pos element measurer).le
  · exact le_rfl

/-- Fit the model into the element's width. -/
def planCrosstab (element : CrosstabElement) (model : CrosstabModel)
    (measurer : CrosstabMeasurer) : CrosstabPlan :=
  let headerRowHeightMm := max element.headerHeightMm measurer.headerLineMm
  let headerRowCount := model.columnAxes.length + if 1 < model.measures.length then 1 else 0
  let headerHeightMm := headerRowHeightMm * headerRowCount
  { element
    model
    rowHeaderWidthMm := rowHeaderOf element
    rowColumns := planRowColumns model.rowAxes (rowHeaderOf element) ""
    columns := planColumns element model
    headerRowHeightMm
    headerRowCount
    headerHeightMm
    rowHeightMm := rowHeightOf element measurer
    totalsRowHeightMm := totalsRowHeightOf element measurer
    fullHeightMm := headerHeightMm + model.rows.length * rowHeightOf element measurer +
      totalsRowHeightOf element measurer
    columnsCutForWidth := model.leaves.length - leavesThatPrint element model
    rowHeightMm_pos := rowHeightOf_pos element measurer
    totalsRowHeightMm_nonneg := totalsRowHeightOf_nonneg element measurer }

/-! ## A crosstab over pages

A band with one crosstab that does not fit is drawn slice by slice, a page each: as many rows
as fit under the header, and the totals row with the last of them if it fits there.  A page
that holds no row is broken once; where a fresh one holds none either a row is placed anyway. -/

/-! ## Slices -/

structure CrosstabSlice where
  fromRow : ℕ
  rowCount : ℕ
  withHeader : Bool
  withTotals : Bool
  heightMm : Decimal
  deriving DecidableEq

section Slice

variable (plan : CrosstabPlan)

def sliceHeaderMm (withHeader : Bool) : Decimal := if withHeader then plan.headerHeightMm else 0

/-- How many rows fit in what the header leaves. -/
def rowsThatFit (forRowsMm : Decimal) : ℤ :=
  if 0 < plan.rowHeightMm then ⌊forRowsMm / plan.rowHeightMm + 1 / 1000⌋ else 0

/-- The next page's worth of the table. -/
def sliceCrosstab (fromRow : ℕ) (availableMm : Decimal) (withHeader : Bool) : CrosstabSlice :=
  let remaining := plan.model.rows.length - fromRow
  let headerMm := sliceHeaderMm plan withHeader
  let rowCount := min remaining (rowsThatFit plan (availableMm - headerMm)).toNat
  let usedMm := headerMm + rowCount * plan.rowHeightMm
  let withTotals := decide (rowCount = remaining ∧ 0 < plan.totalsRowHeightMm ∧
    usedMm + plan.totalsRowHeightMm ≤ availableMm + 1 / 1000)
  { fromRow
    rowCount
    withHeader
    withTotals
    heightMm := usedMm + if withTotals then plan.totalsRowHeightMm else 0 }

/-- Every row and the totals row have been drawn. -/
def crosstabIsComplete (slice : CrosstabSlice) : Bool :=
  plan.model.rows.length ≤ slice.fromRow + slice.rowCount ∧
    (plan.totalsRowHeightMm = 0 ∨ slice.withTotals = true)

/-- The rows a slice draws. -/
def CrosstabSlice.rows (slice : CrosstabSlice) : List CrosstabModelRow :=
  (plan.model.rows.drop slice.fromRow).take slice.rowCount

end Slice

/-! ## Pages -/

/-- The body of every page. -/
structure PageBody where
  topMm : Decimal
  heightMm : Decimal

/-- A slice where it was drawn; one placed although it does not fit is announced. -/
structure DrawnSlice where
  topMm : Decimal
  slice : CrosstabSlice
  announced : Bool

/-- The variables of the loop, and how many pages the report has. -/
structure TableRun where
  pages : ℕ
  tableTopMm : Decimal
  fromRow : ℕ
  withHeader : Bool
  pagesBroken : ℕ

/-- How the loop ends. -/
inductive TableEnd where
  | complete
  /-- The report may have no more pages. -/
  | pageLimit
  | guard
  deriving DecidableEq, Repr

structure DrawnTable where
  slices : List DrawnSlice
  /-- The pages of the report. -/
  pages : ℕ
  ending : TableEnd

section Table

variable (plan : CrosstabPlan) (body : PageBody)

/-- Close the page and open another, unless there are too many. -/
def TableRun.breakPage (run : TableRun) : Option TableRun :=
  if MAX_PAGES ≤ run.pages then none
  else some
    { run with
      pages := run.pages + 1
      tableTopMm := body.topMm
      withHeader := plan.element.repeatHeader
      pagesBroken := run.pagesBroken + 1 }

/-- What is drawn on the page, if a row fits or the page is a fresh one. -/
def TableRun.draw (run : TableRun) : Option DrawnSlice :=
  let availableMm := body.topMm + body.heightMm - run.tableTopMm
  let slice := sliceCrosstab plan run.fromRow availableMm run.withHeader
  if slice.rowCount = 0 ∧ run.fromRow < plan.model.rows.length then
    if 0 < run.pagesBroken ∧ run.tableTopMm ≤ body.topMm + 1 / 1000 then
      some
        { topMm := run.tableTopMm
          slice := { slice with
            rowCount := 1
            heightMm := sliceHeaderMm plan run.withHeader + plan.rowHeightMm }
          announced := true }
    else none
  else some ⟨run.tableTopMm, slice, false⟩

/-- The run past what was drawn. -/
def TableRun.past (run : TableRun) (drawn : DrawnSlice) : TableRun :=
  { run with fromRow := drawn.slice.fromRow + drawn.slice.rowCount }

def DrawnTable.after (drawn : Option DrawnSlice) (rest : DrawnTable) : DrawnTable :=
  { rest with slices := drawn.toList ++ rest.slices }

/-- The loop over the pages, as long as the guard lets it. -/
def drawSlices : ℕ → TableRun → DrawnTable
  | 0, run => ⟨[], run.pages, .guard⟩
  | left + 1, run =>
      match run.draw plan body with
      | none =>
          match run.breakPage plan body with
          | none => ⟨[], run.pages, .pageLimit⟩
          | some next => drawSlices left next
      | some drawn =>
          if crosstabIsComplete plan drawn.slice then ⟨[drawn], run.pages, .complete⟩
          else
            match (run.past drawn).breakPage plan body with
            | none => ⟨[drawn], run.pages, .pageLimit⟩
            | some next => (drawSlices left next).after (some drawn)

end Table

/-! ## The band around the table -/

/-- The band the table stands in: where in it, and what the band keeps free below it. -/
structure CrosstabBand where
  offsetMm : Decimal
  reserveMm : Decimal
  heightMm : Decimal
  spacingMm : Decimal
  /-- Of a flow band, whether anything prints below the table. -/
  trailing : Option Bool
  requestsPageBreak : Bool

/-- Where the next band goes, if there is a page for it. -/
structure PagePosition where
  pages : ℕ
  cursorMm : Decimal
  pageOpen : Bool
  deriving DecidableEq

/-- Close the page and open another; past the limit none is open. -/
def PagePosition.breakPage (position : PagePosition) : PagePosition :=
  if MAX_PAGES ≤ position.pages then { position with pageOpen := false }
  else ⟨position.pages + 1, 0, true⟩

/-- The table of a band, and where the next one goes. -/
structure EmittedBand where
  table : DrawnTable
  position : PagePosition

section Band

variable (plan : CrosstabPlan) (body : PageBody) (band : CrosstabBand)

/-- Whether what is required goes to the next page.  What no page holds goes there too,
unless the page is still empty. -/
def tableNeedsPageBreak (cursorMm requiredMm : Decimal) : Bool :=
  if body.heightMm < requiredMm then cursorMm ≠ 0
  else body.heightMm + 1 / 1000 < cursorMm + requiredMm

/-- Where the table starts: here, or on the next page when the caption, its header and one
row do not fit. -/
def tableStart (pages : ℕ) (cursorMm : Decimal) : Option TableRun :=
  let requiredMm := band.offsetMm + plan.headerHeightMm + plan.rowHeightMm + band.reserveMm
  if tableNeedsPageBreak body cursorMm requiredMm then
    if MAX_PAGES ≤ pages then none
    else some ⟨pages + 1, body.topMm + band.offsetMm, 0, true, 0⟩
  else some ⟨pages, body.topMm + cursorMm + band.offsetMm, 0, true, 0⟩

def tableEndInBandMm : Decimal := band.offsetMm + plan.fullHeightMm

/-- The rest of a split flow band: what does not fit below the table moves to the next page
whole. -/
def finishFlowBandAfterTable (trailing : Bool) (pages : ℕ) (tableEndMm : Decimal) :
    PagePosition :=
  let originMm := tableEndMm - tableEndInBandMm plan band
  let tailFits := originMm + band.heightMm ≤ body.topMm + body.heightMm + 1 / 1000
  if trailing ∧ ¬tailFits then
    { PagePosition.breakPage ⟨pages, 0, true⟩ with
      cursorMm := max 0 (band.heightMm - tableEndInBandMm plan band) }
  else ⟨pages, max 0 (originMm + band.heightMm - body.topMm), true⟩

/-- The cursor below the table; where no page was broken a fixed band keeps its height. -/
def finishFixedBand (start : TableRun) (pages : ℕ) (tableEndMm : Decimal) : PagePosition :=
  let tableBottomMm := tableEndMm + band.spacingMm
  let bandTopMm := start.tableTopMm - band.offsetMm
  let bottomMm :=
    if pages = start.pages then max tableBottomMm (bandTopMm + band.heightMm)
    else tableBottomMm
  ⟨pages, max 0 (bottomMm - body.topMm), true⟩

def finishTable (start : TableRun) (pages : ℕ) (tableEndMm : Decimal) : PagePosition :=
  match band.trailing with
  | some trailing => finishFlowBandAfterTable plan body band trailing pages tableEndMm
  | none => finishFixedBand body band start pages tableEndMm

def finishBand (start : TableRun) (pages : ℕ) (tableEndMm : Decimal) : PagePosition :=
  if band.requestsPageBreak then (finishTable plan body band start pages tableEndMm).breakPage
  else finishTable plan body band start pages tableEndMm

/-- The end of the last slice. -/
def DrawnTable.endMm (table : DrawnTable) : Decimal :=
  (table.slices.getLast?.map fun drawn => drawn.topMm + drawn.slice.heightMm).getD 0

/-- Split the table of a band over the pages from here on. -/
def emitCrosstabBand (pages : ℕ) (cursorMm : Decimal) : EmittedBand :=
  match tableStart plan body band pages cursorMm with
  | none => ⟨⟨[], pages, .pageLimit⟩, ⟨pages, cursorMm, false⟩⟩
  | some start =>
      let table := drawSlices plan body (MAX_PAGES + 1) start
      let topMm := if table.pages = pages then cursorMm else 0
      match table.ending with
      | .complete => ⟨table, finishBand plan body band start table.pages table.endMm⟩
      | .pageLimit => ⟨table, ⟨table.pages, topMm, false⟩⟩
      | .guard => ⟨table, ⟨table.pages, topMm, true⟩⟩

end Band

end ErpServer.Print
