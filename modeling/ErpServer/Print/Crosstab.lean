import ErpServer.Print.Template

/-!
# The crosstab

A pivot table whose rows, columns and measures are each a list.  One pass over the dataset
accumulates a cell for every combination of labels it meets; the totals, the subtotals and
the folded column are aggregated again from those cells, never from what is printed.
-/

namespace ErpServer.Print

open Lib
open Receipt (Decimal)

/-! ## The element -/

inductive CrosstabSort where
  | LABEL_ASC
  | LABEL_DESC
  | VALUE_DESC
  | VALUE_ASC
  | FIRST_SEEN
  deriving DecidableEq, Repr

inductive CrosstabOverflow where
  | FOLD
  | CLIP
  deriving DecidableEq, Repr

/-- One level of a row or column axis. -/
structure CrosstabAxisLevel where
  expression : String
  label : String
  widthMm : Decimal
  widthMm_nonneg : 0 ≤ widthMm
  deriving DecidableEq

/-- One value column. -/
structure CrosstabMeasureSpec where
  expression : String
  label : String
  fn : AggregateFunction
  format : String
  blankWhenZero : Bool
  deriving DecidableEq, Repr

structure CrosstabElement where
  id : String
  w : Decimal
  rowBy : String
  columnBy : String
  measure : String
  fn : AggregateFunction
  format : String
  blankWhenZero : Bool
  measureLabel : String
  extraRowBys : List CrosstabAxisLevel
  extraColumnBys : List CrosstabAxisLevel
  extraMeasures : List CrosstabMeasureSpec
  rowHeaderWidthMm : Decimal
  columnWidthMm : Decimal
  headerHeightMm : Decimal
  rowHeightMm : Decimal
  showRowTotals : Bool
  showColumnTotals : Bool
  totalsLabel : String
  rowSort : CrosstabSort
  columnSort : CrosstabSort
  maxColumns : ℕ
  overflow : CrosstabOverflow
  overflowLabel : String
  showSubtotals : Bool
  subtotalLabel : String
  repeatHeader : Bool
  w_pos : 0 < w
  rowHeaderWidthMm_nonneg : 0 ≤ rowHeaderWidthMm
  columnWidthMm_nonneg : 0 ≤ columnWidthMm
  headerHeightMm_nonneg : 0 ≤ headerHeightMm
  rowHeightMm_pos : 0 < rowHeightMm
  maxColumns_pos : 0 < maxColumns
  deriving DecidableEq

/-- The row axis as a list: `rowBy` first, `extraRowBys` after it. -/
def crosstabRowAxes (element : CrosstabElement) : List CrosstabAxisLevel :=
  ⟨element.rowBy, "", 0, le_rfl⟩ :: element.extraRowBys

def crosstabColumnAxes (element : CrosstabElement) : List CrosstabAxisLevel :=
  ⟨element.columnBy, "", 0, le_rfl⟩ :: element.extraColumnBys

def crosstabMeasures (element : CrosstabElement) : List CrosstabMeasureSpec :=
  ⟨element.measure, element.measureLabel, element.fn, element.format, element.blankWhenZero⟩ ::
    element.extraMeasures

/-! ## Keys -/

def CROSSTAB_FOLD_KEY : String := "\x1fcrosstab-fold"

def CROSSTAB_TOTALS_KEY : String := "\x1fcrosstab-total"

def CROSSTAB_SUBTOTAL_KEY : String := "\x1fcrosstab-subtotal"

/-- The record separator: no label of a dataset has one. -/
def LEVEL_SEPARATOR : Char := '\u001e'

def joinKey (labels : List String) : String :=
  (String.singleton LEVEL_SEPARATOR).intercalate labels

/-- A key and what tells its parts or its measures apart. -/
def suffixedKey (key suffix : String) : String :=
  key ++ String.singleton LEVEL_SEPARATOR ++ suffix

/-! ## Reading the source rows -/

/-- Evaluates the expressions against a source row.  A number that is not finite is none. -/
structure CrosstabRowReader (Row : Type) where
  text : String → Row → ℕ → ℕ → String
  number : String → Row → ℕ → ℕ → Option Decimal

/-- What the crosstab reads of a source row: a label a level, a value a measure. -/
structure CrosstabSource where
  rowLevels : List String
  columnLevels : List String
  values : List (Option Decimal)
  deriving DecidableEq, Repr

namespace CrosstabSource

def rowKey (source : CrosstabSource) : String := joinKey source.rowLevels

def leafKey (source : CrosstabSource) : String := joinKey source.columnLevels

end CrosstabSource

def readSource {Row : Type} (element : CrosstabElement) (reader : CrosstabRowReader Row)
    (total : ℕ) (item : Row × ℕ) : CrosstabSource where
  rowLevels :=
    (crosstabRowAxes element).map fun axis => reader.text axis.expression item.1 item.2 total
  columnLevels :=
    (crosstabColumnAxes element).map fun axis => reader.text axis.expression item.1 item.2 total
  values := (crosstabMeasures element).map fun measure =>
    reader.number measure.expression item.1 item.2 total

def crosstabSources {Row : Type} (element : CrosstabElement) (rows : List Row)
    (reader : CrosstabRowReader Row) : List CrosstabSource :=
  rows.zipIdx.map (readSource element reader rows.length)

/-! ## The cells -/

/-- An accumulator a measure for every combination of labels met so far, and the labels in
the order they were met. -/
structure Pivot where
  cells : OrderedMap String (OrderedMap String (List Accumulator))
  rowLabels : OrderedMap String (List String)
  leafLabels : OrderedMap String (List String)
  rowOrder : List String
  leafOrder : List String

namespace Pivot

def empty : Pivot := ⟨.empty, .empty, .empty, [], []⟩

/-- The accumulators of one combination, if a row had it. -/
def cell (pivot : Pivot) (rowKey leafKey : String) : Option (List Accumulator) :=
  (pivot.cells.get? rowKey).bind fun byLeaf => byLeaf.get? leafKey

def add (pivot : Pivot) (source : CrosstabSource) : Pivot :=
  let byLeaf := (pivot.cells.get? source.rowKey).getD .empty
  let accumulators :=
    (byLeaf.get? source.leafKey).getD (source.values.map fun _ => emptyAccumulator)
  { cells := pivot.cells.set source.rowKey
      (byLeaf.set source.leafKey (accumulators.zipWith accumulate source.values))
    rowLabels :=
      if pivot.rowLabels.has source.rowKey then pivot.rowLabels
      else pivot.rowLabels.set source.rowKey source.rowLevels
    leafLabels :=
      if pivot.leafLabels.has source.leafKey then pivot.leafLabels
      else pivot.leafLabels.set source.leafKey source.columnLevels
    rowOrder :=
      if pivot.rowLabels.has source.rowKey then pivot.rowOrder
      else pivot.rowOrder ++ [source.rowKey]
    leafOrder :=
      if pivot.leafLabels.has source.leafKey then pivot.leafOrder
      else pivot.leafOrder ++ [source.leafKey] }

end Pivot

def pivotOf (sources : List CrosstabSource) : Pivot := sources.foldl Pivot.add .empty

/-! ## Nested sorting -/

structure SortEntry where
  key : String
  labels : List String
  firstSeen : ℕ
  weight : Decimal
  deriving DecidableEq, Repr

/-- A group of entries that share their labels down to a level. -/
structure SortNode where
  label : String
  firstSeen : ℕ
  weight : Decimal
  deriving DecidableEq, Repr

/-- The weight of a group is the sum of its entries', its position the earliest of theirs. -/
def sortNode (group : String × List SortEntry) : SortNode where
  label := group.1
  firstSeen := ((group.2.map (·.firstSeen)).min?).getD 0
  weight := (group.2.map (·.weight)).sum

section Sorting

variable (collate : String → String → Ordering)

def compareNodes (sort : CrosstabSort) (left right : SortNode) : Ordering :=
  match sort with
  | .LABEL_ASC => collate left.label right.label
  | .LABEL_DESC => collate right.label left.label
  | .VALUE_DESC => compare right.weight left.weight
  | .VALUE_ASC => compare left.weight right.weight
  | .FIRST_SEEN => compare left.firstSeen right.firstSeen

/-- The children of a node in order, those that compare equal as they were met. -/
def sortSiblings (sort : CrosstabSort) (groups : List (String × List SortEntry)) :
    List (String × List SortEntry) :=
  groups.insertionSort fun left right =>
    compareNodes collate sort (sortNode left) (sortNode right) ≠ .gt

def labelAt (level : ℕ) (entry : SortEntry) : String := entry.labels.getD level ""

/-- Each level's siblings are sorted among themselves.  Every entry of an axis has one label
a level, so the entries are the leaves of the tree. -/
def sortNested (levels : ℕ) (entries : List SortEntry) (sort : CrosstabSort) : List SortEntry :=
  Nested.arranged (sortSiblings collate sort) labelAt levels 0 entries

end Sorting

/-! ## Aggregating again -/

def mergeAccumulator (into source : Accumulator) : Accumulator where
  sum := into.sum + source.sum
  count := into.count + source.count
  valueCount := into.valueCount + source.valueCount
  min := match source.min with
    | none => into.min
    | some least => some (match into.min with
      | none => least
      | some held => Min.min held least)
  max := match source.max with
    | none => into.max
    | some most => some (match into.max with
      | none => most
      | some held => Max.max held most)

/-- One measure of some combinations aggregated again; none of them met is none. -/
def mergeCells (fn : AggregateFunction) (measureIndex : ℕ)
    (cells : List (Option (List Accumulator))) : Option Decimal :=
  match cells.reduceOption with
  | [] => none
  | found => some (readAccumulator (some (found.foldl
      (fun merged cell => mergeAccumulator merged (cell.getD measureIndex emptyAccumulator))
      emptyAccumulator)) fn)

/-! ## The model -/

/-- A leaf of the column header tree. -/
structure CrosstabLeafColumn where
  key : String
  labels : List String
  label : String
  deriving DecidableEq, Repr

/-- A leaf crossed with a measure. -/
structure CrosstabColumn where
  key : String
  label : String
  leafIndex : ℕ
  measureIndex : ℕ
  deriving DecidableEq, Repr

structure CrosstabModelRow where
  key : String
  labels : List String
  label : String
  values : List (Option Decimal)
  totals : List (Option Decimal)
  total : Option Decimal
  subtotal : Bool
  deriving DecidableEq, Repr

structure CrosstabModel where
  rowAxes : List CrosstabAxisLevel
  columnAxes : List CrosstabAxisLevel
  measures : List CrosstabMeasureSpec
  leaves : List CrosstabLeafColumn
  columns : List CrosstabColumn
  rows : List CrosstabModelRow
  columnTotals : List (Option Decimal)
  grandTotals : List (Option Decimal)
  grandTotal : Option Decimal
  sourceRows : ℕ
  droppedColumns : ℕ
  deriving DecidableEq

section Build

variable (collate : String → String → Ordering) (element : CrosstabElement) (pivot : Pivot)

/-- A measure by its index; there is always a first one. -/
def measureFn (measureIndex : ℕ) : AggregateFunction :=
  ((crosstabMeasures element).map (·.fn)).getD measureIndex element.fn

/-- What a leaf weighs: its own total across the rows, read through the first measure. -/
def leafWeight (leafKey : String) : Decimal :=
  readAccumulator (some ((pivot.cells.values.filterMap fun byLeaf =>
    (byLeaf.get? leafKey).map fun cell =>
      readAccumulator (some (cell.getD 0 emptyAccumulator)) (measureFn element 0)).foldl
        (fun column value => accumulate column (some value)) emptyAccumulator)) .sum

def allLeaves : List SortEntry :=
  sortNested collate (crosstabColumnAxes element).length
    (pivot.leafOrder.zipIdx.map fun entry =>
      { key := entry.1
        labels := (pivot.leafLabels.get? entry.1).getD [entry.1]
        firstSeen := entry.2
        weight := leafWeight element pivot entry.1 })
    element.columnSort

def keptLeaves : List SortEntry := (allLeaves collate element pivot).take element.maxColumns

def foldedLeaves : List SortEntry := (allLeaves collate element pivot).drop element.maxColumns

/-- The folded column carries its label at the outermost level and blanks below. -/
def foldLeaf : Option CrosstabLeafColumn :=
  if foldedLeaves collate element pivot ≠ [] ∧ element.overflow = .FOLD then
    some
      { key := CROSSTAB_FOLD_KEY
        labels := (crosstabColumnAxes element).mapIdx fun level _ =>
          if level = 0 then element.overflowLabel else ""
        label := element.overflowLabel }
  else none

def crosstabLeaves : List CrosstabLeafColumn :=
  ((keptLeaves collate element pivot).map fun entry =>
    ⟨entry.key, entry.labels, entry.labels.getLast?.getD ""⟩) ++
      (foldLeaf collate element pivot).toList

/-- `leaves x measures`, flattened. -/
def crosstabColumns (leaves : List CrosstabLeafColumn) : List CrosstabColumn :=
  leaves.zipIdx.flatMap fun leaf => (crosstabMeasures element).zipIdx.map fun measure =>
    { key :=
        if 1 < (crosstabMeasures element).length then suffixedKey leaf.1.key (toString measure.2)
        else leaf.1.key
      label := if 1 < (crosstabMeasures element).length then measure.1.label else leaf.1.label
      leafIndex := leaf.2
      measureIndex := measure.2 }

/-- The leaves a total is allowed to cover. -/
def printableLeaves : List SortEntry :=
  match element.overflow with
  | .FOLD => allLeaves collate element pivot
  | .CLIP => keptLeaves collate element pivot

def readCell (rowKey : String) (leaf : CrosstabLeafColumn) (measureIndex : ℕ) : Option Decimal :=
  if leaf.key = CROSSTAB_FOLD_KEY then
    mergeCells (measureFn element measureIndex) measureIndex
      ((foldedLeaves collate element pivot).map fun entry => pivot.cell rowKey entry.key)
  else (pivot.cell rowKey leaf.key).map fun cell =>
    readAccumulator (some (cell.getD measureIndex emptyAccumulator))
      (measureFn element measureIndex)

def rowTotalOf (rowKey : String) (measureIndex : ℕ) : Option Decimal :=
  mergeCells (measureFn element measureIndex) measureIndex
    ((printableLeaves collate element pivot).map fun entry => pivot.cell rowKey entry.key)

def sortedRows : List SortEntry :=
  sortNested collate (crosstabRowAxes element).length
    (pivot.rowOrder.zipIdx.map fun entry =>
      { key := entry.1
        labels := (pivot.rowLabels.get? entry.1).getD [entry.1]
        firstSeen := entry.2
        weight := (rowTotalOf collate element pivot entry.1 0).getD 0 })
    element.rowSort

def measureIndexes : List ℕ := List.range (crosstabMeasures element).length

/-- A column's leaf. -/
def leafOf (leaves : List CrosstabLeafColumn) (column : CrosstabColumn) : CrosstabLeafColumn :=
  leaves.getD column.leafIndex ⟨"", [], ""⟩

def modelRow (entry : SortEntry) : CrosstabModelRow :=
  let leaves := crosstabLeaves collate element pivot
  let totals := (measureIndexes element).map (rowTotalOf collate element pivot entry.key)
  { key := entry.key
    labels := entry.labels
    label := entry.labels.head?.getD ""
    values := (crosstabColumns element leaves).map fun column =>
      readCell collate element pivot entry.key (leafOf leaves column) column.measureIndex
    totals
    total := totals.head?.getD none
    subtotal := false }

def modelRows : List CrosstabModelRow :=
  (sortedRows collate element pivot).map (modelRow collate element pivot)

def groupValue (rowKeys leafKeys : List String) (measureIndex : ℕ) : Option Decimal :=
  mergeCells (measureFn element measureIndex) measureIndex
    (rowKeys.flatMap fun rowKey => leafKeys.map fun leafKey => pivot.cell rowKey leafKey)

def leafKeysOf (leaf : CrosstabLeafColumn) : List String :=
  if leaf.key = CROSSTAB_FOLD_KEY then (foldedLeaves collate element pivot).map (·.key)
  else [leaf.key]

def subtotalOf (outer : String) (rowKeys : List String) : CrosstabModelRow :=
  let leaves := crosstabLeaves collate element pivot
  let totals := (measureIndexes element).map
    (groupValue element pivot rowKeys ((printableLeaves collate element pivot).map (·.key)))
  { key := suffixedKey CROSSTAB_SUBTOTAL_KEY outer
    labels := (crosstabRowAxes element).mapIdx fun level _ =>
      if level = 0 then outer else if level = 1 then element.subtotalLabel else ""
    label := outer
    values := (crosstabColumns element leaves).map fun column =>
      groupValue element pivot rowKeys
        (leafKeysOf collate element pivot (leafOf leaves column)) column.measureIndex
    totals
    total := totals.head?.getD none
    subtotal := true }

/-- The rows so far, and the group that is open: its label and its rows' keys. -/
structure SubtotalRun where
  out : List CrosstabModelRow
  openGroup : Option (String × List String)

/-- A row, after the subtotal of the group it closes. -/
def SubtotalRun.next (run : SubtotalRun) (row : CrosstabModelRow) : SubtotalRun :=
  let label := row.labels.head?.getD ""
  match run.openGroup with
  | none => ⟨run.out ++ [row], some (label, [row.key])⟩
  | some (outer, keys) =>
      if row.labels.head? ≠ some outer then
        ⟨run.out ++ [subtotalOf collate element pivot outer keys, row], some (label, [row.key])⟩
      else ⟨run.out ++ [row], some (label, keys ++ [row.key])⟩

def SubtotalRun.close (run : SubtotalRun) : List CrosstabModelRow :=
  match run.openGroup with
  | none => run.out
  | some (outer, keys) => run.out ++ [subtotalOf collate element pivot outer keys]

/-- One subtotal row after each outer group. -/
def rowsWithSubtotals : List CrosstabModelRow :=
  if element.showSubtotals ∧ 1 < (crosstabRowAxes element).length then
    ((modelRows collate element pivot).foldl (SubtotalRun.next collate element pivot)
      ⟨[], none⟩).close collate element pivot
  else []

def columnTotal (leaf : CrosstabLeafColumn) (measureIndex : ℕ) : Option Decimal :=
  mergeCells (measureFn element measureIndex) measureIndex
    (pivot.rowOrder.flatMap fun rowKey =>
      if leaf.key = CROSSTAB_FOLD_KEY then
        (foldedLeaves collate element pivot).map fun entry => pivot.cell rowKey entry.key
      else [pivot.cell rowKey leaf.key])

def grandTotal (measureIndex : ℕ) : Option Decimal :=
  mergeCells (measureFn element measureIndex) measureIndex
    (pivot.cells.values.flatMap fun byLeaf => (byLeaf.entries.filter fun entry =>
      entry.1 ∈ (printableLeaves collate element pivot).map (·.key)).map fun entry => some entry.2)

end Build

def buildCrosstabModel {Row : Type} (collate : String → String → Ordering)
    (element : CrosstabElement) (rows : List Row) (reader : CrosstabRowReader Row) :
    CrosstabModel :=
  let pivot := pivotOf (crosstabSources element rows reader)
  let leaves := crosstabLeaves collate element pivot
  let columns := crosstabColumns element leaves
  let subtotalled := rowsWithSubtotals collate element pivot
  let grandTotals := (measureIndexes element).map (grandTotal collate element pivot)
  { rowAxes := crosstabRowAxes element
    columnAxes := crosstabColumnAxes element
    measures := crosstabMeasures element
    leaves
    columns
    rows := if 0 < subtotalled.length then subtotalled else modelRows collate element pivot
    columnTotals := columns.map fun column =>
      columnTotal collate element pivot (leafOf leaves column) column.measureIndex
    grandTotals
    grandTotal := grandTotals.head?.getD none
    sourceRows := rows.length
    droppedColumns := match element.overflow with
      | .FOLD => 0
      | .CLIP => (foldedLeaves collate element pivot).length }

end ErpServer.Print
