import ErpServer.Receipt.Types

/-!
# Report templates

The bands and elements of a print template, the context an expression sees, and what the
layout asks of the evaluator, the measurer and the shapes.
-/

namespace ErpServer.Print

open Receipt (Decimal)

inductive LayoutMode where
  | GRAPHIC
  | GRID
  deriving DecidableEq, Repr

inductive BandType where
  | REPORT_HEADER
  | PAGE_HEADER
  | GROUP_HEADER
  | DETAIL
  | GROUP_FOOTER
  | SUMMARY
  | PAGE_FOOTER
  | REPORT_FOOTER
  | NO_DATA
  deriving DecidableEq, Repr

/-- The bands a crosstab may sit in: the ones that appear at most once. -/
def CROSSTAB_BANDS : List BandType := [.REPORT_HEADER, .SUMMARY, .REPORT_FOOTER, .NO_DATA]

inductive PrintOn where
  | ALL_PAGES
  | FIRST_PAGE
  | LAST_PAGE
  | NOT_FIRST_PAGE
  | NOT_LAST_PAGE
  deriving DecidableEq, Repr

inductive AggregateFunction where
  | sum
  | count
  | avg
  | min
  | max
  deriving DecidableEq, Repr

inductive AggregateScope where
  | GROUP
  | PAGE
  | REPORT
  deriving DecidableEq, Repr

/-- What a FIELD totals: `over`, or the value itself where it is absent. -/
structure Aggregate where
  fn : AggregateFunction
  scope : AggregateScope
  dataset : Option String := none
  overExpression : Option String := none

/-- A TEXT or a FIELD; only a FIELD has an aggregate. -/
structure TextElement where
  id : String
  value : String
  y : Decimal := 0
  visible : Option String := none
  z : ℕ := 0
  aggregate : Option Aggregate := none
  blankWhenZero : Bool := false
  markup : Bool := false

/-- An element: text, a page break, or anything else that draws. -/
inductive Element where
  | text (element : TextElement)
  | pageBreak (id : String) (z : ℕ) (when : Option String)
  | figure (id : String) (y : Decimal) (visible : Option String) (z : ℕ)

def Element.z : Element → ℕ
  | text element => element.z
  | pageBreak _ z _ => z
  | figure _ _ _ z => z

def Element.id : Element → String
  | text element => element.id
  | pageBreak id _ _ => id
  | figure id _ _ _ => id

/-- A band of the template. -/
structure Band where
  type : BandType
  heightMm : Decimal := 0
  dataset : Option String := none
  groupBy : Option String := none
  groupLevel : ℕ := 0
  printOn : PrintOn := .ALL_PAGES
  visible : Option String := none
  keepWithLastDetail : Bool := false
  startNewPage : Bool := false
  startNewNumeration : Bool := false
  elements : List Element := []

/-- The band has the text, wherever it is moved to. -/
def Band.Has (band : Band) (element : TextElement) : Prop :=
  ∃ y, .text { element with y } ∈ band.elements

structure Paper where
  heightMm : Option Decimal
  rows : Option ℕ
  marginTop : Decimal
  marginBottom : Decimal

/-- A template as the schema lets it in: no two elements share an id. -/
structure Template where
  layoutMode : LayoutMode
  paper : Paper
  bands : List Band
  uniqueIds : (bands.flatMap fun band => band.elements.map Element.id).Nodup

/-! ## What an expression sees -/

/-- The `row` of a context: none, a row of the dataset, or a total under every name. -/
inductive RowValue (Row : Type) where
  | none
  | row (value : Row) (index totalRows : ℕ)
  | every (total : Decimal)
  deriving DecidableEq, Repr

structure GroupDescriptor where
  key : String
  level : ℕ
  count : ℕ
  keys : List String

structure PageDescriptor where
  number : ℕ
  total : ℕ
  isFirst : Bool
  isLast : Bool

/-- The parts of a context that change.  The datasets, `ctx` and `sys` do not. -/
structure Context (Row : Type) where
  row : RowValue Row
  group : GroupDescriptor
  page : PageDescriptor
  aggValue : Option Decimal

def rootContext {Row : Type} : Context Row where
  row := .none
  group := ⟨"", 0, 0, []⟩
  page := ⟨1, 1, true, true⟩
  aggValue := none

/-- What the layout asks of the expression evaluator. -/
structure Evaluator (Row : Type) where
  evaluateText : String → Context Row → String
  evaluateNumber : String → Context Row → Decimal
  evaluateCondition : Option String → Context Row → Bool

/-! ## What draws itself -/

/-- A piece of a band that is split over several pages. -/
inductive Piece (Figure : Type) where
  | pageBreak
  | draw (elements : List Element) (topMm : Decimal)
  | figures (figures : List Figure)

/-- What the layout asks of the measurer and the shapes: how tall a band is, how a text
is set, and what every other element draws. -/
structure Drawing (Row Text Figure : Type) where
  bandHeight : Band → Context Row → Decimal
  spacingMm : Band → Decimal
  /-- Where the elements of a flow band print, the hidden ones left out. -/
  flow : Band → Context Row → Option (List Element)
  /-- A band whose table does not fit where the cursor stands, and where it ends. -/
  spread : Band → Context Row → Decimal → Decimal → Option (List (Piece Figure) × Decimal)
  /-- Only a band that appears at most once holds a table. -/
  spread_repeating : ∀ band context cursorMm reserveMm, band.type ∉ CROSSTAB_BANDS →
    spread band context cursorMm reserveMm = none
  /-- Neither draws a text the band does not have. -/
  flow_has : ∀ band context elements, flow band context = some elements →
    ∀ element, .text element ∈ elements → band.Has element
  spread_has : ∀ band context cursorMm reserveMm pieces endMm,
    spread band context cursorMm reserveMm = some (pieces, endMm) →
    ∀ elements topMm, .draw elements topMm ∈ pieces →
      ∀ element, .text element ∈ elements → band.Has element
  parseMarkup : String → List String
  /-- A text set in its box, with the look the context gives it. -/
  plainText : TextElement → Context Row → Decimal → Decimal → String → Text
  /-- The same for runs of markup. -/
  richText : TextElement → Context Row → Decimal → Decimal → List String → Text
  /-- The same box with nothing in it. -/
  blankText : Text → Text
  /-- What a text draws behind itself, and its frame. -/
  background : TextElement → Context Row → Decimal → Decimal → List Figure
  frame : TextElement → Context Row → Decimal → Decimal → List Figure
  /-- What any other element draws. -/
  figures : Element → Context Row → Decimal → Decimal → List Figure

/-! ## Aggregate accumulation

REPORT and GROUP totals are computed before the layout, PAGE totals as it goes.  `count`
counts rows; `avg` divides by the values that are not null. -/

open Lib

/-- A total in the making. -/
structure Accumulator where
  sum : Decimal
  count : ℕ
  valueCount : ℕ
  min : Option Decimal
  max : Option Decimal
  deriving DecidableEq, Repr

def emptyAccumulator : Accumulator := ⟨0, 0, 0, none, none⟩

def accumulate (accumulator : Accumulator) (value : Option Decimal) : Accumulator :=
  match value with
  | none => { accumulator with count := accumulator.count + 1 }
  | some value =>
      { sum := accumulator.sum + value
        count := accumulator.count + 1
        valueCount := accumulator.valueCount + 1
        min := some (match accumulator.min with
          | none => value
          | some least => Min.min least value)
        max := some (match accumulator.max with
          | none => value
          | some most => Max.max most value) }

def readAccumulator (accumulator : Option Accumulator) (fn : AggregateFunction) : Decimal :=
  match accumulator with
  | none => 0
  | some accumulator =>
      match fn with
      | .sum => accumulator.sum
      | .count => accumulator.count
      | .avg =>
          if accumulator.valueCount = 0 then 0 else accumulator.sum / accumulator.valueCount
      | .min => accumulator.min.getD 0
      | .max => accumulator.max.getD 0

/-- Accumulators by the id of the element they total. -/
abbrev Accumulators := OrderedMap String Accumulator

def Accumulators.add (accumulators : Accumulators) (key : String) (value : Option Decimal) :
    Accumulators :=
  accumulators.set key (accumulate ((accumulators.get? key).getD emptyAccumulator) value)

def Accumulators.read (accumulators : Accumulators) (key : String) (fn : AggregateFunction) :
    Decimal :=
  readAccumulator (accumulators.get? key) fn

/-- What is accumulated under a key so far. -/
def Accumulators.at (accumulators : Accumulators) (key : String) : Accumulator :=
  (accumulators.get? key).getD emptyAccumulator

/-- REPORT totals, and GROUP totals by the path of the group. -/
structure PrecomputedAggregates where
  report : Accumulators
  groups : OrderedMap String Accumulators

namespace PrecomputedAggregates

def empty : PrecomputedAggregates := ⟨OrderedMap.empty, OrderedMap.empty⟩

def addReport (aggregates : PrecomputedAggregates) (key : String) (value : Option Decimal) :
    PrecomputedAggregates :=
  { aggregates with report := aggregates.report.add key value }

def addGroup (aggregates : PrecomputedAggregates) (groupPath key : String)
    (value : Option Decimal) : PrecomputedAggregates :=
  { aggregates with
    groups := aggregates.groups.set groupPath
      (((aggregates.groups.get? groupPath).getD OrderedMap.empty).add key value) }

def readReport (aggregates : PrecomputedAggregates) (key : String) (fn : AggregateFunction) :
    Decimal :=
  aggregates.report.read key fn

def readGroup (aggregates : PrecomputedAggregates) (groupPath key : String)
    (fn : AggregateFunction) : Decimal :=
  readAccumulator ((aggregates.groups.get? groupPath).bind fun bucket => bucket.get? key) fn

end PrecomputedAggregates

/-- The unit separator: group keys are data, and any printable character may be in one. -/
def GROUP_PATH_SEPARATOR : Char := '\u001f'

def buildGroupPath (keys : List String) : String :=
  (String.singleton GROUP_PATH_SEPARATOR).intercalate keys

/-! ## Totals of a list of values -/

/-- The total of some values, one after another. -/
def totalOf (fn : AggregateFunction) (values : List Decimal) : Decimal :=
  readAccumulator (some ((values.map some).foldl accumulate emptyAccumulator)) fn

end ErpServer.Print
