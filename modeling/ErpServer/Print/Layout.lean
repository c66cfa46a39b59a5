import ErpServer.Print.Template

/-!
# The layout engine

Totals first, then the bands one after another, page by page, and last the few texts that
need the page count.
-/

namespace ErpServer.Print

open Lib
open Receipt (Decimal)

def MAX_PAGES : ℕ := 2000

def MAX_DETAIL_ROWS : ℕ := 100000

def FLOW_EPSILON_MM : Decimal := 1 / 100

/-- A template with its data, and all that evaluates and draws it. -/
structure LayoutInput (Row Text Figure : Type) where
  template : Template
  datasets : String → List Row
  evaluator : Evaluator Row
  drawing : Drawing Row Text Figure

/-- A group whose footer is to come. -/
structure OpenGroup where
  level : ℕ
  key : String
  path : String
  rowCount : ℕ
  /-- The row the group opened with. -/
  firstRow : ℕ
  deriving DecidableEq, Repr

/-- What a text was drawn from, with the total its aggregate then came to, the groups then
open, and how many rows the page had then counted for it. -/
structure Drawn (Row : Type) where
  element : TextElement
  context : Context Row
  topMm : Decimal
  stretchMm : Decimal
  total : Decimal
  openGroups : List OpenGroup
  counted : ℕ

/-- What is on a page, with the kind of band that drew it. -/
inductive Primitive (Row Text Figure : Type) where
  | text (text : Text) (drawn : Drawn Row) (band : BandType)
  | figure (figure : Figure) (band : BandType)

def Primitive.band {Row Text Figure : Type} : Primitive Row Text Figure → BandType
  | text _ _ band => band
  | figure _ band => band

/-- A text whose value depends on the page total. -/
structure DeferredText (Row : Type) where
  pageIndex : ℕ
  primitiveIndex : ℕ
  drawn : Drawn Row

/-- A page, the page its numbering run started on, how much its header and footer drew,
and the totals its footer read when it closed. -/
structure LayoutPage (Row Text Figure : Type) where
  primitives : List (Primitive Row Text Figure) := []
  numberingStart : ℕ
  headerPrimitiveCount : ℕ := 0
  footerPrimitiveCount : ℕ := 0
  totals : Accumulators := OrderedMap.empty

/-- The pages that are closed, and the one being filled. -/
structure Sheets (Row Text Figure : Type) where
  closed : List (LayoutPage Row Text Figure) := []
  current : Option (LayoutPage Row Text Figure) := none
  cursorMm : Decimal := 0
  pageAggregates : Accumulators := OrderedMap.empty
  restartNumberingOnNextPage : Bool := false
  deferred : List (DeferredText Row) := []

def Sheets.pages {Row Text Figure : Type} (sheets : Sheets Row Text Figure) :
    List (LayoutPage Row Text Figure) :=
  sheets.closed ++ sheets.current.toList

/-- White space as `\s` and `trim` have it. -/
def isSpace (char : Char) : Bool :=
  let code := char.toNat
  (9 ≤ code && code ≤ 13) || code ∈ [32, 160, 5760, 8232, 8233, 8239, 8287, 12288, 65279] ||
    (8192 ≤ code && code ≤ 8202)

/-- Whether a character may be part of a word. -/
def isWord (char : Char) : Bool := char.isAlphanum || char = '_'

/-- `page`, any blanks, and a dot. -/
def startsPage : List Char → Bool
  | 'p' :: 'a' :: 'g' :: 'e' :: rest => (rest.dropWhile isSpace).head? = some '.'
  | _ => false

/-- `\bpage\s*\.` anywhere. -/
def mentionsPage (afterWord : Bool) : List Char → Bool
  | [] => false
  | char :: rest =>
      !afterWord && startsPage (char :: rest) || mentionsPage (isWord char) rest

/-- Two opening braces anywhere. -/
def hasExpression : List Char → Bool
  | '{' :: '{' :: _ => true
  | _ :: rest => hasExpression rest
  | [] => false

def dependsOnPage (template : String) : Bool :=
  hasExpression template.toList && mentionsPage false template.toList

/-- The second look a primitive asks for, if it is a text that depends on the page
total. -/
def deferral {Row Text Figure : Type} (pageIndex primitiveIndex : ℕ) :
    Primitive Row Text Figure → Option (DeferredText Row)
  | .text _ drawn _ =>
      if dependsOnPage drawn.element.value then some ⟨pageIndex, primitiveIndex, drawn⟩ else none
  | .figure _ _ => none

/-- Put a primitive on the page. -/
def Sheets.push {Row Text Figure : Type} (sheets : Sheets Row Text Figure)
    (primitive : Primitive Row Text Figure) : Sheets Row Text Figure :=
  match sheets.current with
  | none => sheets
  | some page =>
      { sheets with
        current := some { page with primitives := page.primitives ++ [primitive] }
        deferred := sheets.deferred ++
          (deferral sheets.closed.length page.primitives.length primitive).toList }

/-- What is left of a text when all but digits, dots and minus signs is dropped. -/
def numericPart (text : String) : List Char :=
  text.toList.filter fun char => char.isDigit || char = '.' || char = '-'

/-- Whether such a string reads as zero: nothing at all does, and so does a number whose
digits are all zero. -/
def readsAsZero (chars : List Char) : Bool :=
  let digits := if chars.head? = some '-' then chars.tail else chars
  chars.isEmpty || (digits.all fun char => char = '0' || char = '.') &&
    digits.contains '0' && digits.count '.' ≤ 1

/-- Blank, or numerically zero whatever the pattern rendered it as. -/
def isBlankZero (text : String) : Bool :=
  text.toList.all isSpace || readsAsZero (numericPart text)

namespace LayoutInput

variable {Row Text Figure : Type} (input : LayoutInput Row Text Figure)

def firstBand (type : BandType) : Option Band :=
  input.template.bands.find? fun band => band.type = type

/-! ## Geometry -/

def pageHeaderHeightMm : Decimal :=
  (input.firstBand .PAGE_HEADER).elim 0 fun band => input.drawing.bandHeight band rootContext

def pageFooterHeightMm : Decimal :=
  (input.firstBand .PAGE_FOOTER).elim 0 fun band => input.drawing.bandHeight band rootContext

/-- What is left of the page for the body, in lines or millimetres; on continuous
stationery there is no end to it. -/
def bodyHeightMm : Option Decimal :=
  let isGrid := input.template.layoutMode = .GRID
  let pageExtent := if isGrid then input.template.paper.rows.map Nat.cast
    else input.template.paper.heightMm
  let margins := if isGrid then 0
    else input.template.paper.marginTop + input.template.paper.marginBottom
  pageExtent.map fun pageExtent =>
    max (pageExtent - margins - input.pageHeaderHeightMm - input.pageFooterHeightMm) 1

def bodyTopMm : Decimal :=
  if input.template.layoutMode = .GRID then input.pageHeaderHeightMm
  else input.template.paper.marginTop + input.pageHeaderHeightMm

/-- How far a band grew past its design height. -/
def stretchOf (band : Band) (heightMm : Decimal) : Decimal :=
  if input.template.layoutMode = .GRID then 0
  else max 0 (heightMm - input.drawing.spacingMm band - band.heightMm)

/-! ## The text of an element -/

/-- Apply an element's own formatting to a total: whichever column the expression names,
it reads the total. -/
def formatAggregate (element : TextElement) (total : Decimal) (context : Context Row) : String :=
  input.evaluator.evaluateText element.value
    { context with row := .every total, aggValue := some total }

/-- A text element's value, or nothing to skip it. -/
def resolveTextValue (element : TextElement) (total : Decimal) (context : Context Row) :
    Option String :=
  match element.aggregate with
  | some _ =>
      if element.blankWhenZero ∧ total = 0 then none
      else some (input.formatAggregate element total context)
  | none =>
      let text := input.evaluator.evaluateText element.value context
      if element.blankWhenZero ∧ isBlankZero text then none else some text

/-- Markup applies to evaluated text only; an aggregate total is a number. -/
def usesMarkup (element : TextElement) : Bool := element.markup && element.aggregate.isNone

/-- One text element's primitive, or nothing. -/
def buildTextElement (element : TextElement) (total : Decimal) (context : Context Row)
    (bandTopMm stretchMm : Decimal) : Option Text :=
  if usesMarkup element then
    let runs := (input.drawing.parseMarkup element.value).map fun run =>
      input.evaluator.evaluateText run context
    let plain := String.join runs
    if element.blankWhenZero ∧ isBlankZero plain then none
    else if input.template.layoutMode = .GRID then
      some (input.drawing.plainText element context bandTopMm stretchMm plain)
    else
      some (input.drawing.richText element context bandTopMm stretchMm runs)
  else
    (input.resolveTextValue element total context).map
      (input.drawing.plainText element context bandTopMm stretchMm)

/-- What an aggregate has come to: the whole report, the page so far, or the innermost
open group. -/
def readAggregate (precomputed : PrecomputedAggregates) (pageAggregates : Accumulators)
    (openGroups : List OpenGroup) (element : TextElement) : Decimal :=
  match element.aggregate with
  | none => 0
  | some aggregate =>
      match aggregate.scope with
      | .REPORT => precomputed.readReport element.id aggregate.fn
      | .PAGE => pageAggregates.read element.id aggregate.fn
      | .GROUP =>
          match openGroups.getLast? with
          | some innermost => precomputed.readGroup innermost.path element.id aggregate.fn
          | none => 0

/-! ## Drawing -/

variable (precomputed : PrecomputedAggregates) (openGroups : List OpenGroup)

/-- Background, text and frame of a text element, or what any other element draws. -/
def elementPrimitives (band : BandType) (context : Context Row) (bandTopMm stretchMm : Decimal)
    (pageAggregates : Accumulators) : Element → List (Primitive Row Text Figure)
  | .pageBreak _ _ _ => []
  | .text element =>
      let total := readAggregate precomputed pageAggregates openGroups element
      let behind := input.drawing.background element context bandTopMm stretchMm
      let text := input.buildTextElement element total context bandTopMm stretchMm
      let frame := input.drawing.frame element context bandTopMm stretchMm
      (behind.map fun figure => .figure figure band) ++
        (text.toList.map fun text =>
          .text text ⟨element, context, bandTopMm, stretchMm, total, openGroups,
            (pageAggregates.at element.id).count⟩ band) ++
        frame.map fun figure => .figure figure band
  | .figure id y visible z =>
      (input.drawing.figures (.figure id y visible z) context bandTopMm stretchMm).map
        fun figure => .figure figure band

def drawElement (band : BandType) (context : Context Row) (bandTopMm stretchMm : Decimal)
    (sheets : Sheets Row Text Figure) (element : Element) : Sheets Row Text Figure :=
  (input.elementPrimitives precomputed openGroups band context bandTopMm stretchMm
    sheets.pageAggregates element).foldl Sheets.push sheets

def isVisible (context : Context Row) : Element → Bool
  | .text element => input.evaluator.evaluateCondition element.visible context
  | .pageBreak _ _ _ => false
  | .figure _ _ visible _ => input.evaluator.evaluateCondition visible context

/-- The elements of a band by z-order.  Those already placed are visible. -/
def drawBandElements (band : Band) (context : Context Row) (bandTopMm stretchMm : Decimal)
    (placed : Option (List Element)) (sheets : Sheets Row Text Figure) :
    Sheets Row Text Figure :=
  let elements := placed.getD (band.elements.filter (input.isVisible context))
  (elements.insertionSort fun left right => left.z ≤ right.z).foldl
    (input.drawElement precomputed openGroups band.type context bandTopMm stretchMm) sheets

/-! ## Pages -/

/-- `printOn` as far as it can be told before the report ends. -/
def shouldPrintOnPage (band : Band) (pageIndex : ℕ) : Bool :=
  match band.printOn with
  | .FIRST_PAGE => pageIndex = 0
  | .NOT_FIRST_PAGE => 0 < pageIndex
  | .LAST_PAGE | .NOT_LAST_PAGE | .ALL_PAGES => true

def pageContext (sheets : Sheets Row Text Figure) (page : LayoutPage Row Text Figure) :
    Context Row :=
  let index := sheets.closed.length
  { rootContext with
    page := ⟨index - page.numberingStart + 1, sheets.pages.length - page.numberingStart,
      index = page.numberingStart, false⟩ }

def startPage (sheets : Sheets Row Text Figure) : Sheets Row Text Figure :=
  if MAX_PAGES ≤ sheets.pages.length then
    sheets
  else
    let index := sheets.closed.length
    let numberingStart :=
      if index = 0 ∨ sheets.restartNumberingOnNextPage then index
      else (sheets.closed.getLast?.map LayoutPage.numberingStart).getD 0
    let page : LayoutPage Row Text Figure := { numberingStart := numberingStart }
    let opened : Sheets Row Text Figure :=
      { sheets with
        current := some page
        cursorMm := 0
        pageAggregates := OrderedMap.empty
        restartNumberingOnNextPage := false }
    match input.firstBand .PAGE_HEADER with
    | none => opened
    | some band =>
        if shouldPrintOnPage band index then
          let topMm := if input.template.layoutMode = .GRID then 0
            else input.template.paper.marginTop
          let drawn := input.drawBandElements precomputed openGroups band
            (pageContext opened page) topMm (input.stretchOf band input.pageHeaderHeightMm) none
            opened
          { drawn with
            current := drawn.current.map fun page =>
              { page with headerPrimitiveCount := page.primitives.length } }
        else opened

/-- Where the footer goes.  A page without an end has none, so neither has its body. -/
def footerTopMm : Decimal :=
  if input.template.layoutMode = .GRID then input.pageHeaderHeightMm + input.bodyHeightMm.getD 0
  else input.template.paper.heightMm.getD 0 - input.template.paper.marginBottom -
    input.pageFooterHeightMm

def drawFooter (sheets : Sheets Row Text Figure) (page : LayoutPage Row Text Figure) :
    Sheets Row Text Figure :=
  match input.firstBand .PAGE_FOOTER with
  | none => sheets
  | some band =>
      if shouldPrintOnPage band sheets.closed.length then
        input.drawBandElements precomputed openGroups band (pageContext sheets page)
          input.footerTopMm (input.stretchOf band input.pageFooterHeightMm) none sheets
      else sheets

/-- Close the page: only now are its totals complete, and only now is its footer drawn. -/
def finishPage (sheets : Sheets Row Text Figure) : Sheets Row Text Figure :=
  match sheets.current with
  | none => sheets
  | some page =>
      let drawn := input.drawFooter precomputed openGroups sheets page
      let close (last : LayoutPage Row Text Figure) : LayoutPage Row Text Figure :=
        { last with
          footerPrimitiveCount := last.primitives.length - page.primitives.length
          totals := sheets.pageAggregates }
      { drawn with
        closed := sheets.closed ++ (drawn.current.map close).toList
        current := none }

def breakPage (sheets : Sheets Row Text Figure) : Sheets Row Text Figure :=
  input.startPage precomputed openGroups (input.finishPage precomputed openGroups sheets)

/-- Put a band that asks for it at the top of a fresh page, unless the page is still
empty, and number the pages from there. -/
def startFreshPageIfAsked (band : Band) (sheets : Sheets Row Text Figure) :
    Sheets Row Text Figure :=
  match sheets.current with
  | none => sheets
  | some page =>
      if ¬band.startNewPage ∧ ¬band.startNewNumeration then
        sheets
      else if FLOW_EPSILON_MM < sheets.cursorMm then
        input.breakPage precomputed openGroups
          { sheets with restartNumberingOnNextPage := band.startNewNumeration }
      else if band.startNewNumeration then
        { sheets with current := some { page with numberingStart := sheets.closed.length } }
      else
        sheets

/-- A band taller than a whole page is placed at the top of one and overflows. -/
def needsPageBreak (sheets : Sheets Row Text Figure) (requiredMm : Decimal) : Bool :=
  match sheets.current, input.bodyHeightMm with
  | some _, some bodyMm =>
      if bodyMm < requiredMm then sheets.cursorMm ≠ 0
      else bodyMm + 1 / 1000 < sheets.cursorMm + requiredMm
  | _, _ => false

/-- A PAGEBREAK element takes effect after its band. -/
def bandRequestsPageBreak (band : Band) (context : Context Row) : Bool :=
  band.elements.any fun element =>
    match element with
    | .pageBreak _ _ when => input.evaluator.evaluateCondition when context
    | _ => false

def drawPiece (band : Band) (context : Context Row) (sheets : Sheets Row Text Figure) :
    Piece Figure → Sheets Row Text Figure
  | .pageBreak => input.breakPage precomputed openGroups sheets
  | .draw elements topMm =>
      input.drawBandElements precomputed openGroups band context topMm 0 (some elements) sheets
  | .figures figures =>
      (figures.map fun figure => .figure figure band.type).foldl Sheets.push sheets

/-- Print a band where the cursor stands, or on the next page, and tell which page that
was. -/
def emitBand (band : Band) (context : Context Row) (reserveMm : Decimal)
    (sheets : Sheets Row Text Figure) : Sheets Row Text Figure × Option ℕ :=
  if !input.evaluator.evaluateCondition band.visible context then
    (sheets, none)
  else
    let sheets := input.startFreshPageIfAsked precomputed openGroups band sheets
    match input.drawing.spread band context sheets.cursorMm reserveMm with
    | some (pieces, endMm) =>
        let drawn := pieces.foldl (input.drawPiece precomputed openGroups band context) sheets
        let drawn := { drawn with cursorMm := endMm }
        (if input.bandRequestsPageBreak band context then
          input.breakPage precomputed openGroups drawn else drawn, none)
    | none =>
        let heightMm := input.drawing.bandHeight band context
        let sheets := if input.needsPageBreak sheets (heightMm + reserveMm) then
          input.breakPage precomputed openGroups sheets else sheets
        let drawn := input.drawBandElements precomputed openGroups band context
          (input.bodyTopMm + sheets.cursorMm) (input.stretchOf band heightMm)
          (input.drawing.flow band context) sheets
        let printed := { drawn with cursorMm := drawn.cursorMm + heightMm }
        (if input.bandRequestsPageBreak band context then
          input.breakPage precomputed openGroups printed else printed,
        sheets.current.map fun _ => sheets.closed.length)

end LayoutInput

end ErpServer.Print
