import ErpServer.Print.Pages

/-!
# Where a band lands

What `emitBand` does with a band that holds no table, one decision after the other: a fresh
page if it asks for one, the page break if it does not fit, its primitives, the cursor, and the
page break it may hold.
-/

namespace ErpServer.Print

open Lib
open Receipt (Decimal)

variable {Row Text Figure : Type}

/-- The warning of a band that no page can hold. -/
structure BandTooTall where
  requiredMm : Decimal
  bodyHeightMm : Decimal
  deriving DecidableEq, Repr

namespace LayoutInput

variable (input : LayoutInput Row Text Figure)

/-- No band holds a table. -/
def NoCrosstab : Prop :=
  ∀ band ∈ input.template.bands, ∀ context cursorMm reserveMm,
    input.drawing.spread band context cursorMm reserveMm = none

/-- What `needsPageBreak` warns of: a band too tall for any page, met at the top of one. -/
def bandTooTall (sheets : Sheets Row Text Figure) (requiredMm : Decimal) : Option BandTooTall :=
  match sheets.current, input.bodyHeightMm with
  | some _, some bodyMm =>
      if bodyMm < requiredMm ∧ sheets.cursorMm = 0 then some ⟨requiredMm, bodyMm⟩ else none
  | _, _ => none

variable (emission : Emission Row Text Figure)

def shown : Bool :=
  input.evaluator.evaluateCondition emission.band.visible emission.context

def height : Decimal := input.drawing.bandHeight emission.band emission.context

/-- What a band needs of the page: its height, and what is to stay with it. -/
def required : Decimal := input.height emission + emission.reserveMm

/-- The sheets after a band got the fresh page it asked for. -/
def met : Sheets Row Text Figure :=
  input.startFreshPageIfAsked input.prePass emission.openGroups emission.band emission.sheets

/-- The sheets a band is drawn on. -/
def placed : Sheets Row Text Figure :=
  if input.needsPageBreak (input.met emission) (input.required emission) then
    input.breakPage input.prePass emission.openGroups (input.met emission)
  else input.met emission

def pageOf : ℕ := (input.placed emission).closed.length

/-- From the top of the body. -/
def topMm : Decimal := (input.placed emission).cursorMm

def bottomMm : Decimal := input.topMm emission + input.height emission

def drawn : List (Primitive Row Text Figure) :=
  input.bandPrimitives input.prePass emission.openGroups emission.band emission.context
    (input.bodyTopMm + input.topMm emission)
    (input.stretchOf emission.band (input.height emission))
    (input.drawing.flow emission.band emission.context) (input.placed emission).pageAggregates

/-- The band holds a page break. -/
def breaksAfter : Bool := input.bandRequestsPageBreak emission.band emission.context

/-- The sheets with the band on them. -/
def printedOn : Sheets Row Text Figure :=
  { (input.placed emission).pushAll (input.drawn emission) with
    cursorMm := input.bottomMm emission }

/-- The sheets as a band leaves them. -/
def left : Sheets Row Text Figure :=
  (input.emitBand input.prePass emission.openGroups emission.band emission.context
    emission.reserveMm emission.sheets).1

/-- A hidden band is no band at all. -/
theorem left_hidden {emission : Emission Row Text Figure}
    (hidden : input.shown emission = false) : input.left emission = emission.sheets := by
  rw [shown] at hidden
  rw [left, emitBand, hidden]
  rfl

theorem left_shown {emission : Emission Row Text Figure} (visible : input.shown emission = true)
    (noTable : ∀ context cursorMm reserveMm,
      input.drawing.spread emission.band context cursorMm reserveMm = none) :
    input.left emission =
      if input.breaksAfter emission then
        input.breakPage input.prePass emission.openGroups (input.printedOn emission)
      else input.printedOn emission := by
  have cursor (sheets : Sheets Row Text Figure) (primitives : List (Primitive Row Text Figure)) :
      (sheets.pushAll primitives).cursorMm = sheets.cursorMm := by
    cases current : sheets.current with
    | none => rw [Sheets.pushAll_of_none current]
    | some page => rw [Sheets.pushAll_of_page current]
  rw [shown] at visible
  rw [left, emitBand, visible, if_neg (by decide)]
  dsimp only
  rw [noTable]
  dsimp only
  rw [drawBandElements_eq, cursor]
  rfl

/-! ## Pages -/

section Pages

variable (openGroups : List OpenGroup) {sheets : Sheets Row Text Figure}
variable {page : LayoutPage Row Text Figure}

/-- A page closes with its footer, and while there is room the next opens with its header. -/
structure Broken (sheets : Sheets Row Text Figure) (page : LayoutPage Row Text Figure)
    (next : Sheets Row Text Figure) : Prop where
  closed : ∃ totals footerPrimitiveCount, next.closed = sheets.closed ++ [{ page with
    primitives := page.primitives ++ input.footerPrimitives input.prePass openGroups
      sheets.closed.length page.numberingStart sheets.pageAggregates
    footerPrimitiveCount := footerPrimitiveCount
    totals := totals }]
  opened : next.closed.length < MAX_PAGES → ∃ numberingStart headerPrimitiveCount,
    next.current = some
      { primitives := input.headerPrimitives input.prePass openGroups next.closed.length
          numberingStart
        numberingStart := numberingStart
        headerPrimitiveCount := headerPrimitiveCount }
  top : next.closed.length < MAX_PAGES → next.cursorMm = 0

theorem broken_of_page (current : sheets.current = some page) :
    input.Broken openGroups sheets page (input.breakPage input.prePass openGroups sheets) := by
  have closed := congrArg Sheets.closed (input.finishPage_eq input.prePass openGroups current)
  have none_open := input.finishPage_current input.prePass openGroups sheets
  rw [breakPage]
  generalize input.finishPage input.prePass openGroups sheets = finished at closed none_open
  have pages : finished.pages = finished.closed := Sheets.pages_of_none none_open
  by_cases room : finished.pages.length < MAX_PAGES
  · have opened := input.startPage_eq input.prePass openGroups room
    constructor
    · rw [opened]
      exact ⟨_, _, closed⟩
    · intro _
      rw [opened]
      exact ⟨_, _, rfl⟩
    · intro _
      rw [opened]
  · have stays : input.startPage input.prePass openGroups finished = finished :=
      if_pos (not_lt.mp room)
    rw [pages] at room
    constructor
    · rw [stays]
      exact ⟨_, _, closed⟩
    · intro below
      rw [stays] at below
      exact absurd below room
    · intro below
      rw [stays] at below
      exact absurd below room

end Pages

end LayoutInput

end ErpServer.Print

namespace ErpServer.Print

open Lib
open Receipt (Decimal)

/-! ## One band after another

The bands of a report as a run: each finds the sheets as the one before left them. -/

variable {Row Text Figure : Type}

namespace LayoutInput

variable (input : LayoutInput Row Text Figure)

/-- Each band finds the sheets as the one before left them, but for the totals that are
counted in between. -/
inductive Lays (first : Sheets Row Text Figure) :
    List (Emission Row Text Figure) → Sheets Row Text Figure → Prop where
  | start : Lays first [] first
  | counted {emissions : List (Emission Row Text Figure)} {sheets : Sheets Row Text Figure}
      (pageAggregates : Accumulators) (laid : Lays first emissions sheets) :
      Lays first emissions { sheets with pageAggregates := pageAggregates }
  | printed {emissions : List (Emission Row Text Figure)} (emission : Emission Row Text Figure)
      (declared : input.BodyBand emission.band) (reserves : input.Reserves emission)
      (laid : Lays first emissions emission.sheets) :
      Lays first (emissions ++ [emission]) (input.left emission)

theorem lays_traced (first : Sheets Row Text Figure) :
    input.Traced input.prePass fun emissions sheets _ => input.Lays first emissions sheets where
  printed := fun emission declared reserves laid => .printed emission declared reserves laid
  counted := fun _ _ _ _ laid => .counted _ laid

/-- The bands of a report are all it lays on its sheets. -/
theorem emissions_lays :
    input.Lays (input.startPage input.prePass [] {}) input.emissions input.printed.sheets :=
  (input.lays_traced _).emissions .start

end LayoutInput

end ErpServer.Print
