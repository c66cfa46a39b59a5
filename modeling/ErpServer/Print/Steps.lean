import Mathlib.Logic.Relation
import ErpServer.Print.Report

/-!
# What printing does to the sheets

Every band comes down to pushing primitives, moving the cursor and breaking pages.  Whatever
each of these keeps, the whole report keeps.
-/

namespace ErpServer.Print

open Lib
open Receipt (Decimal)

variable {Row Text Figure : Type}

/-! ## Pushing -/

/-- The second looks asked for by primitives that stand from an index on. -/
def deferrals (pageIndex : ℕ) (primitives : List (Primitive Row Text Figure)) (start : ℕ) :
    List (DeferredText Row) :=
  (primitives.zipIdx start).filterMap fun item => deferral pageIndex item.2 item.1

theorem deferrals_append (pageIndex : ℕ) (front back : List (Primitive Row Text Figure))
    (start : ℕ) :
    deferrals pageIndex (front ++ back) start =
      deferrals pageIndex front start ++ deferrals pageIndex back (start + front.length) := by
  unfold deferrals
  rw [List.zipIdx_append, List.filterMap_append]

theorem deferrals_singleton (pageIndex : ℕ) (primitive : Primitive Row Text Figure)
    (start : ℕ) :
    deferrals pageIndex [primitive] start = (deferral pageIndex start primitive).toList := by
  cases found : deferral pageIndex start primitive with
  | none => simp [deferrals, found]
  | some entry => simp [deferrals, found]

/-- Some primitives on top of a page. -/
def Sheets.pushAll (sheets : Sheets Row Text Figure)
    (primitives : List (Primitive Row Text Figure)) : Sheets Row Text Figure :=
  primitives.foldl Sheets.push sheets

@[simp] theorem Sheets.pushAll_nil (sheets : Sheets Row Text Figure) :
    sheets.pushAll [] = sheets := rfl

theorem Sheets.pushAll_append (sheets : Sheets Row Text Figure)
    (front back : List (Primitive Row Text Figure)) :
    sheets.pushAll (front ++ back) = (sheets.pushAll front).pushAll back :=
  List.foldl_append

variable {sheets : Sheets Row Text Figure}

variable {page : LayoutPage Row Text Figure}

theorem Sheets.push_of_page (current : sheets.current = some page)
    (primitive : Primitive Row Text Figure) : sheets.push primitive =
      { sheets with
        current := some { page with primitives := page.primitives ++ [primitive] }
        deferred := sheets.deferred ++
          deferrals sheets.closed.length [primitive] page.primitives.length } := by
  rw [deferrals_singleton]
  simp only [Sheets.push, current]

theorem Sheets.push_of_none (current : sheets.current = none)
    (primitive : Primitive Row Text Figure) : sheets.push primitive = sheets := by
  simp only [Sheets.push, current]

theorem Sheets.pushAll_of_none (current : sheets.current = none)
    (primitives : List (Primitive Row Text Figure)) : sheets.pushAll primitives = sheets := by
  induction primitives with
  | nil => rfl
  | cons primitive rest ih =>
      change (sheets.push primitive).pushAll rest = sheets
      rw [Sheets.push_of_none current]
      exact ih

/-- A page gets its primitives in order, and the second looks come with them. -/
theorem Sheets.pushAll_of_page (current : sheets.current = some page)
    (primitives : List (Primitive Row Text Figure)) : sheets.pushAll primitives =
      { sheets with
        current := some { page with primitives := page.primitives ++ primitives }
        deferred := sheets.deferred ++
          deferrals sheets.closed.length primitives page.primitives.length } := by
  induction primitives generalizing sheets page with
  | nil =>
      simp only [Sheets.pushAll_nil, List.append_nil, deferrals, List.zipIdx_nil,
        List.filterMap_nil]
      rw [← current]
  | cons primitive rest ih =>
      change (sheets.push primitive).pushAll rest = _
      rw [Sheets.push_of_page current primitive, ih rfl]
      have split := deferrals_append sheets.closed.length [primitive] rest
        page.primitives.length
      simp only [List.append_assoc, List.singleton_append, List.length_append,
        List.length_singleton] at split ⊢
      rw [split]

@[simp] theorem Sheets.push_pageAggregates (sheets : Sheets Row Text Figure)
    (primitive : Primitive Row Text Figure) :
    (sheets.push primitive).pageAggregates = sheets.pageAggregates := by
  unfold Sheets.push
  split
  · rfl
  · rfl

@[simp] theorem Sheets.pushAll_pageAggregates (sheets : Sheets Row Text Figure)
    (primitives : List (Primitive Row Text Figure)) :
    (sheets.pushAll primitives).pageAggregates = sheets.pageAggregates := by
  induction primitives generalizing sheets with
  | nil => rfl
  | cons primitive rest ih => exact (ih _).trans (sheets.push_pageAggregates primitive)

namespace LayoutInput

variable (input : LayoutInput Row Text Figure)
variable (precomputed : PrecomputedAggregates) (openGroups : List OpenGroup)

/-- A text as a band draws it: one of its own, with what its aggregate has come to. -/
structure TextDrawn (pageAggregates : Accumulators) (band : Band) (context : Context Row)
    (text : Text) (drawn : Drawn Row) : Prop where
  has : band.Has drawn.element
  context : drawn.context = context
  total : drawn.total = readAggregate precomputed pageAggregates openGroups drawn.element
  openGroups : drawn.openGroups = openGroups
  counted : drawn.counted = (pageAggregates.at drawn.element.id).count
  built : input.buildTextElement drawn.element drawn.total drawn.context drawn.topMm
    drawn.stretchMm = some text

/-- A primitive as a band draws it. -/
def AsDrawn (pageAggregates : Accumulators) (band : Band) (context : Context Row) :
    Primitive Row Text Figure → Prop
  | .text text drawn origin =>
      origin = band.type ∧
        input.TextDrawn precomputed openGroups pageAggregates band context text drawn
  | .figure _ origin => origin = band.type

variable {pageAggregates : Accumulators} {primitive : Primitive Row Text Figure}
variable {placed : Option (List Element)} {type : BandType} {page : LayoutPage Row Text Figure}

theorem AsDrawn.band_eq {band : Band} {context : Context Row}
    (drawn : input.AsDrawn precomputed openGroups pageAggregates band context primitive) :
    primitive.band = band.type := by
  cases primitive with
  | text text drawn' origin => exact drawn.1
  | figure figure origin => exact drawn

theorem elementPrimitives_asDrawn (band : Band) (context : Context Row)
    (bandTopMm stretchMm : Decimal) (pageAggregates : Accumulators) {element : Element}
    (has : ∀ text, element = .text text → band.Has text) :
    ∀ primitive ∈ input.elementPrimitives precomputed openGroups band.type context bandTopMm
      stretchMm pageAggregates element,
      input.AsDrawn precomputed openGroups pageAggregates band context primitive := by
  intro primitive member
  cases element with
  | pageBreak id z when => exact absurd member List.not_mem_nil
  | figure id y visible z =>
      simp only [elementPrimitives, List.mem_map] at member
      obtain ⟨figure, _, rfl⟩ := member
      rfl
  | text element =>
      simp only [elementPrimitives, List.mem_append, List.mem_map, Option.mem_toList] at member
      rcases member with (⟨figure, _, rfl⟩ | ⟨text, built, rfl⟩) | ⟨figure, _, rfl⟩
      · rfl
      · exact ⟨rfl, has element rfl, rfl, rfl, rfl, rfl, built⟩
      · rfl

/-- What a band draws, its elements by z-order. -/
def bandPrimitives (band : Band) (context : Context Row) (bandTopMm stretchMm : Decimal)
    (placed : Option (List Element)) (pageAggregates : Accumulators) :
    List (Primitive Row Text Figure) :=
  ((placed.getD (band.elements.filter (input.isVisible context))).insertionSort
    fun left right => left.z ≤ right.z).flatMap
      (input.elementPrimitives precomputed openGroups band.type context bandTopMm stretchMm
        pageAggregates)

theorem drawBandElements_eq (band : Band) (context : Context Row) (bandTopMm stretchMm : Decimal)
    (placed : Option (List Element)) (sheets : Sheets Row Text Figure) :
    input.drawBandElements precomputed openGroups band context bandTopMm stretchMm placed sheets =
      sheets.pushAll (input.bandPrimitives precomputed openGroups band context bandTopMm stretchMm
        placed sheets.pageAggregates) := by
  unfold drawBandElements bandPrimitives
  dsimp only
  generalize (placed.getD (band.elements.filter (input.isVisible context))).insertionSort
    (fun left right => left.z ≤ right.z) = ordered
  induction ordered generalizing sheets with
  | nil => rfl
  | cons element rest ih =>
      have kept : (input.drawElement precomputed openGroups band.type context bandTopMm
          stretchMm sheets element).pageAggregates = sheets.pageAggregates :=
        sheets.pushAll_pageAggregates _
      rw [List.foldl_cons, ih, kept, List.flatMap_cons, Sheets.pushAll_append]
      rfl

/-- A band draws its own texts, moved or not. -/
theorem bandPrimitives_asDrawn (band : Band) (context : Context Row) (bandTopMm stretchMm : Decimal)
    (has : ∀ elements, placed = some elements → ∀ element, .text element ∈ elements →
      band.Has element) (pageAggregates : Accumulators) :
    ∀ primitive ∈ input.bandPrimitives precomputed openGroups band context bandTopMm stretchMm
        placed pageAggregates,
      input.AsDrawn precomputed openGroups pageAggregates band context primitive := by
  intro primitive member
  obtain ⟨element, sorted, drawn⟩ := List.mem_flatMap.mp member
  have among := (List.mem_insertionSort _).mp sorted
  apply input.elementPrimitives_asDrawn precomputed openGroups band context bandTopMm stretchMm
    pageAggregates _ primitive drawn
  intro text isText
  rw [isText] at among
  cases moved : placed with
  | some elements =>
      rw [moved, Option.getD_some] at among
      exact has elements moved text among
  | none =>
      rw [moved, Option.getD_none] at among
      exact ⟨text.y, (List.mem_filter.mp among).1⟩

/-! ## Closing and opening pages -/

/-- A primitive as a page draws it by itself. -/
def PageDrawn (pageAggregates : Accumulators) (type : BandType)
    (primitive : Primitive Row Text Figure) : Prop :=
  ∃ band context, input.firstBand type = some band ∧
    input.AsDrawn precomputed openGroups pageAggregates band context primitive

theorem PageDrawn.band_eq
    (drawn : input.PageDrawn precomputed openGroups pageAggregates type primitive) :
    primitive.band = type := by
  obtain ⟨band, context, found, asDrawn⟩ := drawn
  rw [asDrawn.band_eq]
  simpa using List.find?_some found

/-- The context of a page in its numbering run. -/
def pageContextAt (index numberingStart : ℕ) : Context Row :=
  { rootContext with
    page := ⟨index - numberingStart + 1, index + 1 - numberingStart, index = numberingStart,
      false⟩ }

/-- What a page draws by itself, where `printOn` lets it. -/
def pageBandPrimitives (type : BandType) (index numberingStart : ℕ) (topMm heightMm : Decimal)
    (totals : Accumulators) : List (Primitive Row Text Figure) :=
  match input.firstBand type with
  | none => []
  | some band =>
      if shouldPrintOnPage band index then
        input.bandPrimitives precomputed openGroups band (pageContextAt index numberingStart) topMm
          (input.stretchOf band heightMm) none totals
      else []

theorem pageBandPrimitives_asDrawn (type : BandType) (index numberingStart : ℕ)
    (topMm heightMm : Decimal) (totals : Accumulators) :
    ∀ primitive ∈ input.pageBandPrimitives precomputed openGroups type index numberingStart topMm
        heightMm totals,
      input.PageDrawn precomputed openGroups totals type primitive := by
  intro primitive member
  unfold pageBandPrimitives at member
  cases found : input.firstBand type with
  | none =>
      rw [found] at member
      exact absurd member List.not_mem_nil
  | some band =>
      rw [found] at member
      dsimp only at member
      split at member
      · exact ⟨band, _, found, input.bandPrimitives_asDrawn precomputed openGroups band _ _ _
          (fun elements moved => absurd moved (by simp)) totals primitive member⟩
      · exact absurd member List.not_mem_nil

def headerPrimitives (index numberingStart : ℕ) : List (Primitive Row Text Figure) :=
  input.pageBandPrimitives precomputed openGroups .PAGE_HEADER index numberingStart
    (if input.template.layoutMode = .GRID then 0 else input.template.paper.marginTop)
    input.pageHeaderHeightMm OrderedMap.empty

def footerPrimitives (index numberingStart : ℕ) (totals : Accumulators) :
    List (Primitive Row Text Figure) :=
  input.pageBandPrimitives precomputed openGroups .PAGE_FOOTER index numberingStart
    input.footerTopMm input.pageFooterHeightMm totals

variable {sheets : Sheets Row Text Figure}

/-- Closing a page adds its footer, with the totals it then has. -/
theorem finishPage_eq (current : sheets.current = some page) :
    input.finishPage precomputed openGroups sheets =
      let footer := input.footerPrimitives precomputed openGroups sheets.closed.length
        page.numberingStart sheets.pageAggregates
      { sheets with
        closed := sheets.closed ++ [{ page with
          primitives := page.primitives ++ footer
          footerPrimitiveCount := footer.length
          totals := sheets.pageAggregates }]
        current := none
        deferred := sheets.deferred ++
          deferrals sheets.closed.length footer page.primitives.length } := by
  have context : pageContext sheets page =
      pageContextAt sheets.closed.length page.numberingStart := by
    simp [pageContext, pageContextAt, Sheets.pages, current]
  have drawn : input.drawFooter precomputed openGroups sheets page =
      sheets.pushAll (input.footerPrimitives precomputed openGroups sheets.closed.length
        page.numberingStart sheets.pageAggregates) := by
    unfold drawFooter footerPrimitives pageBandPrimitives
    cases input.firstBand .PAGE_FOOTER with
    | none => rfl
    | some band =>
        dsimp only
        split
        · rw [drawBandElements_eq, context]
        · rfl
  unfold finishPage
  rw [current]
  dsimp only
  rw [drawn, Sheets.pushAll_of_page current]
  simp

/-- What closing a page does: its footer is drawn with the totals it then has. -/
theorem finishPage_of_page (current : sheets.current = some page) : ∃ footer,
      (∀ primitive ∈ footer, input.PageDrawn precomputed openGroups sheets.pageAggregates
        .PAGE_FOOTER primitive) ∧
      input.finishPage precomputed openGroups sheets =
        { sheets with
          closed := sheets.closed ++ [{ page with
            primitives := page.primitives ++ footer
            footerPrimitiveCount := footer.length
            totals := sheets.pageAggregates }]
          current := none
          deferred := sheets.deferred ++
            deferrals sheets.closed.length footer page.primitives.length } :=
  ⟨_, input.pageBandPrimitives_asDrawn precomputed openGroups .PAGE_FOOTER _ _ _ _ _,
    input.finishPage_eq precomputed openGroups current⟩

theorem finishPage_of_none (current : sheets.current = none) :
    input.finishPage precomputed openGroups sheets = sheets := by
  unfold finishPage
  rw [current]

theorem finishPage_current (sheets : Sheets Row Text Figure) :
    (input.finishPage precomputed openGroups sheets).current = none := by
  cases current : sheets.current with
  | none => rw [input.finishPage_of_none precomputed openGroups current, current]
  | some page =>
      obtain ⟨footer, _, finished⟩ :=
        input.finishPage_of_page precomputed openGroups current
      rw [finished]

/-- The page a numbering run starts on that the next page belongs to. -/
def nextStart (sheets : Sheets Row Text Figure) : ℕ :=
  if sheets.closed.length = 0 ∨ sheets.restartNumberingOnNextPage then sheets.closed.length
  else (sheets.closed.getLast?.map LayoutPage.numberingStart).getD 0

/-- Opening a page, while there is room for one: its header is all it has. -/
theorem startPage_eq (room : sheets.pages.length < MAX_PAGES) :
    input.startPage precomputed openGroups sheets =
      let header := input.headerPrimitives precomputed openGroups sheets.closed.length
        (nextStart sheets)
      { sheets with
        current := some
          { primitives := header
            numberingStart := nextStart sheets
            headerPrimitiveCount := header.length }
        cursorMm := 0
        pageAggregates := OrderedMap.empty
        restartNumberingOnNextPage := false
        deferred := sheets.deferred ++ deferrals sheets.closed.length header 0 } := by
  unfold startPage headerPrimitives pageBandPrimitives
  rw [if_neg (not_le.mpr room)]
  dsimp only
  cases input.firstBand .PAGE_HEADER with
  | none => simp [deferrals, nextStart]
  | some band =>
      dsimp only
      split
      · rw [drawBandElements_eq, Sheets.pushAll_of_page rfl]
        simp [nextStart, pageContext, pageContextAt, Sheets.pages]
      · simp [deferrals, nextStart]

/-- What opening a page does, unless there are too many: its header is all it has, and it is
numbered on from the page before or from itself. -/
theorem startPage_opens (sheets : Sheets Row Text Figure) :
    input.startPage precomputed openGroups sheets = sheets ∨
      ∃ header numberingStart,
        (∀ primitive ∈ header, input.PageDrawn precomputed openGroups OrderedMap.empty
          .PAGE_HEADER primitive) ∧
        (numberingStart = sheets.closed.length ∨ ∃ last, sheets.closed.getLast? = some last ∧
          numberingStart = last.numberingStart) ∧
        input.startPage precomputed openGroups sheets =
          { sheets with
            current := some
              { primitives := header
                numberingStart := numberingStart
                headerPrimitiveCount := header.length }
            cursorMm := 0
            pageAggregates := OrderedMap.empty
            restartNumberingOnNextPage := false
            deferred := sheets.deferred ++ deferrals sheets.closed.length header 0 } := by
  by_cases full : MAX_PAGES ≤ sheets.pages.length
  · left
    unfold startPage
    rw [if_pos full]
  · right
    have start : nextStart sheets = sheets.closed.length ∨
        ∃ last, sheets.closed.getLast? = some last ∧ nextStart sheets = last.numberingStart := by
      unfold nextStart
      split
      · exact Or.inl rfl
      · next notFirst =>
          right
          cases last : sheets.closed.getLast? with
          | none =>
              rw [List.getLast?_eq_none_iff] at last
              exact absurd (Or.inl (congrArg List.length last)) notFirst
          | some page => exact ⟨page, rfl, rfl⟩
    exact ⟨_, nextStart sheets,
      input.pageBandPrimitives_asDrawn precomputed openGroups .PAGE_HEADER _ _ _ _ _, start,
      input.startPage_eq precomputed openGroups (not_le.mp full)⟩

/-! ## Steps -/

/-- The bands a page draws by itself. -/
def PAGE_BANDS : List BandType := [.PAGE_HEADER, .PAGE_FOOTER]

/-- One thing that happens while a band of the body is printed. -/
inductive Step (band : Band) (context : Context Row) :
    Sheets Row Text Figure → Sheets Row Text Figure → Prop where
  | push (sheets : Sheets Row Text Figure) (body : band.type ∉ PAGE_BANDS)
      (primitive : Primitive Row Text Figure)
      (asDrawn : input.AsDrawn precomputed openGroups sheets.pageAggregates band context
        primitive) :
      Step band context sheets (sheets.push primitive)
  | move (sheets : Sheets Row Text Figure) (cursorMm : Decimal) :
      Step band context sheets { sheets with cursorMm := cursorMm }
  | restart (sheets : Sheets Row Text Figure) (asked : Bool) :
      Step band context sheets { sheets with restartNumberingOnNextPage := asked }
  | renumber (sheets : Sheets Row Text Figure) (page : LayoutPage Row Text Figure)
      (current : sheets.current = some page) :
      Step band context sheets { sheets with
        current := some { page with numberingStart := sheets.closed.length } }
  | breakPage (sheets : Sheets Row Text Figure) :
      Step band context sheets (input.breakPage precomputed openGroups sheets)

/-- Any number of them. -/
abbrev Steps (band : Band) (context : Context Row) :
    Sheets Row Text Figure → Sheets Row Text Figure → Prop :=
  Relation.ReflTransGen (input.Step precomputed openGroups band context)

variable {input precomputed openGroups} {band : Band} {context : Context Row}

theorem Steps.pushAll (body : band.type ∉ PAGE_BANDS)
    {primitives : List (Primitive Row Text Figure)} (asDrawn : ∀ primitive ∈ primitives,
      input.AsDrawn precomputed openGroups sheets.pageAggregates band context primitive) :
    input.Steps precomputed openGroups band context sheets (sheets.pushAll primitives) := by
  induction primitives generalizing sheets with
  | nil => exact Relation.ReflTransGen.refl
  | cons primitive rest ih =>
      apply Relation.ReflTransGen.head
        (Step.push sheets body primitive (asDrawn primitive List.mem_cons_self))
      apply ih
      intro other member
      rw [Sheets.push_pageAggregates]
      exact asDrawn other (List.mem_cons_of_mem primitive member)

/-- What every step keeps, any number of steps keep. -/
theorem Steps.invariant {holds : Sheets Row Text Figure → Prop}
    (step : ∀ {before after}, input.Step precomputed openGroups band context before after →
      holds before → holds after) {before after : Sheets Row Text Figure}
    (steps : input.Steps precomputed openGroups band context before after) (start : holds before) :
    holds after := by
  induction steps with
  | refl => exact start
  | tail _ last ih => exact step last ih

variable (input precomputed openGroups)

theorem drawBandElements_steps (band : Band) (body : band.type ∉ PAGE_BANDS) (context : Context Row)
    (bandTopMm stretchMm : Decimal)
    (has : ∀ elements, placed = some elements → ∀ element, .text element ∈ elements →
      band.Has element) (sheets : Sheets Row Text Figure) :
    input.Steps precomputed openGroups band context sheets
      (input.drawBandElements precomputed openGroups band context bandTopMm stretchMm placed
        sheets) := by
  rw [drawBandElements_eq]
  exact Steps.pushAll body (input.bandPrimitives_asDrawn precomputed openGroups band context
    bandTopMm stretchMm has sheets.pageAggregates)

theorem startFreshPageIfAsked_steps (band : Band) (context : Context Row)
    (sheets : Sheets Row Text Figure) :
    input.Steps precomputed openGroups band context sheets
      (input.startFreshPageIfAsked precomputed openGroups band sheets) := by
  unfold startFreshPageIfAsked
  cases current : sheets.current with
  | none => exact Relation.ReflTransGen.refl
  | some page =>
      dsimp only
      split
      · exact Relation.ReflTransGen.refl
      · split
        · rw [← current]
          exact (Relation.ReflTransGen.single (Step.restart sheets _)).tail (Step.breakPage _)
        · split
          · exact Relation.ReflTransGen.single (Step.renumber sheets page current)
          · exact Relation.ReflTransGen.refl

theorem drawPiece_steps (band : Band) (body : band.type ∉ PAGE_BANDS) (context : Context Row)
    (sheets : Sheets Row Text Figure) {piece : Piece Figure}
    (has : ∀ elements topMm, piece = .draw elements topMm → ∀ element, .text element ∈ elements →
      band.Has element) :
    input.Steps precomputed openGroups band context sheets
      (input.drawPiece precomputed openGroups band context sheets piece) := by
  cases piece with
  | pageBreak => exact Relation.ReflTransGen.single (Step.breakPage sheets)
  | draw elements topMm =>
      apply input.drawBandElements_steps precomputed openGroups band body context
      intro placed same
      cases same
      exact has elements topMm rfl
  | figures figures =>
      have asDrawn : ∀ primitive ∈ figures.map fun figure => Primitive.figure figure band.type,
          input.AsDrawn precomputed openGroups sheets.pageAggregates band context primitive := by
        intro primitive member
        obtain ⟨figure, _, rfl⟩ := List.mem_map.mp member
        rfl
      exact Steps.pushAll body asDrawn

theorem drawPieces_steps (band : Band) (body : band.type ∉ PAGE_BANDS) (context : Context Row)
    {pieces : List (Piece Figure)}
    (has : ∀ elements topMm, .draw elements topMm ∈ pieces → ∀ element, .text element ∈ elements →
      band.Has element) (sheets : Sheets Row Text Figure) :
    input.Steps precomputed openGroups band context sheets
      (pieces.foldl (input.drawPiece precomputed openGroups band context) sheets) := by
  induction pieces generalizing sheets with
  | nil => exact Relation.ReflTransGen.refl
  | cons piece rest ih =>
      have own : ∀ elements topMm, piece = .draw elements topMm → ∀ element,
          .text element ∈ elements → band.Has element :=
        fun elements topMm same => has elements topMm (by simp [same])
      have first := input.drawPiece_steps precomputed openGroups band body context sheets own
      exact first.trans (ih (fun elements topMm member =>
        has elements topMm (List.mem_cons_of_mem piece member)) _)

theorem breakIf_steps (asked : Bool) (sheets : Sheets Row Text Figure) :
    input.Steps precomputed openGroups band context sheets
      (if asked then input.breakPage precomputed openGroups sheets else sheets) := by
  cases asked with
  | true => exact Relation.ReflTransGen.single (Step.breakPage sheets)
  | false => exact Relation.ReflTransGen.refl

/-- Printing a band of the body takes steps, and only them. -/
theorem emitBand_steps (band : Band) (body : band.type ∉ PAGE_BANDS) (context : Context Row)
    (reserveMm : Decimal) (sheets : Sheets Row Text Figure) :
    input.Steps precomputed openGroups band context sheets
      (input.emitBand precomputed openGroups band context reserveMm sheets).1 := by
  unfold emitBand
  split
  · exact Relation.ReflTransGen.refl
  · apply (input.startFreshPageIfAsked_steps precomputed openGroups band context sheets).trans
    dsimp only
    split
    · next pieces endMm spread =>
        apply (input.drawPieces_steps precomputed openGroups band body context
          (input.drawing.spread_has _ _ _ _ _ _ spread) _).trans
        apply (Relation.ReflTransGen.single (Step.move _ endMm)).trans
        exact input.breakIf_steps precomputed openGroups _ _
    · apply (input.breakIf_steps precomputed openGroups _ _).trans
      apply (input.drawBandElements_steps precomputed openGroups band body context _ _
        (input.drawing.flow_has band context) _).trans
      apply (Relation.ReflTransGen.single (Step.move _ _)).trans
      exact input.breakIf_steps precomputed openGroups _ _

/-! ## The whole report -/

/-- What a section is made of. -/
structure FromBand (details : DetailSection Row) (band : Band) : Prop where
  band_eq : details.band = band
  isDetail : band.type = .DETAIL
  dataset : band.dataset = some details.dataset
  rows : details.rows = (input.datasets details.dataset).take MAX_DETAIL_ROWS
  headers : ∀ header ∈ details.groupHeaders, header.type = .GROUP_HEADER
  footers : ∀ footer ∈ details.groupFooters, footer.type = .GROUP_FOOTER

theorem bandsByLevel_type {dataset : String} (member : band ∈ input.bandsByLevel type dataset) :
    band.type = type := by
  unfold bandsByLevel at member
  obtain ⟨level, _, found⟩ := List.mem_filterMap.mp member
  have present := List.mem_filter.mp (List.mem_of_getLast? found)
  have kept := (List.mem_filter.mp present.1).2
  simp only [decide_eq_true_eq] at kept
  exact kept.1

theorem sectionOf_eq_some {details : DetailSection Row}
    (found : input.sectionOf band = some details) : input.FromBand details band := by
  unfold sectionOf at found
  split at found
  · next isDetail =>
      obtain ⟨dataset, named, rfl⟩ := Option.map_eq_some_iff.mp found
      constructor
      · rfl
      · exact isDetail
      · exact named
      · rfl
      · exact fun header member => input.bandsByLevel_type member
      · exact fun footer member => input.bandsByLevel_type member
  · exact absurd found (by simp)

/-- The page a row was printed on is the page the layout is on afterwards, if its band is
visible and asks for no break; a hidden row was printed on none. -/
structure Landed (band : Band) (context : Context Row) (sheets : Sheets Row Text Figure)
    (drawnOn : Option ℕ) : Prop where
  visible : input.evaluator.evaluateCondition band.visible context = true →
    input.bandRequestsPageBreak band context = false →
    drawnOn = sheets.current.map fun _ => sheets.closed.length
  hidden : input.evaluator.evaluateCondition band.visible context = false → drawnOn = none

theorem Sheets.pushAll_closed (sheets : Sheets Row Text Figure)
    (primitives : List (Primitive Row Text Figure)) :
    (sheets.pushAll primitives).closed = sheets.closed := by
  cases current : sheets.current with
  | none => rw [Sheets.pushAll_of_none current]
  | some page => rw [Sheets.pushAll_of_page current]

theorem Sheets.pushAll_isSome (sheets : Sheets Row Text Figure)
    (primitives : List (Primitive Row Text Figure)) (value : ℕ) :
    ((sheets.pushAll primitives).current.map fun _ => value) =
      sheets.current.map fun _ => value := by
  cases current : sheets.current with
  | none => rw [Sheets.pushAll_of_none current, current]
  | some page => rw [Sheets.pushAll_of_page current]; rfl

/-- A band that repeats is printed in one piece, so it lands on one page. -/
theorem emitBand_landed (band : Band) (repeats : band.type ∉ CROSSTAB_BANDS)
    (context : Context Row) (reserveMm : Decimal) (sheets : Sheets Row Text Figure) :
    input.Landed band context
      (input.emitBand precomputed openGroups band context reserveMm sheets).1
      (input.emitBand precomputed openGroups band context reserveMm sheets).2 := by
  constructor
  · intro visible stays
    unfold emitBand
    rw [visible, if_neg (by decide)]
    dsimp only
    rw [input.drawing.spread_repeating _ _ _ _ repeats]
    dsimp only
    rw [stays, if_neg Bool.false_ne_true]
    rw [drawBandElements_eq, Sheets.pushAll_closed, Sheets.pushAll_isSome]
  · intro hidden
    unfold emitBand
    rw [hidden]
    rfl

/-- What holds of the sheets and the rows so far, and is kept by every step and every row
that is counted. -/
structure Kept (precomputed : PrecomputedAggregates)
    (holds : Sheets Row Text Figure → List (RowRecord Row) → Prop) : Prop where
  step : ∀ {openGroups band context before after rows},
    input.Step precomputed openGroups band context before after → holds before rows →
    holds after rows
  count : ∀ {sheets rows} (details : DetailSection Row) (context : Context Row)
    (drawnOn : Option ℕ), input.Landed details.band context sheets drawnOn →
    holds sheets rows →
    holds { sheets with
        pageAggregates := input.accumulatePageAggregates details context sheets.pageAggregates }
      (rows ++ [⟨details.band, details.dataset, context, drawnOn,
        sheets.current.map fun _ => sheets.closed.length⟩])

variable {precomputed}

/-- The report when its last band is out and its last page still open. -/
def printed : LayoutRun Row Text Figure :=
  input.template.bands.foldl (input.emitTemplateBand input.prePass)
    { sheets := input.startPage input.prePass [] {} }

theorem firstPass_eq : input.firstPass =
    { input.printed with
      sheets := input.finishPage input.prePass input.printed.openGroups
        input.printed.sheets } := rfl

end LayoutInput

end ErpServer.Print
