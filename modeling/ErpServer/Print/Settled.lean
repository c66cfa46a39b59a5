import ErpServer.Lib.Places
import ErpServer.Print.SecondPass

/-!
# What a printed text was read from

Every text on a page comes from a band of the template, a text of the body from a band as it
was printed.  The second pass reads its total where the layout has ended; that is the total it
was drawn with if what the total is read from has not changed since.
-/

namespace ErpServer.Print

open Lib
open Receipt (Decimal)

variable {Row Text Figure : Type}

/-! ## What stands on a page -/

/-- A primitive is on a page, closed or open. -/
def Sheets.Holds (sheets : Sheets Row Text Figure) (index : ℕ)
    (primitive : Primitive Row Text Figure) : Prop :=
  ∃ page, sheets.pages[index]? = some page ∧ primitive ∈ page.primitives

section OnPages

variable {sheets before after : Sheets Row Text Figure} {index : ℕ}
variable {primitive : Primitive Row Text Figure}

theorem Sheets.Holds.inside (holds : sheets.Holds index primitive) :
    index < sheets.pages.length := by
  obtain ⟨page, standing, _⟩ := holds
  exact (List.getElem?_eq_some_iff.mp standing).1

/-- The last page has what it had, and what was added. -/
theorem Sheets.Holds.of_grown (holds : after.Holds index primitive)
    {old new : LayoutPage Row Text Figure} (current : before.current = some old)
    (now : after.pages = before.closed ++ [new]) {added : List (Primitive Row Text Figure)}
    (grown : new.primitives = old.primitives ++ added) :
    before.Holds index primitive ∨ index + 1 = before.pages.length ∧ primitive ∈ added := by
  obtain ⟨page, standing, member⟩ := holds
  have was := Sheets.pages_of_page current
  rw [now] at standing
  rcases Places.concat_cases standing with stood | ⟨rfl, rfl⟩
  · left
    exact ⟨page, by rw [was, Places.getElem?_append_of_some stood], member⟩
  · rw [grown] at member
    rcases List.mem_append.mp member with before' | new'
    · left
      exact ⟨old, by rw [was, List.getElem?_concat_length], before'⟩
    · right
      exact ⟨by rw [was, List.length_append]; rfl, new'⟩

/-- A page that opens has its header. -/
theorem Sheets.Holds.of_opened (holds : after.Holds index primitive)
    {new : LayoutPage Row Text Figure} (current : after.current = some new)
    (closed : after.closed = before.pages) :
    before.Holds index primitive ∨
      index = before.pages.length ∧ primitive ∈ new.primitives := by
  obtain ⟨page, standing, member⟩ := holds
  rw [Sheets.pages_of_page current, closed] at standing
  rcases Places.concat_cases standing with stood | ⟨rfl, rfl⟩
  · exact Or.inl ⟨page, stood, member⟩
  · exact Or.inr ⟨rfl, member⟩

end OnPages

namespace LayoutInput

variable {input : LayoutInput Row Text Figure} {precomputed : PrecomputedAggregates}
variable {openGroups : List OpenGroup} {band : Band} {context : Context Row}
variable {sheets before after : Sheets Row Text Figure} {index : ℕ}
variable {primitive : Primitive Row Text Figure}

/-- A primitive the page draws by itself. -/
def ByPage (input : LayoutInput Row Text Figure) (precomputed : PrecomputedAggregates)
    (openGroups : List OpenGroup) (pageAggregates : Accumulators)
    (primitive : Primitive Row Text Figure) : Prop :=
  ∃ type ∈ PAGE_BANDS, input.PageDrawn precomputed openGroups pageAggregates type primitive

/-- A primitive drawn by the page, or by a band of the body. -/
def Newly (input : LayoutInput Row Text Figure) (precomputed : PrecomputedAggregates)
    (openGroups : List OpenGroup) (band : Band) (context : Context Row)
    (pageAggregates : Accumulators) (primitive : Primitive Row Text Figure) : Prop :=
  input.ByPage precomputed openGroups pageAggregates primitive ∨
    band.type ∉ PAGE_BANDS ∧
      input.AsDrawn precomputed openGroups pageAggregates band context primitive

theorem finishPage_holds
    (holds : (input.finishPage precomputed openGroups sheets).Holds index primitive) :
    sheets.Holds index primitive ∨ index + 1 = sheets.pages.length ∧
      input.ByPage precomputed openGroups sheets.pageAggregates primitive := by
  cases current : sheets.current with
  | none =>
      rw [input.finishPage_of_none precomputed openGroups current] at holds
      exact Or.inl holds
  | some page =>
      obtain ⟨footer, drawn, finished⟩ := input.finishPage_of_page precomputed openGroups current
      rw [finished] at holds
      have grown := holds.of_grown current (Sheets.pages_of_none rfl) rfl
      exact grown.imp_right (And.imp_right fun member =>
        ⟨.PAGE_FOOTER, by decide, drawn primitive member⟩)

theorem finishPage_pages (input : LayoutInput Row Text Figure)
    (precomputed : PrecomputedAggregates) (openGroups : List OpenGroup)
    (sheets : Sheets Row Text Figure) :
    (input.finishPage precomputed openGroups sheets).pages.length = sheets.pages.length ∧
      (input.finishPage precomputed openGroups sheets).pageAggregates = sheets.pageAggregates := by
  cases current : sheets.current with
  | none =>
      rw [input.finishPage_of_none precomputed openGroups current]
      exact ⟨rfl, rfl⟩
  | some page =>
      obtain ⟨footer, _, finished⟩ := input.finishPage_of_page precomputed openGroups current
      rw [finished, Sheets.pages_of_page current]
      simp [Sheets.pages]

/-- What opening a page adds, where it opens. -/
theorem startPage_holds (current : sheets.current = none)
    (holds : (input.startPage precomputed openGroups sheets).Holds index primitive) :
    sheets.Holds index primitive ∨ index = sheets.pages.length ∧
      (input.startPage precomputed openGroups sheets).pageAggregates = OrderedMap.empty ∧
      input.ByPage precomputed openGroups OrderedMap.empty primitive := by
  rcases input.startPage_opens precomputed openGroups sheets with
    same | ⟨header, numberingStart, drawn, _, started⟩
  · rw [same] at holds
    exact Or.inl holds
  · rw [started] at holds ⊢
    have opened := holds.of_opened rfl (Sheets.pages_of_none current).symm
    exact opened.imp_right (And.imp_right fun member =>
      ⟨rfl, .PAGE_HEADER, by decide, drawn primitive member⟩)

theorem startPage_pages (input : LayoutInput Row Text Figure)
    (precomputed : PrecomputedAggregates) (openGroups : List OpenGroup)
    (current : sheets.current = none) :
    input.startPage precomputed openGroups sheets = sheets ∨
      sheets.pages.length < (input.startPage precomputed openGroups sheets).pages.length ∧
        (input.startPage precomputed openGroups sheets).pageAggregates = OrderedMap.empty := by
  rcases input.startPage_opens precomputed openGroups sheets with
    same | ⟨header, numberingStart, _, _, started⟩
  · exact Or.inl same
  · right
    rw [started, Sheets.pages_of_none current]
    simp [Sheets.pages]

/-- A step keeps the pages and what they have counted, or opens a page. -/
theorem Step.pages (step : input.Step precomputed openGroups band context before after) :
    after.pages.length = before.pages.length ∧ after.pageAggregates = before.pageAggregates ∨
      before.pages.length < after.pages.length ∧ after.pageAggregates = OrderedMap.empty := by
  cases step with
  | push body primitive asDrawn =>
      left
      cases current : before.current with
      | none =>
          rw [Sheets.push_of_none current]
          exact ⟨rfl, rfl⟩
      | some page =>
          rw [Sheets.push_of_page current, Sheets.pages_of_page current]
          simp [Sheets.pages]
  | move cursorMm => exact Or.inl ⟨rfl, rfl⟩
  | restart asked => exact Or.inl ⟨rfl, rfl⟩
  | renumber page current =>
      left
      rw [Sheets.pages_of_page current]
      simp [Sheets.pages]
  | breakPage =>
      have finished := finishPage_pages input precomputed openGroups before
      rw [LayoutInput.breakPage, ← finished.1, ← finished.2]
      have current := input.finishPage_current precomputed openGroups before
      refine (startPage_pages input precomputed openGroups current).imp_left fun same => ?_
      rw [same]
      exact ⟨rfl, rfl⟩

/-- What is on a page after a step was there before it, or is new: on the last page with what
that has counted, or on a page that opens. -/
theorem Step.holds (step : input.Step precomputed openGroups band context before after)
    (holds : after.Holds index primitive) :
    before.Holds index primitive ∨
      (index + 1 = before.pages.length ∧
        input.Newly precomputed openGroups band context before.pageAggregates primitive) ∨
      index = before.pages.length ∧ after.pageAggregates = OrderedMap.empty ∧
        input.Newly precomputed openGroups band context OrderedMap.empty primitive := by
  cases step with
  | push body pushed asDrawn =>
      cases current : before.current with
      | none =>
          rw [Sheets.push_of_none current] at holds
          exact Or.inl holds
      | some page =>
          rw [Sheets.push_of_page current] at holds
          have grown := holds.of_grown current (Sheets.pages_of_page rfl) rfl
          refine grown.imp_right fun new => Or.inl ⟨new.1, Or.inr ⟨body, ?_⟩⟩
          rw [List.mem_singleton.mp new.2]
          exact asDrawn
  | move cursorMm => exact Or.inl holds
  | restart asked => exact Or.inl holds
  | renumber page current =>
      have grown := holds.of_grown current (Sheets.pages_of_page rfl) (List.append_nil _).symm
      exact grown.imp_right fun new => absurd new.2 List.not_mem_nil
  | breakPage =>
      have finished := finishPage_pages input precomputed openGroups before
      rw [LayoutInput.breakPage] at holds ⊢
      rcases startPage_holds (input.finishPage_current precomputed openGroups before) holds with
        kept | ⟨here, empty, header⟩
      · exact (finishPage_holds kept).imp_right fun new => Or.inl ⟨new.1, Or.inl new.2⟩
      · rw [finished.1] at here
        exact Or.inr (Or.inr ⟨here, empty, Or.inl header⟩)

/-! ## Where a text comes from -/

/-- A text of the body as a band that was printed has it. -/
structure Emitted (emission : Emission Row Text Figure) (drawn : Drawn Row) (type : BandType) :
    Prop where
  type : emission.band.type = type
  has : emission.band.Has drawn.element
  context : drawn.context = emission.context
  openGroups : drawn.openGroups = emission.openGroups

/-- Where a text of a kind of band comes from, with the bands printed so far. -/
def Traceable (input : LayoutInput Row Text Figure) (emissions : List (Emission Row Text Figure))
    (drawn : Drawn Row) (type : BandType) : Prop :=
  (type ∈ PAGE_BANDS → ∃ band, input.firstBand type = some band ∧ band.Has drawn.element) ∧
    (type ∉ PAGE_BANDS → ∃ emission ∈ emissions, Emitted emission drawn type)

variable {text : Text} {drawn : Drawn Row} {type : BandType}

variable {pageAggregates : Accumulators} {page : LayoutPage Row Text Figure}

theorem ByPage.traceable (byPage : input.ByPage precomputed openGroups pageAggregates
      (.text text drawn type : Primitive Row Text Figure))
    (emissions : List (Emission Row Text Figure)) : input.Traceable emissions drawn type := by
  obtain ⟨own, pageBand, found⟩ := byPage
  have same : type = own := found.band_eq
  obtain ⟨band, _, isFirst, asDrawn⟩ := found
  rw [← same] at pageBand isFirst
  exact ⟨fun _ => ⟨band, isFirst, asDrawn.2.has⟩, fun body => absurd pageBand body⟩

/-- Every text on a page, closed or open, can be traced. -/
def AllTraceable (input : LayoutInput Row Text Figure)
    (emissions : List (Emission Row Text Figure)) (sheets : Sheets Row Text Figure) : Prop :=
  ∀ index text drawn type, sheets.Holds index (.text text drawn type) →
    input.Traceable emissions drawn type

theorem traced_texts (input : LayoutInput Row Text Figure) (precomputed : PrecomputedAggregates) :
    input.Traced precomputed fun emissions sheets _ => input.AllTraceable emissions sheets where
  printed := by
    intro emissions rows emission body reserves before
    have steps := input.emitBand_steps precomputed emission.openGroups emission.band body.2
      emission.context emission.reserveMm emission.sheets
    have start : input.AllTraceable (emissions ++ [emission]) emission.sheets := by
      intro index text drawn type holds
      obtain ⟨pageBand, bodyBand⟩ := before index text drawn type holds
      refine ⟨pageBand, fun outside => ?_⟩
      obtain ⟨earlier, member, emitted⟩ := bodyBand outside
      exact ⟨earlier, List.mem_append_left _ member, emitted⟩
    refine steps.invariant ?_ start
    intro before after step kept index text drawn type holds
    have newly {pageAggregates : Accumulators}
        (new : input.Newly precomputed emission.openGroups emission.band emission.context
          pageAggregates (.text text drawn type)) :
        input.Traceable (emissions ++ [emission]) drawn type := by
      rcases new with byPage | ⟨outside, origin, asDrawn⟩
      · exact byPage.traceable _
      · refine ⟨fun pageBand => absurd (origin ▸ pageBand) outside, fun _ => ?_⟩
        exact ⟨emission, by simp, origin.symm, asDrawn.has, asDrawn.context, asDrawn.openGroups⟩
    rcases step.holds holds with old | ⟨_, new⟩ | ⟨_, _, new⟩
    · exact kept index text drawn type old
    · exact newly new
    · exact newly new
  counted := fun _ _ _ _ kept => kept

theorem no_pages (index : ℕ) (primitive : Primitive Row Text Figure) :
    ¬({} : Sheets Row Text Figure).Holds index primitive := by
  rintro ⟨page, standing, _⟩
  exact absurd standing (by simp [Sheets.pages])

theorem firstPass_traceable (holds : input.firstPass.sheets.Holds index (.text text drawn type)) :
    input.Traceable input.emissions drawn type := by
  have printed := (traced_texts input input.prePass).emissions (by
    intro index text drawn type holds
    rcases startPage_holds rfl holds with before | ⟨_, _, header⟩
    · exact absurd before (no_pages _ _)
    · exact header.traceable [])
  rw [input.firstPass_eq] at holds
  rcases finishPage_holds holds with before | ⟨_, footer⟩
  · exact printed index text drawn type before
  · exact footer.traceable _

/-- Every text on a page is one a band of the template has. -/
theorem firstPass_declared (holds : input.firstPass.sheets.Holds index (.text text drawn type)) :
    ∃ band ∈ input.template.bands, band.type = type ∧ band.Has drawn.element := by
  obtain ⟨pageBand, bodyBand⟩ := firstPass_traceable holds
  by_cases own : type ∈ PAGE_BANDS
  · obtain ⟨band, found, has⟩ := pageBand own
    exact ⟨band, List.mem_of_find?_eq_some found, by simpa using List.find?_some found, has⟩
  · obtain ⟨emission, member, emitted⟩ := bodyBand own
    exact ⟨emission.band, (input.emissions_declared emission member).1, emitted.type, emitted.has⟩

/-! ## What a total is read from -/

/-- More values have been accumulated. -/
def Grown (before after : Accumulator) : Prop :=
  ∃ values : List Decimal, after = (values.map some).foldl accumulate before

theorem Grown.refl (accumulator : Accumulator) : Grown accumulator accumulator := ⟨[], rfl⟩

theorem Grown.trans {first second third : Accumulator} (grown : Grown first second)
    (further : Grown second third) : Grown first third := by
  obtain ⟨values, rfl⟩ := grown
  obtain ⟨more, rfl⟩ := further
  exact ⟨values ++ more, by rw [List.map_append, List.foldl_append]⟩

theorem Grown.count {before after : Accumulator} (grown : Grown before after)
    (same : before.count = after.count) : before = after := by
  obtain ⟨values, rfl⟩ := grown
  have counted (values : List Decimal) (start : Accumulator) :
      ((values.map some).foldl accumulate start).count = start.count + values.length := by
    induction values generalizing start with
    | nil => rfl
    | cons value rest ih =>
        rw [List.map_cons, List.foldl_cons, ih, List.length_cons]
        change start.count + 1 + rest.length = _
        omega
  rw [counted] at same
  have none : values = [] := List.length_eq_zero_iff.mp (by omega)
  rw [none]
  rfl

theorem grown_accumulate (details : DetailSection Row) (context : Context Row)
    (pageAggregates : Accumulators) (id : String) :
    Grown (pageAggregates.at id)
      ((input.accumulatePageAggregates details context pageAggregates).at id) := by
  unfold accumulatePageAggregates
  induction input.pageScopeElementsFor details generalizing pageAggregates with
  | nil => exact Grown.refl _
  | cons field rest ih =>
      rw [List.foldl_cons]
      apply Grown.trans _ (ih _)
      rw [Accumulators.at_add]
      split
      · next same =>
          rw [same]
          exact ⟨[_], rfl⟩
      · exact Grown.refl _

/-- What a text was read from. -/
structure ReadFrom (input : LayoutInput Row Text Figure) (precomputed : PrecomputedAggregates)
    (accumulators : Accumulators) (text : Text) (drawn : Drawn Row) : Prop where
  total : drawn.total = readAggregate precomputed accumulators drawn.openGroups drawn.element
  counted : drawn.counted = (accumulators.at drawn.element.id).count
  built : input.buildTextElement drawn.element drawn.total drawn.context drawn.topMm
    drawn.stretchMm = some text

theorem TextDrawn.readFrom
    (asDrawn : input.TextDrawn precomputed openGroups pageAggregates band context text drawn) :
    input.ReadFrom precomputed pageAggregates text drawn :=
  ⟨by rw [asDrawn.openGroups, asDrawn.total], asDrawn.counted, asDrawn.built⟩

theorem ByPage.readFrom (byPage : input.ByPage precomputed openGroups pageAggregates
      (.text text drawn type : Primitive Row Text Figure)) :
    input.ReadFrom precomputed pageAggregates text drawn := by
  obtain ⟨_, _, _, _, _, asDrawn⟩ := byPage
  exact asDrawn.2.readFrom

/-- What a page counts starts from nothing and only grows: a text of the last page was read
from what that had counted by then. -/
structure Recorded (input : LayoutInput Row Text Figure) (precomputed : PrecomputedAggregates)
    (sheets : Sheets Row Text Figure) : Prop where
  fed : ∀ id, Grown emptyAccumulator (sheets.pageAggregates.at id)
  texts : ∀ index text drawn type, sheets.Holds index (.text text drawn type) →
    ∃ accumulators, input.ReadFrom precomputed accumulators text drawn ∧
      Grown emptyAccumulator (accumulators.at drawn.element.id) ∧
      (index + 1 = sheets.pages.length →
        Grown (accumulators.at drawn.element.id) (sheets.pageAggregates.at drawn.element.id))

theorem recorded_finishPage (recorded : input.Recorded precomputed sheets) :
    input.Recorded precomputed (input.finishPage precomputed openGroups sheets) := by
  obtain ⟨pages, kept⟩ := finishPage_pages input precomputed openGroups sheets
  constructor
  · rw [kept]
    exact recorded.fed
  · intro index text drawn type holds
    rw [pages, kept]
    rcases finishPage_holds holds with old | ⟨_, footer⟩
    · exact recorded.texts index text drawn type old
    · exact ⟨sheets.pageAggregates, footer.readFrom, recorded.fed _, fun _ => Grown.refl _⟩

theorem recorded_startPage (recorded : input.Recorded precomputed sheets)
    (current : sheets.current = none) :
    input.Recorded precomputed (input.startPage precomputed openGroups sheets) := by
  rcases startPage_pages input precomputed openGroups current with same | ⟨longer, empty⟩
  · rwa [same]
  · constructor
    · rw [empty]
      exact fun id => Grown.refl _
    · intro index text drawn type holds
      rcases startPage_holds current holds with old | ⟨_, _, header⟩
      · obtain ⟨accumulators, read, fed, _⟩ := recorded.texts index text drawn type old
        refine ⟨accumulators, read, fed, fun last => ?_⟩
        have inside := old.inside
        omega
      · rw [empty]
        exact ⟨OrderedMap.empty, header.readFrom, Grown.refl _, fun _ => Grown.refl _⟩

theorem recorded_kept : input.Kept precomputed fun sheets _ => input.Recorded precomputed sheets where
  step := by
    intro openGroups band context before after rows step recorded
    have read {pageAggregates : Accumulators} {text : Text} {drawn : Drawn Row} {type : BandType}
        (new : input.Newly precomputed openGroups band context pageAggregates
          (.text text drawn type)) : input.ReadFrom precomputed pageAggregates text drawn := by
      rcases new with byPage | ⟨_, asDrawn⟩
      · exact byPage.readFrom
      · exact asDrawn.2.readFrom
    constructor
    · rcases step.pages with ⟨_, same⟩ | ⟨_, empty⟩
      · rw [same]
        exact recorded.fed
      · rw [empty]
        exact fun id => Grown.refl _
    · intro index text drawn type holds
      rcases step.holds holds with old | ⟨last, new⟩ | ⟨_, empty, new⟩
      · obtain ⟨accumulators, from', fed, upto⟩ := recorded.texts index text drawn type old
        refine ⟨accumulators, from', fed, fun last => ?_⟩
        rcases step.pages with ⟨pages, same⟩ | ⟨longer, _⟩
        · rw [same]
          exact upto (by rw [last, pages])
        · have inside := old.inside
          omega
      · refine ⟨before.pageAggregates, read new, recorded.fed _, fun here => ?_⟩
        rcases step.pages with ⟨_, same⟩ | ⟨longer, _⟩
        · rw [same]
          exact Grown.refl _
        · omega
      · rw [empty]
        exact ⟨OrderedMap.empty, read new, Grown.refl _, fun _ => Grown.refl _⟩
  count := by
    intro sheets rows details context drawnOn landed recorded
    constructor
    · exact fun id => (recorded.fed id).trans (grown_accumulate details context _ id)
    · intro index text drawn type holds
      obtain ⟨accumulators, from', fed, upto⟩ := recorded.texts index text drawn type holds
      exact ⟨accumulators, from', fed, fun last =>
        (upto last).trans (grown_accumulate details context _ _)⟩

theorem recorded_firstPass : input.Recorded input.prePass input.firstPass.sheets := by
  have empty : input.Recorded input.prePass {} :=
    ⟨fun id => Grown.refl _, fun index text drawn type holds => absurd holds (no_pages _ _)⟩
  rw [input.firstPass_eq]
  apply recorded_finishPage
  exact recorded_kept.printed (recorded_startPage empty rfl)

/-! ## Texts that are settled -/

variable (input)

theorem firstPass_openGroups : input.firstPass.openGroups = [] := by
  have kept (bands : List Band) (run : LayoutRun Row Text Figure) (closed : run.openGroups = []) :
      (bands.foldl (input.emitTemplateBand input.prePass) run).openGroups = [] := by
    induction bands generalizing run with
    | nil => exact closed
    | cons band rest ih => exact ih _ (input.emitTemplateBand_openGroups input.prePass closed band)
  exact kept input.template.bands _ rfl

/-- What the total of a text is read from is the same when the layout has ended.  No group was
open for a group total; for a page total no row has been counted since, on the last page, or
none at all. -/
def Settled (index : ℕ) (drawn : Drawn Row) : Prop :=
  ∀ aggregate ∈ drawn.element.aggregate,
    (aggregate.scope = .GROUP → drawn.openGroups = []) ∧
    (aggregate.scope = .PAGE →
      drawn.counted = (input.firstPass.sheets.pageAggregates.at drawn.element.id).count ∧
        (index + 1 = input.firstPass.sheets.closed.length ∨ drawn.counted = 0))

instance (index : ℕ) (drawn : Drawn Row) : Decidable (input.Settled index drawn) :=
  inferInstanceAs (Decidable (∀ aggregate ∈ drawn.element.aggregate, _))

variable {input}

theorem endTotal_of_settled (holds : input.firstPass.sheets.Holds index (.text text drawn type))
    (settled : input.Settled index drawn) :
    input.endTotal input.firstPass drawn.element = drawn.total := by
  obtain ⟨accumulators, read, fed, upto⟩ := recorded_firstPass.texts index text drawn type holds
  rw [read.total, endTotal, input.firstPass_openGroups]
  unfold readAggregate
  cases totals : drawn.element.aggregate with
  | none => rfl
  | some aggregate =>
      obtain ⟨ungrouped, uncounted⟩ := settled aggregate totals
      dsimp only
      cases scope : aggregate.scope with
      | REPORT => rfl
      | GROUP => rw [ungrouped scope]
      | PAGE =>
          obtain ⟨counted, place⟩ := uncounted scope
          dsimp only
          rw [read.counted] at counted place
          have same : accumulators.at drawn.element.id =
              input.firstPass.sheets.pageAggregates.at drawn.element.id := by
            rcases place with last | none
            · rw [input.firstPass_pages] at upto
              exact (upto last).count counted
            · rw [← fed.count none.symm,
                ← (recorded_firstPass.fed drawn.element.id).count (none.symm.trans counted)]
          rw [Accumulators.read_eq, Accumulators.read_eq, same]

theorem firstPass_holds (found : input.firstPass.sheets.closed[index]? = some page)
    (member : primitive ∈ page.primitives) : input.firstPass.sheets.Holds index primitive :=
  ⟨page, by rw [input.firstPass_pages, found], member⟩

variable (input)

/-- Every text that mentions the page and stays on it is settled. -/
def AllSettled : Prop :=
  ∀ index page, input.firstPass.sheets.closed[index]? = some page →
    ∀ text drawn type, .text text drawn type ∈ page.primitives →
      dependsOnPage drawn.element.value = true →
      input.printsOn input.firstPass.sheets.closed.length index type = true →
      input.Settled index drawn

/-- So it is where no page or group total of the template mentions the page. -/
theorem allSettled_of_reports
    (reports : ∀ band ∈ input.template.bands, ∀ field ∈ band.aggregates,
      dependsOnPage field.1.value = true → field.2.scope = .REPORT) : input.AllSettled := by
  intro index page found text drawn type member depends _
  obtain ⟨band, bandMem, _, y, has⟩ := firstPass_declared (firstPass_holds found member)
  intro aggregate totals
  have field : ({ drawn.element with y := y }, aggregate) ∈ band.aggregates :=
    mem_aggregates.mpr ⟨has, totals⟩
  have scope : aggregate.scope = .REPORT := reports band bandMem _ field depends
  simp [scope]

/-! ## What a text shows -/

/-- A text that shows a total: what its element sets for it, or the blank it leaves. -/
def Shows (index : ℕ) (text : Text) (drawn : Drawn Row) (total : Decimal) : Prop :=
  let page := if dependsOnPage drawn.element.value then
    finalDescriptor input.firstPass.sheets.closed index else drawn.context.page
  match input.buildTextElement drawn.element total { drawn.context with page := page }
    drawn.topMm drawn.stretchMm with
  | some shown => text = shown
  | none => ∃ existing, text = input.drawing.blankText existing

variable {input}

/-- What is on a page came from the first pass. -/
theorem mem_run_primitives (standing : input.run[index]? = some page)
    (member : .text text drawn type ∈ page.primitives) :
    ∃ laid, input.firstPass.sheets.closed[index]? = some laid ∧
      input.printsOn input.firstPass.sheets.closed.length index type = true ∧
      ∃ existing, .text existing drawn type ∈ laid.primitives ∧
        text = if dependsOnPage drawn.element.value then
          input.textFor (finalDescriptor input.firstPass.sheets.closed index)
            (input.endTotal input.firstPass drawn.element) existing drawn
        else existing := by
  rw [input.run_eq] at standing
  unfold finalPages at standing
  dsimp only at standing
  rw [List.getElem?_mapIdx] at standing
  obtain ⟨laid, found, rfl⟩ := Option.map_eq_some_iff.mp standing
  obtain ⟨set, prints⟩ := List.mem_filter.mp member
  obtain ⟨primitive, inside, set⟩ := List.mem_map.mp set
  cases primitive with
  | figure figure band => exact absurd set (by simp [setFor])
  | text existing origin originBand =>
      simp only [setFor, Primitive.text.injEq] at set
      obtain ⟨shown, rfl, rfl⟩ := set
      exact ⟨laid, found, prints, existing, inside, shown.symm⟩

/-- A text shows the total it was drawn with. -/
theorem shows_total (standing : input.run[index]? = some page)
    (member : .text text drawn type ∈ page.primitives)
    (settled : dependsOnPage drawn.element.value = true → input.Settled index drawn) :
    input.Shows index text drawn drawn.total := by
  obtain ⟨laid, found, _, existing, inside, set⟩ := mem_run_primitives standing member
  have holds := firstPass_holds found inside
  obtain ⟨_, read, _⟩ := recorded_firstPass.texts index existing drawn type holds
  unfold Shows
  dsimp only
  by_cases depends : dependsOnPage drawn.element.value = true
  · rw [if_pos depends, endTotal_of_settled holds (settled depends), textFor] at set
    rw [if_pos depends, set]
    cases input.buildTextElement drawn.element drawn.total
        { drawn.context with page := finalDescriptor input.firstPass.sheets.closed index }
        drawn.topMm drawn.stretchMm with
    | none => exact ⟨existing, rfl⟩
    | some shown => rfl
  · rw [if_neg depends] at set ⊢
    rw [read.built]
    exact set

end LayoutInput

end ErpServer.Print
