import ErpServer.Print.Emissions

/-!
# Pages as the first pass leaves them

Every page is its header, its body and its footer, in that order.  The texts to look at again
stand where the first pass put them, and every page is numbered on from the one before it or
from itself.
-/

namespace ErpServer.Print

open Lib
open Receipt (Decimal)

variable {Row Text Figure : Type}

/-- The second looks the primitives of some pages ask for. -/
def pageDeferrals (pages : List (LayoutPage Row Text Figure)) : List (DeferredText Row) :=
  pages.zipIdx.flatMap fun item => deferrals item.2 item.1.primitives 0

theorem pageDeferrals_concat (pages : List (LayoutPage Row Text Figure))
    (page : LayoutPage Row Text Figure) :
    pageDeferrals (pages ++ [page]) =
      pageDeferrals pages ++ deferrals pages.length page.primitives 0 := by
  unfold pageDeferrals
  rw [List.zipIdx_append, List.flatMap_append]
  simp

/-- A page still open is its header and what the body has printed so far. -/
def OpenShape (page : LayoutPage Row Text Figure) : Prop :=
  ∃ header body, page.primitives = header ++ body ∧
    page.headerPrimitiveCount = header.length ∧
    (∀ primitive ∈ header, primitive.band = .PAGE_HEADER) ∧
    ∀ primitive ∈ body, primitive.band ∉ LayoutInput.PAGE_BANDS

/-- A closed page is its header, its body and its footer. -/
def ClosedShape (page : LayoutPage Row Text Figure) : Prop :=
  ∃ header body footer, page.primitives = header ++ body ++ footer ∧
    page.headerPrimitiveCount = header.length ∧
    page.footerPrimitiveCount = footer.length ∧
    (∀ primitive ∈ header, primitive.band = .PAGE_HEADER) ∧
    (∀ primitive ∈ body, primitive.band ∉ LayoutInput.PAGE_BANDS) ∧
    ∀ primitive ∈ footer, primitive.band = .PAGE_FOOTER

/-- Where each page's numbering starts: at the page itself, or where the page before it
starts. -/
inductive Numbered : List ℕ → Prop where
  | nil : Numbered []
  | fresh {starts : List ℕ} (before : Numbered starts) : Numbered (starts ++ [starts.length])
  | onward {starts : List ℕ} {last : ℕ} (before : Numbered starts)
      (found : starts.getLast? = some last) : Numbered (starts ++ [last])

theorem Numbered.dropLast {starts : List ℕ} (numbered : Numbered starts) :
    Numbered starts.dropLast := by
  cases numbered with
  | nil => exact Numbered.nil
  | fresh before => rwa [List.dropLast_concat]
  | onward before found => rwa [List.dropLast_concat]

/-- What holds of the pages as long as the report is printed. -/
structure Laid (sheets : Sheets Row Text Figure) : Prop where
  deferred : sheets.deferred = pageDeferrals sheets.pages
  closed : ∀ page ∈ sheets.closed, ClosedShape page
  current : ∀ page, sheets.current = some page → OpenShape page
  numbered : Numbered (sheets.pages.map LayoutPage.numberingStart)

variable {sheets : Sheets Row Text Figure}

theorem Sheets.pages_of_page {page : LayoutPage Row Text Figure}
    (current : sheets.current = some page) : sheets.pages = sheets.closed ++ [page] := by
  simp only [Sheets.pages, current, Option.toList_some]

theorem Sheets.pages_of_none (current : sheets.current = none) : sheets.pages = sheets.closed := by
  simp only [Sheets.pages, current, Option.toList_none, List.append_nil]

theorem Laid.empty : Laid ({} : Sheets Row Text Figure) := by
  constructor
  · rfl
  · exact fun page member => absurd member List.not_mem_nil
  · exact fun page current => absurd current (by simp)
  · exact Numbered.nil

namespace LayoutInput

variable {input : LayoutInput Row Text Figure}
variable {precomputed : PrecomputedAggregates} {openGroups : List OpenGroup}

variable {sheets : Sheets Row Text Figure}

/-- A primitive of the body goes under the others, and its second look with it. -/
theorem laid_push (laid : Laid sheets) {primitive : Primitive Row Text Figure}
    (body : primitive.band ∉ PAGE_BANDS) : Laid (sheets.push primitive) := by
  cases current : sheets.current with
  | none => rwa [Sheets.push_of_none current]
  | some page =>
      rw [Sheets.push_of_page current]
      constructor
      · have recorded := laid.deferred
        rw [Sheets.pages_of_page current, pageDeferrals_concat] at recorded
        rw [Sheets.pages_of_page rfl, pageDeferrals_concat]
        dsimp only
        rw [recorded, deferrals_append, List.append_assoc, Nat.zero_add]
      · exact laid.closed
      · intro page' current'
        cases current'
        obtain ⟨header, printed, split, count, headerBand, bodyBand⟩ := laid.current page current
        refine ⟨header, printed ++ [primitive], ?_, count, headerBand, ?_⟩
        · rw [← List.append_assoc, ← split]
        · intro other member
          rcases List.mem_append.mp member with member | member
          · exact bodyBand other member
          · rw [List.mem_singleton.mp member]
            exact body
      · have numbered := laid.numbered
        rw [Sheets.pages_of_page current] at numbered
        rw [Sheets.pages_of_page rfl]
        simpa using numbered

theorem laid_renumber (laid : Laid sheets) {page : LayoutPage Row Text Figure}
    (current : sheets.current = some page) : Laid { sheets with
      current := some { page with numberingStart := sheets.closed.length } } := by
  constructor
  · have recorded := laid.deferred
    rw [Sheets.pages_of_page current, pageDeferrals_concat] at recorded
    rw [Sheets.pages_of_page rfl, pageDeferrals_concat]
    exact recorded
  · exact laid.closed
  · intro page' current'
    cases current'
    exact laid.current page current
  · have numbered := laid.numbered.dropLast
    rw [Sheets.pages_of_page current, List.map_append, List.map_singleton,
      List.dropLast_concat] at numbered
    rw [Sheets.pages_of_page rfl, List.map_append, List.map_singleton]
    have fresh := numbered.fresh
    rwa [List.length_map] at fresh

/-- A closed page keeps its place among the pages. -/
theorem laid_finishPage (laid : Laid sheets) :
    Laid (input.finishPage precomputed openGroups sheets) := by
  cases current : sheets.current with
  | none => rwa [input.finishPage_of_none precomputed openGroups current]
  | some page =>
      obtain ⟨footer, asDrawn, finished⟩ :=
        input.finishPage_of_page precomputed openGroups current
      rw [finished]
      constructor
      · have recorded := laid.deferred
        rw [Sheets.pages_of_page current, pageDeferrals_concat] at recorded
        rw [Sheets.pages_of_none rfl, pageDeferrals_concat]
        dsimp only
        rw [recorded, deferrals_append, List.append_assoc, Nat.zero_add]
      · intro closed member
        rcases List.mem_append.mp member with member | member
        · exact laid.closed closed member
        · rw [List.mem_singleton.mp member]
          obtain ⟨header, printed, split, count, headerBand, bodyBand⟩ :=
            laid.current page current
          refine ⟨header, printed, footer, congrArg (· ++ footer) split, count, rfl, headerBand,
            bodyBand, ?_⟩
          exact fun primitive member => (asDrawn primitive member).band_eq
      · exact fun page' current' => absurd current' (by simp)
      · have numbered := laid.numbered
        rw [Sheets.pages_of_page current] at numbered
        rw [Sheets.pages_of_none rfl]
        simpa using numbered

theorem laid_startPage (laid : Laid sheets) (current : sheets.current = none) :
    Laid (input.startPage precomputed openGroups sheets) := by
  rcases input.startPage_opens precomputed openGroups sheets with
    same | ⟨header, numberingStart, asDrawn, start, started⟩
  · rwa [same]
  · rw [started]
    constructor
    · have recorded := laid.deferred
      rw [Sheets.pages_of_none current] at recorded
      rw [Sheets.pages_of_page rfl, pageDeferrals_concat]
      dsimp only
      rw [recorded]
    · exact laid.closed
    · intro page' current'
      cases current'
      refine ⟨header, [], (List.append_nil header).symm, rfl, ?_, ?_⟩
      · exact fun primitive member => (asDrawn primitive member).band_eq
      · exact fun primitive member => absurd member List.not_mem_nil
    · have numbered := laid.numbered
      rw [Sheets.pages_of_none current] at numbered
      rw [Sheets.pages_of_page rfl, List.map_append, List.map_singleton]
      rcases start with rfl | ⟨last, found, rfl⟩
      · have fresh := numbered.fresh
        rwa [List.length_map] at fresh
      · apply numbered.onward
        rw [List.getLast?_map, found]
        rfl

theorem laid_step {band : Band} {context : Context Row} {before after : Sheets Row Text Figure}
    (step : input.Step precomputed openGroups band context before after) (laid : Laid before) :
    Laid after := by
  cases step with
  | push body primitive asDrawn =>
      apply laid_push laid
      rw [asDrawn.band_eq]
      exact body
  | move cursorMm => exact ⟨laid.deferred, laid.closed, laid.current, laid.numbered⟩
  | restart asked => exact ⟨laid.deferred, laid.closed, laid.current, laid.numbered⟩
  | renumber page current => exact laid_renumber laid current
  | breakPage =>
      exact laid_startPage (laid_finishPage laid)
        (input.finishPage_current precomputed openGroups before)

theorem laid_kept : input.Kept precomputed fun sheets _ => Laid sheets where
  step := laid_step
  count := fun _ _ _ _ laid => ⟨laid.deferred, laid.closed, laid.current, laid.numbered⟩

variable (input)

/-- The pages the first pass closes, one and all. -/
theorem laid_firstPass : Laid input.firstPass.sheets := by
  rw [input.firstPass_eq]
  apply laid_finishPage
  exact laid_kept.printed (laid_startPage Laid.empty rfl)

theorem firstPass_pages : input.firstPass.sheets.pages = input.firstPass.sheets.closed := by
  apply Sheets.pages_of_none
  rw [input.firstPass_eq]
  exact input.finishPage_current _ _ _

end LayoutInput

end ErpServer.Print
