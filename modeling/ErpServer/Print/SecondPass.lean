import ErpServer.Print.Pages

/-!
# The second pass

A text that mentions the page is set once more when the page count is known.  Its row and its
group are those it was drawn with; its total is read where the layout ended.
-/

namespace ErpServer.Print

open Lib
open Receipt (Decimal)
open LayoutInput (runEnd finalDescriptor)

variable {Row Text Figure : Type}

/-! ## Numbering runs -/

/-- The places where a number stands. -/
def placesOf (starts : List ℕ) (start : ℕ) : List ℕ :=
  (starts.zipIdx.filter fun item => item.1 = start).map Prod.snd

/-- The pages of a numbering run. -/
def numberingRun (pages : List (LayoutPage Row Text Figure)) (start : ℕ) : List ℕ :=
  placesOf (pages.map LayoutPage.numberingStart) start

theorem placesOf_concat (starts : List ℕ) (last start : ℕ) :
    placesOf (starts ++ [last]) start =
      placesOf starts start ++ if last = start then [starts.length] else [] := by
  unfold placesOf
  rw [List.zipIdx_append, List.filter_append, List.map_append]
  by_cases same : last = start
  · simp [same]
  · simp [same]

variable {starts : List ℕ}

theorem mem_placesOf {start index : ℕ} :
    index ∈ placesOf starts start ↔ starts[index]? = some start := by
  unfold placesOf
  constructor
  · intro member
    obtain ⟨item, found, rfl⟩ := List.mem_map.mp member
    have kept := List.mem_filter.mp found
    have standing := List.mem_zipIdx_iff_getElem?.mp kept.1
    rwa [of_decide_eq_true kept.2] at standing
  · intro standing
    apply List.mem_map.mpr
    exact ⟨(start, index), List.mem_filter.mpr
      ⟨List.mem_zipIdx_iff_getElem?.mpr standing, decide_eq_true rfl⟩, rfl⟩

/-- A run is a stretch of pages from its start on, and the last run reaches the last page. -/
theorem Numbered.placesOf_eq (numbered : Numbered starts) (start : ℕ) :
    ∃ count, placesOf starts start = List.range' start count ∧
      (count = 0 ∨ start + count ≤ starts.length) ∧
      (starts.getLast? = some start → start + count = starts.length) := by
  induction numbered generalizing start with
  | nil =>
      refine ⟨0, rfl, Or.inl rfl, ?_⟩
      intro found
      exact absurd found (by simp)
  | @fresh starts before ih =>
      obtain ⟨count, places, bound, _⟩ := ih start
      by_cases same : starts.length = start
      · have none : count = 0 := by omega
        subst none
        refine ⟨1, ?_, ?_, ?_⟩
        · rw [placesOf_concat, places, if_pos same, same]
          rfl
        · right
          simp [same]
        · intro _
          simp [same]
      · refine ⟨count, ?_, ?_, ?_⟩
        · rw [placesOf_concat, places, if_neg same, List.append_nil]
        · rw [List.length_append]
          omega
        · intro found
          rw [List.getLast?_concat, Option.some.injEq] at found
          exact absurd found same
  | @onward starts last before found ih =>
      obtain ⟨count, places, bound, reaches⟩ := ih start
      by_cases same : last = start
      · subst same
        have reached := reaches found
        refine ⟨count + 1, ?_, ?_, ?_⟩
        · rw [placesOf_concat, places, if_pos rfl, List.range'_1_concat, reached]
        · right
          rw [List.length_append, List.length_singleton]
          omega
        · intro _
          rw [List.length_append, List.length_singleton]
          omega
      · refine ⟨count, ?_, ?_, ?_⟩
        · rw [placesOf_concat, places, if_neg same, List.append_nil]
        · rw [List.length_append]
          omega
        · intro reached
          rw [List.getLast?_concat, Option.some.injEq] at reached
          exact absurd reached same

theorem runEnd_eq (pages : List (LayoutPage Row Text Figure)) (start : ℕ) :
    runEnd pages start = (numberingRun pages start).foldl max start := by
  unfold runEnd numberingRun placesOf
  rw [List.zipIdx_map, List.filter_map, List.map_map, List.foldl_map]
  rfl

theorem foldl_max_range' (start count : ℕ) :
    (List.range' start (count + 1)).foldl max start = start + count := by
  induction count with
  | zero => exact max_self start
  | succ count ih =>
      rw [List.range'_1_concat, List.foldl_append, ih]
      exact max_eq_right (by omega)

theorem finalDescriptor_congr {left right : List (LayoutPage Row Text Figure)}
    (same : left.map LayoutPage.numberingStart = right.map LayoutPage.numberingStart) :
    finalDescriptor left = finalDescriptor right := by
  funext index
  have start : left[index]?.map LayoutPage.numberingStart =
      right[index]?.map LayoutPage.numberingStart := by
    rw [← List.getElem?_map, ← List.getElem?_map, same]
  unfold finalDescriptor
  rw [start]
  simp only [runEnd_eq, numberingRun, same]

/-- Within a run the pages are numbered from 1 on, and every page knows how many there are. -/
structure CountsItsPages (pages : List (LayoutPage Row Text Figure)) (start : ℕ) : Prop where
  number : (numberingRun pages start).map (fun index => (finalDescriptor pages index).number) =
    List.range' 1 (numberingRun pages start).length
  total : ∀ index ∈ numberingRun pages start,
    (finalDescriptor pages index).total = (numberingRun pages start).length
  isFirst : ∀ index ∈ numberingRun pages start,
    (finalDescriptor pages index).isFirst ↔ (numberingRun pages start).head? = some index
  isLast : ∀ index ∈ numberingRun pages start,
    (finalDescriptor pages index).isLast ↔ (numberingRun pages start).getLast? = some index

theorem Numbered.countsItsPages {pages : List (LayoutPage Row Text Figure)}
    (numbered : Numbered (pages.map LayoutPage.numberingStart)) (start : ℕ) :
    CountsItsPages pages start := by
  obtain ⟨count, places, _, _⟩ := numbered.placesOf_eq start
  have run : numberingRun pages start = List.range' start count := places
  have descriptor (index : ℕ) (member : index ∈ numberingRun pages start) :
      finalDescriptor pages index =
        ⟨index - start + 1, runEnd pages start - start + 1, index = start,
          index = runEnd pages start⟩ := by
    have standing := mem_placesOf.mp member
    rw [List.getElem?_map] at standing
    unfold finalDescriptor
    rw [standing]
    rfl
  cases count with
  | zero =>
      have empty : numberingRun pages start = [] := run
      constructor
      · rw [empty]
        rfl
      · rw [empty]
        exact fun index member => absurd member List.not_mem_nil
      · rw [empty]
        exact fun index member => absurd member List.not_mem_nil
      · rw [empty]
        exact fun index member => absurd member List.not_mem_nil
  | succ count =>
      have last : runEnd pages start = start + count := by
        rw [runEnd_eq, run, foldl_max_range']
      constructor
      · rw [List.map_congr_left fun index member => by rw [descriptor index member], run]
        apply List.ext_getElem
        · simp
        · intro index inside inside'
          simp only [List.getElem_map, List.getElem_range']
          omega
      · intro index member
        rw [descriptor index member, last, run, List.length_range']
        dsimp only
        omega
      · intro index member
        rw [descriptor index member, run, List.head?_range']
        simp [eq_comm]
      · intro index member
        rw [descriptor index member, last, run, List.getLast?_range']
        simp [eq_comm]

/-! ## Texts set again -/

theorem modify_middle {α : Type} (front back : List α) (item : α) (f : α → α) :
    (front ++ item :: back).modify front.length f = front ++ f item :: back := by
  induction front with
  | nil => rfl
  | cons first rest ih => exact congrArg (first :: ·) ih

namespace LayoutInput

variable (input : LayoutInput Row Text Figure)

/-- The total an aggregate comes to when the layout has ended. -/
def endTotal (run : LayoutRun Row Text Figure) (element : TextElement) : Decimal :=
  readAggregate input.prePass run.sheets.pageAggregates run.openGroups element

/-- A text set for a page of which everything is known. -/
def textFor (page : PageDescriptor) (total : Decimal) (existing : Text) (drawn : Drawn Row) :
    Text :=
  (input.buildTextElement drawn.element total { drawn.context with page := page } drawn.topMm
    drawn.stretchMm).getD (input.drawing.blankText existing)

/-- A primitive with its text set for its page where it mentions the page, the total taken
from somewhere. -/
def setFor (totalFor : Drawn Row → Decimal) (page : PageDescriptor) :
    Primitive Row Text Figure → Primitive Row Text Figure
  | .text text drawn band =>
      .text (if dependsOnPage drawn.element.value then
        input.textFor page (totalFor drawn) text drawn else text) drawn band
  | .figure figure band => .figure figure band

theorem setFor_band (totalFor : Drawn Row → Decimal) (page : PageDescriptor)
    (primitive : Primitive Row Text Figure) :
    (input.setFor totalFor page primitive).band = primitive.band := by
  cases primitive with
  | text text drawn band => rfl
  | figure figure band => rfl

variable (run : LayoutRun Row Text Figure)

/-- Every primitive of a page set again, by what the layout ended with. -/
def setPage (page : PageDescriptor) (laid : LayoutPage Row Text Figure) :
    LayoutPage Row Text Figure :=
  { laid with
    primitives := laid.primitives.map
      (input.setFor (fun drawn => input.endTotal run drawn.element) page) }

/-- One second look, with the descriptors settled. -/
def amend (descriptor : ℕ → PageDescriptor) (pages : List (LayoutPage Row Text Figure))
    (entry : DeferredText Row) : List (LayoutPage Row Text Figure) :=
  pages.modify entry.pageIndex fun page =>
    { page with
      primitives := page.primitives.modify entry.primitiveIndex
        (input.rebuild run (descriptor entry.pageIndex) entry.drawn) }

theorem amend_starts (descriptor : ℕ → PageDescriptor)
    (pages : List (LayoutPage Row Text Figure)) (entry : DeferredText Row) :
    (input.amend run descriptor pages entry).map LayoutPage.numberingStart =
      pages.map LayoutPage.numberingStart := by
  apply List.ext_getElem?
  intro index
  rw [List.getElem?_map, List.getElem?_map, amend, List.getElem?_modify]
  cases pages[index]? with
  | none => rfl
  | some page =>
      by_cases here : entry.pageIndex = index
      · simp [here]
      · simp [here]

/-- The page numbers do not change while the texts do. -/
theorem resolveDeferred_eq_amend (pages : List (LayoutPage Row Text Figure))
    (entries : List (DeferredText Row)) :
    entries.foldl (input.resolveDeferred run) pages =
      entries.foldl (input.amend run (finalDescriptor pages)) pages := by
  have follow (entries : List (DeferredText Row))
      (current : List (LayoutPage Row Text Figure))
      (same : finalDescriptor current = finalDescriptor pages) :
      entries.foldl (input.resolveDeferred run) current =
        entries.foldl (input.amend run (finalDescriptor pages)) current := by
    induction entries generalizing current with
    | nil => rfl
    | cons entry rest ih =>
        have first : input.resolveDeferred run current entry =
            input.amend run (finalDescriptor pages) current entry := by
          unfold resolveDeferred amend
          rw [same]
        rw [List.foldl_cons, List.foldl_cons, first]
        apply ih
        rw [← same]
        exact finalDescriptor_congr (input.amend_starts run _ current entry)
  exact follow entries pages rfl

/-- The second looks of one page set its texts, from some primitive on. -/
theorem amend_deferrals (descriptor : ℕ → PageDescriptor)
    (done rest : List (LayoutPage Row Text Figure))
    (front back : List (Primitive Row Text Figure)) {page : LayoutPage Row Text Figure}
    (split : page.primitives = front ++ back) :
    (deferrals done.length back front.length).foldl (input.amend run descriptor)
        (done ++ page :: rest) =
      done ++ { page with
        primitives := front ++ back.map
          (input.setFor (fun drawn => input.endTotal run drawn.element)
            (descriptor done.length)) } :: rest := by
  induction back generalizing front page with
  | nil =>
      rw [List.map_nil, ← split]
      rfl
  | cons primitive back ih =>
      have later := deferrals_append done.length [primitive] back front.length
      rw [List.singleton_append, deferrals_singleton, List.length_singleton] at later
      rw [later, List.foldl_append]
      have untouched (same : input.setFor (fun drawn => input.endTotal run drawn.element)
          (descriptor done.length) primitive = primitive) :
          (deferrals done.length back (front.length + 1)).foldl (input.amend run descriptor)
              (done ++ page :: rest) =
            done ++ { page with
              primitives := front ++ (primitive :: back).map
                (input.setFor (fun drawn => input.endTotal run drawn.element)
                  (descriptor done.length)) } :: rest := by
        have next := @ih (front ++ [primitive]) page
          (by rw [split, List.append_assoc]; rfl)
        rw [List.length_append, List.length_singleton] at next
        rw [next, List.map_cons, same, List.append_assoc]
        rfl
      cases primitive with
      | figure figure band => exact untouched rfl
      | text text drawn band =>
          by_cases depends : dependsOnPage drawn.element.value
          · have looked : deferral done.length front.length (.text text drawn band :
                Primitive Row Text Figure) = some ⟨done.length, front.length, drawn⟩ :=
              if_pos depends
            rw [looked, Option.toList_some, List.foldl_cons, List.foldl_nil]
            have changed : input.amend run descriptor (done ++ page :: rest)
                ⟨done.length, front.length, drawn⟩ =
                done ++ { page with
                  primitives := front ++ .text (input.textFor (descriptor done.length)
                    (input.endTotal run drawn.element) text drawn) drawn band :: back }
                  :: rest := by
              unfold amend
              rw [modify_middle]
              dsimp only
              rw [split, modify_middle]
              rfl
            rw [changed]
            have next := @ih (front ++ [.text (input.textFor (descriptor done.length)
                (input.endTotal run drawn.element) text drawn) drawn band])
              { page with
                primitives := front ++ .text (input.textFor (descriptor done.length)
                  (input.endTotal run drawn.element) text drawn) drawn band :: back }
              (by rw [List.append_assoc]; rfl)
            rw [List.length_append, List.length_singleton] at next
            rw [next, List.map_cons, List.append_assoc]
            simp only [setFor, if_pos depends, List.singleton_append]
          · have looked : deferral done.length front.length (.text text drawn band :
                Primitive Row Text Figure) = none :=
              if_neg depends
            rw [looked, Option.toList_none, List.foldl_nil]
            apply untouched
            simp only [setFor, if_neg depends]

theorem amend_pageDeferrals (descriptor : ℕ → PageDescriptor)
    (done rest : List (LayoutPage Row Text Figure)) :
    ((rest.zipIdx done.length).flatMap fun item =>
        deferrals item.2 item.1.primitives 0).foldl (input.amend run descriptor)
        (done ++ rest) =
      done ++ (rest.zipIdx done.length).map fun item =>
        input.setPage run (descriptor item.2) item.1 := by
  induction rest generalizing done with
  | nil => rfl
  | cons page rest ih =>
      rw [List.zipIdx_cons, List.flatMap_cons, List.foldl_append, List.map_cons]
      have whole : page.primitives = [] ++ page.primitives := rfl
      have first := input.amend_deferrals run descriptor done rest [] page.primitives whole
      rw [List.length_nil, List.nil_append] at first
      rw [first]
      have next := ih (done ++ [input.setPage run (descriptor done.length) page])
      rw [List.length_append, List.length_singleton, List.append_assoc,
        List.append_assoc] at next
      exact next

/-- The second pass sets every text that mentions the page once more, and nothing else. -/
theorem resolveDeferred_pages (pages : List (LayoutPage Row Text Figure)) :
    (pageDeferrals pages).foldl (input.resolveDeferred run) pages =
      pages.mapIdx fun index page =>
        input.setPage run (finalDescriptor pages index) page := by
  rw [resolveDeferred_eq_amend, List.mapIdx_eq_zipIdx_map]
  exact input.amend_pageDeferrals run (finalDescriptor pages) [] pages

/-! ## Bands of the last page -/

/-- Whether what a band drew on a page stays: `LAST_PAGE` is for the last page only, and
`NOT_LAST_PAGE` for every other. -/
def printsOn (total pageIndex : ℕ) (band : BandType) : Bool :=
  if band ∈ PAGE_BANDS then
    (input.firstBand band).all fun band =>
      match band.printOn with
      | .LAST_PAGE => pageIndex + 1 = total
      | .NOT_LAST_PAGE => pageIndex + 1 ≠ total
      | _ => true
  else true

variable {band : BandType}

theorem printsOn_eq (total pageIndex : ℕ) (pageBand : band ∈ PAGE_BANDS) :
    input.printsOn total pageIndex band =
      !suppressionNeeded (input.firstBand band) total pageIndex := by
  unfold printsOn suppressionNeeded
  rw [if_pos pageBand]
  cases input.firstBand band with
  | none => rfl
  | some band =>
      by_cases last : pageIndex + 1 = total
      · cases printOn : band.printOn <;> simp [last, printOn]
      · cases printOn : band.printOn <;> simp [last, printOn]

theorem printsOn_body (total pageIndex : ℕ) (body : band ∉ PAGE_BANDS) :
    input.printsOn total pageIndex band = true :=
  if_neg body

theorem filter_all {α : Type} {keep : α → Bool} {items : List α} {value : Bool}
    (same : ∀ item ∈ items, keep item = value) :
    items.filter keep = if value then items else [] := by
  cases value with
  | true => exact List.filter_eq_self.mpr same
  | false =>
      apply List.filter_eq_nil_iff.mpr
      intro item member
      rw [same item member]
      exact Bool.false_ne_true

/-- Cutting the counted primitives off both ends is leaving out what those bands drew. -/
theorem suppressed_eq {page : LayoutPage Row Text Figure} (shape : ClosedShape page)
    (total index : ℕ) :
    (let front :=
      if suppressionNeeded (input.firstBand .PAGE_FOOTER) total index then
        page.primitives.take (page.primitives.length - page.footerPrimitiveCount)
      else page.primitives
    if suppressionNeeded (input.firstBand .PAGE_HEADER) total index then
      front.drop page.headerPrimitiveCount
    else front) =
      page.primitives.filter fun primitive => input.printsOn total index primitive.band := by
  obtain ⟨header, body, footer, split, headerCount, footerCount, headerBand, bodyBand,
    footerBand⟩ := shape
  have headerKept : header.filter (fun primitive => input.printsOn total index primitive.band) =
      if !suppressionNeeded (input.firstBand .PAGE_HEADER) total index then header else [] := by
    apply filter_all
    intro primitive member
    rw [headerBand primitive member, printsOn_eq input total index (by decide)]
  have footerKept : footer.filter (fun primitive => input.printsOn total index primitive.band) =
      if !suppressionNeeded (input.firstBand .PAGE_FOOTER) total index then footer else [] := by
    apply filter_all
    intro primitive member
    rw [footerBand primitive member, printsOn_eq input total index (by decide)]
  have bodyKept : body.filter (fun primitive => input.printsOn total index primitive.band) =
      body := by
    apply List.filter_eq_self.mpr
    intro primitive member
    exact input.printsOn_body total index (bodyBand primitive member)
  have uncut : (header ++ body ++ footer).take
      ((header ++ body ++ footer).length - footer.length) = header ++ body := by
    rw [List.length_append, Nat.add_sub_cancel, List.take_left]
  rw [split, headerCount, footerCount, List.filter_append, List.filter_append, headerKept,
    bodyKept, footerKept]
  dsimp only
  cases suppressionNeeded (input.firstBand .PAGE_FOOTER) total index with
  | true =>
      rw [if_pos rfl, uncut]
      cases suppressionNeeded (input.firstBand .PAGE_HEADER) total index with
      | true => simp
      | false => simp
  | false =>
      cases suppressionNeeded (input.firstBand .PAGE_HEADER) total index with
      | true => simp
      | false => simp

theorem setPage_shape (page : PageDescriptor) {laid : LayoutPage Row Text Figure}
    (shape : ClosedShape laid) : ClosedShape (input.setPage run page laid) := by
  obtain ⟨header, body, footer, split, headerCount, footerCount, headerBand, bodyBand,
    footerBand⟩ := shape
  let set := input.setFor (fun drawn => input.endTotal run drawn.element) page
  refine ⟨header.map set, body.map set, footer.map set, ?_, headerCount.trans ?_,
    footerCount.trans ?_, ?_, ?_, ?_⟩
  · unfold setPage
    rw [split, List.map_append, List.map_append]
  · rw [List.length_map]
  · rw [List.length_map]
  · intro primitive member
    obtain ⟨origin, found, rfl⟩ := List.mem_map.mp member
    rw [setFor_band]
    exact headerBand origin found
  · intro primitive member
    obtain ⟨origin, found, rfl⟩ := List.mem_map.mp member
    rw [setFor_band]
    exact bodyBand origin found
  · intro primitive member
    obtain ⟨origin, found, rfl⟩ := List.mem_map.mp member
    rw [setFor_band]
    exact footerBand origin found

/-! ## The pages of a report -/

/-- The pages of the first pass with their texts set again, the totals taken from somewhere,
and the bands that do not belong on a page left out. -/
def finalPages (totalFor : Drawn Row → Decimal) : List (LayoutPage Row Text Figure) :=
  let pages := input.firstPass.sheets.closed
  pages.mapIdx fun index page =>
    { page with
      primitives := (page.primitives.map
        (input.setFor totalFor (finalDescriptor pages index))).filter fun primitive =>
          input.printsOn pages.length index primitive.band }

/-- What comes out is the first pass with its texts set by the totals the layout ended with. -/
theorem run_eq : input.run =
    input.finalPages fun drawn => input.endTotal input.firstPass drawn.element := by
  have laid := input.laid_firstPass
  have recorded := laid.deferred
  rw [input.firstPass_pages] at recorded
  unfold LayoutInput.run resolveDeferredText
  rw [recorded, resolveDeferred_pages]
  unfold suppressLastPageBands finalPages
  rw [List.length_mapIdx, List.mapIdx_mapIdx]
  apply List.mapIdx_eq_mapIdx_iff.mpr
  intro index inside
  have shape := laid.closed _ (List.getElem_mem inside)
  have cut := input.suppressed_eq (input.setPage_shape input.firstPass
    (finalDescriptor input.firstPass.sheets.closed index) shape)
    input.firstPass.sheets.closed.length index
  dsimp only at cut
  dsimp only [Function.comp]
  rw [cut]
  rfl

end LayoutInput

end ErpServer.Print
