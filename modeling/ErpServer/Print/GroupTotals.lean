import ErpServer.Print.Paginated
import ErpServer.Print.PrePass

/-!
# Group totals

A group band reads the total of the innermost group that is open while it prints.  For a
header that is its own group; for a footer it is the group its last row was in, at the
deepest level.
-/

namespace ErpServer.Print

open Lib
open Receipt (Decimal)

/-! ## What opens and what closes -/

section Events

variable {keysAt : ℕ → List String} {levels count : ℕ}

variable {group : OpenGroup}

variable {openGroups : List OpenGroup} {level next : ℕ}

/-- A group is open at the head of the stack when its header prints, with its first row. -/
theorem opened_mem (lengths : ∀ other < count, (keysAt other).length = levels)
    (member : .opened group openGroups ∈ sectionEvents keysAt levels count) :
    ∃ row level, row < count ∧ level < levels ∧ startOf keysAt level row = row ∧
      group = newGroup keysAt row level ∧
      openGroups.getLast? = some (newGroup keysAt row level) := by
  unfold sectionEvents rowEvents at member
  dsimp only at member
  rcases List.mem_append.mp member with inRows | atEnd
  · obtain ⟨row, inRange, event⟩ := List.mem_flatMap.mp inRows
    have present := List.mem_range.mp inRange
    rcases List.mem_append.mp event with closing | opening
    · obtain ⟨_, _, _, _, _, same⟩ := mem_closings.mp closing
      cases same
    · obtain ⟨level, from_break, within, same⟩ := mem_openings.mp opening
      injection same with groups open'
      have inside : level < levels := by omega
      have last : level + 1 - breakLevel keysAt levels row =
          level - breakLevel keysAt levels row + 1 := by omega
      have deepest : breakLevel keysAt levels row +
          (level - breakLevel keysAt levels row) = level := by omega
      have begins : startOf keysAt level row = row := by
        cases row with
        | zero => rfl
        | succ row =>
            exact if_neg ((breakLevel_succ (lengths row (by omega)) (lengths (row + 1) present)
              inside).mp from_break)
      refine ⟨row, level, present, inside, begins, groups, ?_⟩
      rw [open', last, List.range'_1_concat, List.map_append, ← List.append_assoc,
        List.map_singleton, List.getLast?_concat, deepest]
  · obtain ⟨_, _, _, _, _, same⟩ := mem_closings.mp atEnd
    cases same

/-- A group that a row is in ends somewhere. -/
theorem exists_end {level row : ℕ} (present : row < count) :
    ∃ next, EndsBefore keysAt count level next ∧
      startOf keysAt level (next - 1) = startOf keysAt level row := by
  induction left : count - row generalizing row with
  | zero => omega
  | succ more ih =>
      by_cases last : row + 1 = count
      · exact ⟨row + 1, ⟨Nat.zero_lt_succ row, last.le, Or.inl last⟩, rfl⟩
      · by_cases same : SameGroup keysAt level row (row + 1)
        · obtain ⟨next, ends, start⟩ := ih (by omega : row + 1 < count) (by omega)
          exact ⟨next, ends, start.trans (if_pos same)⟩
        · exact ⟨row + 1, ⟨Nat.zero_lt_succ row, by omega, Or.inr same⟩, rfl⟩

/-- A level breaks exactly where its group ends. -/
theorem breaks_iff {row : ℕ} (lengths : ∀ other < count, (keysAt other).length = levels)
    (present : row + 1 < count) (inside : level < levels) :
    breakLevel keysAt levels (row + 1) ≤ level ↔ EndsBefore keysAt count level (row + 1) := by
  rw [breakLevel_succ (lengths row (by omega)) (lengths (row + 1) present) inside]
  unfold EndsBefore
  constructor
  · intro different
    exact ⟨Nat.zero_lt_succ row, present.le, Or.inr different⟩
  · intro ends
    exact ends.2.2.resolve_left (Nat.ne_of_lt present)

/-- A group that stands on the stack before a row is one of the row above. -/
theorem standing_group (within : level < (stackBefore keysAt levels next).length)
    (standing : (stackBefore keysAt levels next)[level]? = some group) :
    ∃ row, next = row + 1 ∧ level < levels ∧ group = groupAfter keysAt row level := by
  cases next with
  | zero => exact absurd within (Nat.not_lt_zero level)
  | succ row =>
      change level < (stackAfter keysAt levels row).length at within
      rw [stackAfter_length] at within
      have here := @getElem?_stackAfter keysAt levels row level within
      change (stackAfter keysAt levels row)[level]? = _ at standing
      rw [here] at standing
      exact ⟨row, rfl, within, (Option.some.inj standing).symm⟩

/-- A group closes where it ends, with every group of its last row still open. -/
theorem closed_mem_iff (lengths : ∀ row < count, (keysAt row).length = levels) :
    .closed group next openGroups ∈ sectionEvents keysAt levels count ↔
      ∃ level < levels, EndsBefore keysAt count level next ∧
        group = groupAfter keysAt (next - 1) level ∧
        openGroups = stackAfter keysAt levels (next - 1) := by
  unfold sectionEvents rowEvents
  dsimp only
  rw [List.mem_append]
  constructor
  · intro member
    rcases member with inRows | atEnd
    · obtain ⟨row, present, event⟩ := List.mem_flatMap.mp inRows
      have before := List.mem_range.mp present
      rcases List.mem_append.mp event with closing | opening
      · obtain ⟨level, from_break, within, found, standing, same⟩ := mem_closings.mp closing
        injection same with groups rows open'
        subst rows
        obtain ⟨row, rfl, within, isGroup⟩ := standing_group within standing
        exact ⟨level, within, (breaks_iff lengths before within).mp from_break,
          groups.trans isGroup, open'⟩
      · obtain ⟨_, _, _, same⟩ := mem_openings.mp opening
        cases same
    · obtain ⟨level, _, within, found, standing, same⟩ := mem_closings.mp atEnd
      injection same with groups rows open'
      subst rows
      obtain ⟨row, rfl, within, isGroup⟩ := standing_group within standing
      have ends : EndsBefore keysAt (row + 1) level (row + 1) :=
        ⟨Nat.zero_lt_succ row, le_refl _, Or.inl rfl⟩
      exact ⟨level, within, ends, groups.trans isGroup, open'⟩
  · intro closing
    obtain ⟨level, inside, ends, rfl, rfl⟩ := closing
    have positive := ends.1
    cases next with
    | zero => exact absurd positive (lt_irrefl 0)
    | succ row =>
        have standing := @getElem?_stackAfter keysAt levels row level inside
        have within : level < (stackBefore keysAt levels (row + 1)).length := by
          change level < (stackAfter keysAt levels row).length
          rwa [stackAfter_length]
        by_cases last : row + 1 = count
        · right
          rw [← last]
          exact mem_closings.mpr ⟨level, Nat.zero_le level, within, _, standing, rfl⟩
        · left
          have present : row + 1 < count := lt_of_le_of_ne ends.2.1 last
          apply List.mem_flatMap.mpr
          refine ⟨row + 1, List.mem_range.mpr present, List.mem_append_left _ ?_⟩
          exact mem_closings.mpr ⟨level, (breaks_iff lengths present inside).mpr ends, within,
            _, standing, rfl⟩

/-- The rows between the opening of a group and its closing, by the event of either. -/
inductive Spans (events : List GroupEvent) : GroupEvent → OpenGroup → ℕ → Prop where
  | opened {group last : OpenGroup} {openGroups stack : List OpenGroup} {next : ℕ} :
      .opened group openGroups ∈ events → .closed last next stack ∈ events →
      placeOf last = placeOf group → Spans events (.opened group openGroups) group next
  | closed {group : OpenGroup} {next : ℕ} {openGroups : List OpenGroup} :
      .closed group next openGroups ∈ events →
        Spans events (.closed group next openGroups) group next

theorem exists_spans (lengths : ∀ row < count, (keysAt row).length = levels) {event : GroupEvent}
    (happened : event ∈ sectionEvents keysAt levels count) :
    ∃ group next, Spans (sectionEvents keysAt levels count) event group next := by
  cases event with
  | closed group next openGroups => exact ⟨group, next, .closed happened⟩
  | opened group openGroups =>
      obtain ⟨row, level, present, inside, begins, rfl, _⟩ := opened_mem lengths happened
      obtain ⟨next, ends, start⟩ := @exists_end keysAt count level row present
      have closing := (closed_mem_iff lengths).mpr ⟨level, inside, ends, rfl, rfl⟩
      refine ⟨_, next, .opened happened closing ?_⟩
      change (level, startOf keysAt level (next - 1)) = (level, row)
      rw [start, begins]

end Events

namespace LayoutInput

variable {Row Text Figure : Type} (input : LayoutInput Row Text Figure)

/-- A field of the band of a level that totals the rows of its groups. -/
def GroupField (details : DetailSection Row) (bands : List Band) (level : ℕ)
    (field : TextElement × Aggregate) : Prop :=
  ∃ band, bands[level]? = some band ∧ field ∈ band.aggregates ∧ field.2.scope = .GROUP ∧
    field.2.source band = some details.dataset

/-- The values of a field over some rows of a section. -/
def fieldValues (details : DetailSection Row) (field : TextElement × Aggregate)
    (first next : ℕ) : List Decimal :=
  input.rowValues details (entryOf field details.dataset) first next

/-- A text that was printed for an event of a section, by the band of its group. -/
structure PrintedFor (details : DetailSection Row) (event : GroupEvent) (band : Band)
    (drawn : Drawn Row) (type : BandType) : Prop where
  type : band.type = type
  matter : input.eventMatter details event =
    some (band, drawn.context.offPage, drawn.openGroups)
  has : band.Has drawn.element

/-- An aggregate that totals the rows of the groups of a band. -/
def OwnTotal (details : DetailSection Row) (band : Band) (drawn : Drawn Row)
    (aggregate : Aggregate) : Prop :=
  drawn.element.aggregate = some aggregate ∧ aggregate.scope = .GROUP ∧
    aggregate.source band = some details.dataset

def GROUP_BANDS : List BandType := [.GROUP_HEADER, .GROUP_FOOTER]

/-- Groups nest, a text of a group band shows the total of the rows of the group it was printed
for, and a report total is over every row of its dataset once. -/
structure GroupTotalsBelong : Prop where
  nested : ∀ record ∈ input.firstPass.records, ProperlyNested record.events
  groups : ∀ index page, input.run[index]? = some page → ∀ text drawn type,
    Primitive.text text drawn type ∈ page.primitives → type ∈ GROUP_BANDS →
    ∃ record ∈ input.firstPass.records, ∃ event band group next,
      input.PrintedFor record.details event band drawn type ∧ Spans record.events event group next ∧
      ∀ aggregate, OwnTotal record.details band drawn aggregate →
        input.Shows index text drawn (totalOf aggregate.fn
          (input.fieldValues record.details (drawn.element, aggregate) group.firstRow next))
  reports : ∀ index page, input.run[index]? = some page → ∀ text drawn type,
    Primitive.text text drawn type ∈ page.primitives → ∀ band ∈ input.template.bands,
    band.Has drawn.element → ∀ aggregate, drawn.element.aggregate = some aggregate →
    aggregate.scope = .REPORT → ∀ dataset,
    input.datasetOf band (drawn.element, aggregate) = some dataset →
    input.Shows index text drawn (totalOf aggregate.fn
      (input.datasetValues (entryOf (drawn.element, aggregate) dataset)))

/-- No group total that is drawn mentions the page, and the rows it is read over, those of the
innermost group that was open, once for every band that repeats them, come to what the rows of
its own group come to.  The same for the rows of a dataset and a report total. -/
structure TotalsAgree : Prop where
  groups : ∀ (index : ℕ) (page : LayoutPage Row Text Figure),
    input.firstPass.sheets.closed[index]? = some page → ∀ text drawn type,
    Primitive.text text drawn type ∈ page.primitives →
    ∀ record ∈ input.firstPass.records, ∀ event band,
    input.PrintedFor record.details event band drawn type →
    ∀ group next, Spans record.events event group next →
    ∀ innermost, drawn.openGroups.getLast? = some innermost →
    ∀ aggregate, OwnTotal record.details band drawn aggregate →
    dependsOnPage drawn.element.value = false ∧
      totalOf aggregate.fn (copies (input.repeats record.details.dataset)
          (input.fieldValues record.details (drawn.element, aggregate) innermost.firstRow next)) =
        totalOf aggregate.fn
          (input.fieldValues record.details (drawn.element, aggregate) group.firstRow next)
  reports : ∀ (index : ℕ) (page : LayoutPage Row Text Figure),
    input.firstPass.sheets.closed[index]? = some page → ∀ text drawn type,
    Primitive.text text drawn type ∈ page.primitives →
    input.printsOn input.firstPass.sheets.closed.length index type = true →
    ∀ band ∈ input.template.bands, band.Has drawn.element →
    ∀ aggregate, drawn.element.aggregate = some aggregate → aggregate.scope = .REPORT →
    ∀ dataset, input.datasetOf band (drawn.element, aggregate) = some dataset →
    totalOf aggregate.fn (copies (input.repeats dataset)
        ((input.datasetValues (entryOf (drawn.element, aggregate) dataset)).take
          MAX_DETAIL_ROWS)) =
      totalOf aggregate.fn (input.datasetValues (entryOf (drawn.element, aggregate) dataset))

variable {input}

variable {details : DetailSection Row} {type : BandType} {field : TextElement × Aggregate}
variable {level next : ℕ} {openGroups : List OpenGroup} {band : Band} {group : OpenGroup}

theorem mem_printedSections (member : details ∈ input.printedSections) :
    details ∈ input.collectDetailSections :=
  (List.mem_filter.mp member).1

theorem GroupField.entry_mem
    (own : GroupField details (input.bandsByLevel type details.dataset) level field) :
    entryOf field details.dataset ∈ input.collectAggregateElements := by
  obtain ⟨band, found, inBand, _, source⟩ := own
  have kept := List.mem_of_getElem? found
  unfold bandsByLevel at kept
  obtain ⟨_, _, last⟩ := List.mem_filterMap.mp kept
  have inTemplate := (List.mem_filter.mp (List.mem_filter.mp (List.mem_of_getLast? last)).1).1
  apply input.mem_collectAggregateElements inTemplate inBand
  unfold datasetOf
  rw [source]
  rfl

theorem section_bands (member : details ∈ input.collectDetailSections) :
    details.groupHeaders = input.bandsByLevel .GROUP_HEADER details.dataset ∧
      details.groupFooters = input.bandsByLevel .GROUP_FOOTER details.dataset := by
  obtain ⟨band, _, found⟩ := List.mem_filterMap.mp member
  unfold sectionOf at found
  split at found
  · obtain ⟨dataset, _, rfl⟩ := Option.map_eq_some_iff.mp found
    exact ⟨rfl, rfl⟩
  · exact absurd found (by simp)

/-- What a group band reads with a group innermost. -/
theorem readAggregate_group (detailsMem : details ∈ input.collectDetailSections)
    (plain : PlainKeys input details)
    (contiguous : Contiguous (input.keysAt details) details.groupBy.length details.rows.length)
    (inside : level < details.groupBy.length)
    (ends : EndsBefore (input.keysAt details) details.rows.length level next)
    (entry : entryOf field details.dataset ∈ input.collectAggregateElements)
    (totals : field.1.aggregate = some field.2) (scope : field.2.scope = .GROUP)
    {innermost : OpenGroup} (last : openGroups.getLast? = some innermost)
    (path : innermost.path = buildGroupPath ((input.keysAt details (next - 1)).take (level + 1)))
    (pageAggregates : Accumulators) :
    readAggregate input.prePass pageAggregates openGroups field.1 =
      totalOf field.2.fn (copies (input.repeats details.dataset) (input.fieldValues details field
        (startOf (input.keysAt details) level (next - 1)) next)) := by
  have values := pathValues_eq plain contiguous inside ends (entryOf field details.dataset)
  have accumulated := prePass_groupAt_copies detailsMem entry rfl innermost.path
  unfold readAggregate
  rw [totals]
  simp only [scope, last]
  rw [path, values] at accumulated
  rw [PrecomputedAggregates.readGroup_eq, path]
  change readAccumulator (some (input.prePass.groupAt _ (entryOf field details.dataset).id)) _ = _
  rw [accumulated]
  rfl

theorem readAggregate_report (bandMem : band ∈ input.template.bands)
    (inBand : field ∈ band.aggregates) (scope : field.2.scope = .REPORT) {dataset : String}
    (resolved : input.datasetOf band field = some dataset) (pageAggregates : Accumulators)
    (openGroups : List OpenGroup) : readAggregate input.prePass pageAggregates openGroups field.1 =
      totalOf field.2.fn (copies (input.repeats dataset)
        ((input.datasetValues (entryOf field dataset)).take MAX_DETAIL_ROWS)) := by
  have entry := input.mem_collectAggregateElements bandMem inBand resolved
  have accumulated := prePass_reportAt_copies entry
  unfold readAggregate
  rw [(mem_aggregates.mp inBand).2]
  simp only [scope]
  rw [PrecomputedAggregates.readReport_eq]
  change readAccumulator (some (input.prePass.reportAt (entryOf field dataset).id)) _ = _
  rw [accumulated]
  rfl

variable {keysAt : ℕ → List String} {context : Context Row} {stack : List OpenGroup}
variable {drawn : Drawn Row}

/-- A group that ends takes the groups inside it with it. -/
theorem endsBefore_deeper {count deeper : ℕ} (inside : level ≤ deeper)
    (ends : EndsBefore keysAt count level next) : EndsBefore keysAt count deeper next := by
  obtain ⟨positive, bounded, last⟩ := ends
  refine ⟨positive, bounded, last.imp_right ?_⟩
  intro different same
  apply different
  rw [sameGroup_iff_getElem?] at same ⊢
  exact fun outer within => same outer (within.trans inside)

theorem stackAfter_getLast? {levels row : ℕ} (inside : 0 < levels) :
    (stackAfter keysAt levels row).getLast? = some (groupAfter keysAt row (levels - 1)) := by
  rw [List.getLast?_eq_getElem?, stackAfter_length]
  exact getElem?_stackAfter (Nat.sub_lt inside Nat.one_pos)

theorem section_lengths (details : DetailSection Row) :
    ∀ row < details.rows.length, (input.keysAt details row).length = details.groupBy.length :=
  fun _ inside => input.keysAt_length inside

/-- The band an event prints stands at its level. -/
theorem eventMatter_opened
    (matter : input.eventMatter details (.opened group openGroups) = some (band, context, stack)) :
    details.groupHeaders[group.level]? = some band ∧ stack = openGroups := by
  obtain ⟨header, found, made⟩ := Option.bind_eq_some_iff.mp matter
  obtain ⟨row, _, same⟩ := Option.map_eq_some_iff.mp made
  simp only [Prod.mk.injEq] at same
  exact ⟨same.1 ▸ found, same.2.2.symm⟩

theorem eventMatter_closed (matter : input.eventMatter details (.closed group next openGroups) =
      some (band, context, stack)) :
    details.groupFooters[group.level]? = some band ∧ stack = openGroups := by
  obtain ⟨footer, found, same⟩ := Option.map_eq_some_iff.mp matter
  simp only [Prod.mk.injEq] at same
  exact ⟨same.1 ▸ found, same.2.2.symm⟩

/-- What a text of a group band was read over: the rows of the innermost group open when it
was drawn, once for every band that repeats them. -/
theorem readAggregate_event (printed : details ∈ input.printedSections)
    (plain : PlainKeys input details)
    (contiguous : Contiguous (input.keysAt details) details.groupBy.length details.rows.length)
    {event : GroupEvent} (printedFor : input.PrintedFor details event band drawn type)
    (spans : Spans (sectionEvents (input.keysAt details) details.groupBy.length
      details.rows.length) event group next) {aggregate : Aggregate}
    (own : OwnTotal details band drawn aggregate) :
    ∃ innermost, drawn.openGroups.getLast? = some innermost ∧ ∀ pageAggregates,
      readAggregate input.prePass pageAggregates drawn.openGroups drawn.element =
        totalOf aggregate.fn (copies (input.repeats details.dataset)
          (input.fieldValues details (drawn.element, aggregate) innermost.firstRow next)) := by
  obtain ⟨totals, scope, source⟩ := own
  have detailsMem := mem_printedSections printed
  have lengths : ∀ row < details.rows.length,
      (input.keysAt details row).length = details.groupBy.length := section_lengths details
  obtain ⟨y, has⟩ := printedFor.has
  have inBand : ({ drawn.element with y }, aggregate) ∈ band.aggregates :=
    mem_aggregates.mpr ⟨has, totals⟩
  cases spans with
  | opened happened closing same =>
      obtain ⟨header, rfl⟩ := eventMatter_opened printedFor.matter
      obtain ⟨row, level, present, inside, begins, rfl, last⟩ := opened_mem lengths happened
      obtain ⟨level', inside', ends, rfl, _⟩ := (closed_mem_iff lengths).mp closing
      obtain ⟨sameLevel, start⟩ := Prod.mk.injEq .. ▸ same
      obtain rfl : level' = level := sameLevel
      have start : startOf (input.keysAt details) level' (next - 1) = row := start
      have field : GroupField details (input.bandsByLevel .GROUP_HEADER details.dataset) level'
          ({ drawn.element with y }, aggregate) :=
        ⟨band, (section_bands detailsMem).1 ▸ header, inBand, scope, source⟩
      have joined : SameGroup (input.keysAt details) level' row (next - 1) := by
        apply sameGroup_startOf _ start.le
        rw [← start]
        exact startOf_le _ level' (next - 1)
      refine ⟨_, last, fun pageAggregates => ?_⟩
      have read := readAggregate_group detailsMem plain contiguous inside ends field.entry_mem
        totals scope last (congrArg buildGroupPath joined) pageAggregates
      rw [start] at read
      exact read
  | closed happened =>
      obtain ⟨footer, stack⟩ := eventMatter_closed printedFor.matter
      obtain ⟨level, inside, ends, rfl, open'⟩ := (closed_mem_iff lengths).mp happened
      have field : GroupField details (input.bandsByLevel .GROUP_FOOTER details.dataset) level
          ({ drawn.element with y }, aggregate) :=
        ⟨band, (section_bands detailsMem).2 ▸ footer, inBand, scope, source⟩
      have last : drawn.openGroups.getLast? = some (groupAfter (input.keysAt details) (next - 1)
          (details.groupBy.length - 1)) := by
        rw [stack, open']
        exact stackAfter_getLast? (by omega)
      exact ⟨_, last, readAggregate_group detailsMem plain contiguous (by omega)
        (endsBefore_deeper (by omega) ends) field.entry_mem totals scope last rfl⟩

/-- What a group band prints is printed for an event of a section. -/
theorem mem_matter {item : Band × Context Row × List OpenGroup} (member : item ∈ input.matter)
    (grouped : item.1.type ∈ GROUP_BANDS) :
    ∃ details ∈ input.printedSections, ∃ event ∈ sectionEvents (input.keysAt details)
      details.groupBy.length details.rows.length, input.eventMatter details event = some item := by
  have banded (bands : List Band) (declared : ∀ band ∈ bands, band ∈ input.template.bands)
      (noDataEmitted : Bool) (member : item ∈ input.matterFrom noDataEmitted bands) :
      ∃ band ∈ input.template.bands, ∃ noDataEmitted,
        item ∈ (input.bandMatter noDataEmitted band).1 := by
    induction bands generalizing noDataEmitted with
    | nil => exact absurd member List.not_mem_nil
    | cons band rest ih =>
        rcases List.mem_append.mp member with first | later
        · exact ⟨band, declared band List.mem_cons_self, noDataEmitted, first⟩
        · exact ih (fun other inside => declared other (List.mem_cons_of_mem band inside)) _ later
  have alone {band : Band} (notGroup : band.type ∉ GROUP_BANDS) :
      item ≠ (band, rootContext, []) := by
    rintro rfl
    exact notGroup grouped
  obtain ⟨band, bandMem, noDataEmitted, inBand⟩ :=
    banded input.template.bands (fun _ inside => inside) false member
  unfold bandMatter at inBand
  cases type : band.type with
  | DETAIL =>
      rw [type] at inBand
      dsimp only at inBand
      cases found : input.sectionOf band with
      | none =>
          rw [found] at inBand
          exact absurd inBand List.not_mem_nil
      | some details =>
          rw [found] at inBand
          dsimp only at inBand
          have made := input.sectionOf_eq_some found
          split at inBand
          · next filled =>
              have printed : details ∈ input.printedSections :=
                List.mem_filter.mpr ⟨List.mem_filterMap.mpr ⟨band, bandMem, found⟩, by
                  simpa using filled⟩
              refine ⟨details, printed, ?_⟩
              rcases List.mem_append.mp inBand with rows | closing
              · obtain ⟨row, inRows, item'⟩ := List.mem_flatMap.mp rows
                have present := (List.getElem?_eq_some_iff.mp
                  (List.mem_zipIdx_iff_getElem?.mp inRows)).1
                rcases List.mem_append.mp item' with events | own
                · obtain ⟨event, happened, matter⟩ := List.mem_filterMap.mp events
                  exact ⟨event, List.mem_append_left _ (List.mem_flatMap.mpr
                    ⟨row.2, List.mem_range.mpr present, happened⟩), matter⟩
                · rw [List.mem_singleton.mp own, rowMatter] at grouped
                  dsimp only at grouped
                  rw [made.band_eq, type] at grouped
                  exact absurd grouped (by decide)
              · obtain ⟨event, happened, matter⟩ := List.mem_filterMap.mp closing
                exact ⟨event, List.mem_append_right _ happened, matter⟩
          · cases noData : input.firstBand .NO_DATA with
            | none =>
                rw [noData] at inBand
                cases noDataEmitted <;> exact absurd inBand List.not_mem_nil
            | some other =>
                have otherType : other.type = .NO_DATA := by
                  simpa using List.find?_some noData
                rw [noData] at inBand
                cases noDataEmitted with
                | true => exact absurd inBand List.not_mem_nil
                | false =>
                    exact absurd (List.mem_singleton.mp inBand) (alone (by
                      rw [otherType]
                      decide))
  | REPORT_HEADER | SUMMARY | REPORT_FOOTER =>
      rw [type] at inBand
      exact absurd (List.mem_singleton.mp inBand) (alone (by
        rw [type]
        decide))
  | PAGE_HEADER | PAGE_FOOTER | GROUP_HEADER | GROUP_FOOTER | NO_DATA =>
      rw [type] at inBand
      exact absurd inBand List.not_mem_nil

/-- A text of a group band was printed for an event of a section. -/
theorem printedFor_of_holds {index : ℕ} {text : Text}
    (holds : input.firstPass.sheets.Holds index (.text text drawn type))
    (grouped : type ∈ GROUP_BANDS) :
    ∃ details ∈ input.printedSections, ∃ event ∈ sectionEvents (input.keysAt details)
      details.groupBy.length details.rows.length, ∃ band,
      input.PrintedFor details event band drawn type := by
  have body : type ∉ PAGE_BANDS := by
    revert grouped
    cases type <;> decide
  obtain ⟨emission, member, emitted⟩ := (firstPass_traceable holds).2 body
  have matter : emission.matter ∈ input.matter := by
    rw [← input.emissions_matter]
    exact List.mem_map_of_mem member
  obtain ⟨details, printed, event, happened, made⟩ := mem_matter matter (by
    rw [Emission.matter, emitted.type]
    exact grouped)
  refine ⟨details, printed, event, happened, emission.band, emitted.type, ?_, emitted.has⟩
  rw [made, Emission.matter, emitted.context, emitted.openGroups]

variable (input)

/-- Where the totals agree for what is drawn, every printed total belongs to its group. -/
theorem groupTotalsBelong
    (contiguous : ∀ details ∈ input.printedSections,
      Contiguous (input.keysAt details) details.groupBy.length details.rows.length)
    (plain : ∀ details ∈ input.printedSections, PlainKeys input details)
    (agree : input.TotalsAgree) : input.GroupTotalsBelong := by
  constructor
  · intro record member
    rw [input.firstPass_records] at member
    obtain ⟨details, _, rfl⟩ := List.mem_map.mp member
    exact sectionEvents_nested (section_lengths details)
  · intro index page standing text drawn type member grouped
    obtain ⟨laid, found, _, existing, inside, _⟩ := mem_run_primitives standing member
    have holds := firstPass_holds found inside
    obtain ⟨details, printed, event, happened, band, printedFor⟩ :=
      printedFor_of_holds holds grouped
    obtain ⟨group, next, spans⟩ := exists_spans (section_lengths details) happened
    have record : ⟨details, sectionEvents (input.keysAt details) details.groupBy.length
        details.rows.length⟩ ∈ input.firstPass.records := by
      rw [input.firstPass_records]
      exact List.mem_map_of_mem printed
    refine ⟨_, record, event, band, group, next, printedFor, spans, ?_⟩
    intro aggregate own
    obtain ⟨innermost, last, read⟩ := readAggregate_event printed (plain details printed)
      (contiguous details printed) printedFor spans own
    obtain ⟨independent, same⟩ := agree.groups index laid found existing drawn type inside _ record
      event band printedFor group next spans innermost last aggregate own
    obtain ⟨accumulators, readFrom, _⟩ :=
      recorded_firstPass.texts index existing drawn type holds
    dsimp only at same ⊢
    rw [← same, ← read accumulators, ← readFrom.total]
    apply shows_total standing member
    intro depends
    rw [independent] at depends
    cases depends
  · intro index page standing text drawn type member band bandMem has aggregate totals scope
      dataset resolved
    obtain ⟨laid, found, prints, existing, inside, _⟩ := mem_run_primitives standing member
    have holds := firstPass_holds found inside
    obtain ⟨accumulators, readFrom, _⟩ :=
      recorded_firstPass.texts index existing drawn type holds
    obtain ⟨y, moved⟩ := id has
    have read := readAggregate_report bandMem
      (mem_aggregates.mpr ⟨moved, totals⟩ :
        ({ drawn.element with y }, aggregate) ∈ band.aggregates)
      scope resolved accumulators drawn.openGroups
    have same := agree.reports index laid found existing drawn type inside prints band bandMem has
      aggregate totals scope dataset resolved
    have total : drawn.total = totalOf aggregate.fn
        (input.datasetValues (entryOf (drawn.element, aggregate) dataset)) := by
      rw [readFrom.total, ← same]
      exact read
    rw [← total]
    apply shows_total standing member
    intro _ other isOther
    rw [totals] at isOther
    cases isOther
    simp [scope]

variable {input}

/-- One band to a dataset, one level of groups and no group total that mentions the page:
nothing to go wrong. -/
theorem totalsAgree_of_single
    (once : ∀ details ∈ input.printedSections, input.repeats details.dataset = 1)
    (flat : ∀ details ∈ input.printedSections, details.groupBy.length ≤ 1)
    (unpaged : ∀ band ∈ input.template.bands, ∀ field ∈ band.aggregates,
      field.2.scope = .GROUP → dependsOnPage field.1.value = false)
    (reports : ∀ band ∈ input.template.bands, ∀ field ∈ band.aggregates,
      field.2.scope = .REPORT → ∀ dataset, input.datasetOf band field = some dataset →
      input.repeats dataset = 1 ∧ (input.datasets dataset).length ≤ MAX_DETAIL_ROWS) :
    input.TotalsAgree := by
  constructor
  · intro index page found text drawn type member record recorded event band printedFor group next
      spans innermost last aggregate own
    rw [input.firstPass_records] at recorded
    obtain ⟨details, printed, rfl⟩ := List.mem_map.mp recorded
    dsimp only at printedFor spans own ⊢
    have lengths : ∀ row < details.rows.length,
        (input.keysAt details row).length = details.groupBy.length := section_lengths details
    have bands := section_bands (mem_printedSections printed)
    obtain ⟨totals, scope, source⟩ := own
    obtain ⟨y, has⟩ := printedFor.has
    have field : ({ drawn.element with y }, aggregate) ∈ band.aggregates :=
      mem_aggregates.mpr ⟨has, totals⟩
    have first : innermost.firstRow = group.firstRow ∧ band ∈ input.template.bands := by
      cases spans with
      | opened happened closing same =>
          obtain ⟨header, stack⟩ := eventMatter_opened printedFor.matter
          obtain ⟨row, level, _, _, _, rfl, deepest⟩ := opened_mem lengths happened
          rw [stack, deepest, Option.some.injEq] at last
          rw [bands.1] at header
          exact ⟨by rw [← last], input.bandsByLevel_mem (List.mem_of_getElem? header)⟩
      | closed happened =>
          obtain ⟨footer, stack⟩ := eventMatter_closed printedFor.matter
          obtain ⟨level, inside, _, rfl, open'⟩ := (closed_mem_iff lengths).mp happened
          have one := flat details printed
          have deepest : details.groupBy.length - 1 = level := by omega
          rw [stack, open', stackAfter_getLast? (by omega), deepest, Option.some.injEq] at last
          rw [bands.2] at footer
          exact ⟨by rw [← last], input.bandsByLevel_mem (List.mem_of_getElem? footer)⟩
    refine ⟨unpaged band first.2 _ field scope, ?_⟩
    rw [once details printed, copies_one, first.1]
  · intro index page found text drawn type member prints band bandMem has aggregate totals scope
      dataset resolved
    obtain ⟨y, moved⟩ := has
    obtain ⟨one, bounded⟩ := reports band bandMem ({ drawn.element with y }, aggregate)
      (mem_aggregates.mpr ⟨moved, totals⟩) scope dataset resolved
    rw [one, copies_one, List.take_of_length_le]
    unfold datasetValues
    rw [List.length_map, List.length_zipIdx]
    exact bounded

end LayoutInput

/-- A field that totals the amounts of a group. -/
def groupTotal (id : String) : Element :=
  .text { id := id, value := AMOUNT, aggregate := some { fn := .sum, scope := .GROUP } }

/-- Amounts grouped by themselves, with a total above and below, and one at the end. -/
def flatGroups : LayoutInput Decimal String Unit :=
  amountReport
    [{ type := .GROUP_HEADER, dataset := some "items", groupBy := some AMOUNT
       elements := [groupTotal "head"] },
      { type := .DETAIL, dataset := some "items", heightMm := 10 },
      { type := .GROUP_FOOTER, dataset := some "items", groupBy := some AMOUNT
        elements := [groupTotal "foot"] },
      { type := .SUMMARY, elements := [.text
        { id := "all"
          value := AMOUNT
          aggregate := some { fn := .sum, scope := .REPORT, dataset := some "items" } }] }]
    (by decide) [10, 10, 20]

theorem flatGroups_belong : flatGroups.GroupTotalsBelong := by
  have contiguous : ∀ details ∈ flatGroups.printedSections,
      Contiguous (flatGroups.keysAt details) details.groupBy.length details.rows.length := by
    decide +kernel
  have plain : ∀ details ∈ flatGroups.printedSections,
      LayoutInput.PlainKeys flatGroups details := by
    decide +kernel
  have items : ∀ band ∈ flatGroups.template.bands, ∀ field ∈ band.aggregates,
      (flatGroups.datasetOf band field).all fun dataset => dataset = "items" := by
    decide +kernel
  apply LayoutInput.groupTotalsBelong flatGroups contiguous plain
  apply LayoutInput.totalsAgree_of_single
  · decide +kernel
  · decide +kernel
  · decide +kernel
  · intro band bandMem field inBand scope dataset resolved
    have named := items band bandMem field inBand
    rw [resolved, Option.all_some, decide_eq_true_eq] at named
    rw [named]
    decide +kernel

/-- The same amounts in one group around them all, with a total below it. -/
def nestedGroups : LayoutInput Decimal String Unit :=
  amountReport
    [{ type := .GROUP_HEADER, dataset := some "items", groupBy := some "all" },
      { type := .GROUP_HEADER, dataset := some "items", groupBy := some AMOUNT, groupLevel := 1 },
      { type := .DETAIL, dataset := some "items", heightMm := 10 },
      { type := .GROUP_FOOTER, dataset := some "items", groupBy := some "all"
        elements := [groupTotal "foot"] }]
    (by decide) [10, 20]

/-- Whether a text of a footer shows the total of the rows of a group that closes. -/
def showsGroup (input : LayoutInput Decimal String Unit) :
    Primitive Decimal String Unit → Bool
  | .text shown drawn .GROUP_FOOTER =>
      dependsOnPage drawn.element.value ||
        input.firstPass.records.any fun record => record.events.any fun event =>
          match event with
          | .opened _ _ => false
          | .closed group next _ => (record.details.groupFooters[group.level]?).any fun band =>
              drawn.element.aggregate.all fun aggregate =>
                aggregate.scope ≠ .GROUP || aggregate.source band ≠ some record.details.dataset ||
                  (input.buildTextElement drawn.element (totalOf aggregate.fn
                    (input.fieldValues record.details (drawn.element, aggregate) group.firstRow
                      next)) drawn.context drawn.topMm drawn.stretchMm).all fun built =>
                        shown = built
  | _ => true

theorem showsGroup_of_belong {input : LayoutInput Decimal String Unit}
    (belong : input.GroupTotalsBelong) {index : ℕ} {page : LayoutPage Decimal String Unit}
    (standing : input.run[index]? = some page) {primitive : Primitive Decimal String Unit}
    (member : primitive ∈ page.primitives) : showsGroup input primitive = true := by
  unfold showsGroup
  split
  · next shown drawn =>
      cases depends : dependsOnPage drawn.element.value with
      | true => rfl
      | false =>
          obtain ⟨record, recorded, event, band, group, next, printedFor, spans, shows⟩ :=
            belong.groups index page standing shown drawn _ member (by decide)
          rw [Bool.false_or]
          apply List.any_eq_true.mpr
          refine ⟨record, recorded, List.any_eq_true.mpr ⟨event, ?_⟩⟩
          rw [input.firstPass_records] at recorded
          obtain ⟨details, printed, rfl⟩ := List.mem_map.mp recorded
          cases spans with
          | opened happened closing same =>
              have header := (LayoutInput.eventMatter_opened printedFor.matter).1
              rw [(LayoutInput.section_bands (LayoutInput.mem_printedSections printed)).1] at header
              have type := input.bandsByLevel_type (List.mem_of_getElem? header)
              rw [printedFor.type] at type
              cases type
          | closed happened =>
              refine ⟨happened, ?_⟩
              dsimp only
              rw [(LayoutInput.eventMatter_closed printedFor.matter).1, Option.any_some]
              cases totals : drawn.element.aggregate with
              | none => rfl
              | some aggregate =>
                  rw [Option.all_some]
                  by_cases own : aggregate.scope = .GROUP ∧
                      aggregate.source band = some details.dataset
                  · have right := shows aggregate ⟨totals, own.1, own.2⟩
                    unfold LayoutInput.Shows at right
                    dsimp only at right
                    rw [depends, if_neg Bool.false_ne_true] at right
                    split at right
                    · next built found =>
                        rw [found, Option.all_some, right]
                        simp
                    · next found =>
                        rw [found, Option.all_none, Bool.or_true]
                  · simp only [Bool.or_eq_true, decide_eq_true_eq]
                    left
                    rwa [not_and_or] at own
  · rfl

/-- The footer of the outer group shows what its last inner group came to. -/
theorem nestedGroups_mistotalled :
    ¬∀ (Row Text Figure : Type) (input : LayoutInput Row Text Figure),
      (∀ details ∈ input.printedSections,
        Contiguous (input.keysAt details) details.groupBy.length details.rows.length) →
      (∀ details ∈ input.printedSections, LayoutInput.PlainKeys input details) →
      input.GroupTotalsBelong := by
  intro belong
  have contiguous : ∀ details ∈ nestedGroups.printedSections,
      Contiguous (nestedGroups.keysAt details) details.groupBy.length details.rows.length := by
    decide +kernel
  have plain : ∀ details ∈ nestedGroups.printedSections,
      LayoutInput.PlainKeys nestedGroups details := by
    decide +kernel
  have right : ∀ item ∈ nestedGroups.run.zipIdx, ∀ primitive ∈ item.1.primitives,
      showsGroup nestedGroups primitive = true := by
    intro item member primitive inside
    exact showsGroup_of_belong (belong _ _ _ nestedGroups contiguous plain)
      (List.mem_zipIdx_iff_getElem?.mp member) inside
  revert right
  decide +kernel

end ErpServer.Print
