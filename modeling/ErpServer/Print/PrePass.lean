import ErpServer.Lib.Rendering
import ErpServer.Print.Steps
import ErpServer.Print.Sections

/-!
# Totals before the layout

What the pre-pass accumulates: for the report every row once for each section that repeats
it, and for a group the same rows as far as their path is the group's.
-/

namespace ErpServer.Print

open Lib
open Receipt (Decimal)

/-! ## Lists -/

/-- A fold seen through a measure: what each item puts in, one after another. -/
theorem foldl_measured {α β γ ν : Type} (measure : β → γ) {step : β → α → β}
    {put : γ → ν → γ} {values : α → List ν}
    (each : ∀ state item, measure (step state item) = (values item).foldl put (measure state))
    (items : List α) (state : β) :
    measure (items.foldl step state) = (items.flatMap values).foldl put (measure state) := by
  induction items generalizing state with
  | nil => rfl
  | cons item rest ih =>
      rw [List.foldl_cons, ih, each, List.flatMap_cons, List.foldl_append]

/-- Of items with different keys, only the one with the key counts. -/
theorem flatMap_key {α κ ν : Type} [DecidableEq κ] {keyOf : α → κ} {items : List α}
    (distinct : (items.map keyOf).Nodup) {item : α} (member : item ∈ items)
    (values : α → List ν) :
    (items.flatMap fun other => if keyOf other = keyOf item then values other else []) =
      values item := by
  induction items with
  | nil => exact absurd member List.not_mem_nil
  | cons first rest ih =>
      rw [List.map_cons, List.nodup_cons] at distinct
      rw [List.flatMap_cons]
      rcases List.mem_cons.mp member with rfl | later
      · have alone : (rest.flatMap fun other =>
            if keyOf other = keyOf item then values other else []) = [] := by
          apply List.flatMap_eq_nil_iff.mpr
          intro other inside
          apply if_neg
          intro same
          exact distinct.1 (List.mem_map.mpr ⟨other, inside, same⟩)
        rw [if_pos rfl, alone, List.append_nil]
      · have different : keyOf first ≠ keyOf item := by
          intro same
          exact distinct.1 (List.mem_map.mpr ⟨item, later, same.symm⟩)
        rw [if_neg different, List.nil_append]
        exact ih distinct.2 later

/-- Some values several times over. -/
def copies (count : ℕ) (values : List Decimal) : List Decimal :=
  (List.replicate count values).flatten

theorem copies_one (values : List Decimal) : copies 1 values = values := by
  unfold copies
  simp

theorem flatMap_copies {α : Type} (items : List α) (kind : α → Bool) (values : List Decimal) :
    (items.flatMap fun item => if kind item then values else []) =
      copies (items.filter kind).length values := by
  induction items with
  | nil => rfl
  | cons item rest ih =>
      rw [List.flatMap_cons, ih]
      by_cases here : kind item = true
      · rw [if_pos here, List.filter_cons_of_pos here, List.length_cons]
        rfl
      · rw [if_neg here, List.filter_cons_of_neg here]
        rfl

theorem flatMap_filter {α β : Type} (items : List α) (keep : α → Prop) [DecidablePred keep]
    (image : α → β) :
    (items.flatMap fun item => if keep item then [image item] else []) =
      (items.filter fun item => keep item).map image := by
  induction items with
  | nil => rfl
  | cons item rest ih =>
      rw [List.flatMap_cons, ih]
      by_cases here : keep item
      · rw [if_pos here, List.filter_cons_of_pos (by simpa using here)]
        rfl
      · rw [if_neg here, List.filter_cons_of_neg (by simpa using here)]
        rfl

/-- The items at the places of an interval. -/
theorem filter_interval {α : Type} (items : List α) {first next : ℕ} (order : first ≤ next) :
    (items.zipIdx.filter fun item => first ≤ item.2 ∧ item.2 < next) =
      (items.zipIdx.take next).drop first := by
  have place {index : ℕ} {item : α × ℕ} (found : items.zipIdx[index]? = some item) :
      item.2 = index := by
    rw [List.getElem?_zipIdx] at found
    obtain ⟨_, _, rfl⟩ := Option.map_eq_some_iff.mp found
    exact Nat.zero_add index
  have split : items.zipIdx = (items.zipIdx.take next).take first ++
      ((items.zipIdx.take next).drop first ++ items.zipIdx.drop next) := by
    rw [← List.append_assoc, List.take_append_drop, List.take_append_drop]
  have front : ((items.zipIdx.take next).take first).filter
      (fun item => first ≤ item.2 ∧ item.2 < next) = [] := by
    apply List.filter_eq_nil_iff.mpr
    intro item member
    rw [List.take_take, Nat.min_eq_left order] at member
    obtain ⟨index, found⟩ := List.mem_iff_getElem?.mp member
    rw [List.getElem?_take] at found
    split at found
    · have here := place found
      rw [decide_eq_true_eq]
      omega
    · exact absurd found (by simp)
  have back : (items.zipIdx.drop next).filter
      (fun item => first ≤ item.2 ∧ item.2 < next) = [] := by
    apply List.filter_eq_nil_iff.mpr
    intro item member
    obtain ⟨index, found⟩ := List.mem_iff_getElem?.mp member
    rw [List.getElem?_drop] at found
    have here := place found
    rw [decide_eq_true_eq]
    omega
  have middle : ((items.zipIdx.take next).drop first).filter
      (fun item => first ≤ item.2 ∧ item.2 < next) = (items.zipIdx.take next).drop first := by
    apply List.filter_eq_self.mpr
    intro item member
    obtain ⟨index, found⟩ := List.mem_iff_getElem?.mp member
    rw [List.getElem?_drop, List.getElem?_take] at found
    split at found
    · have here := place found
      rw [decide_eq_true_eq]
      omega
    · exact absurd found (by simp)
  rw [split, List.filter_append, List.filter_append, front, back, middle, List.nil_append,
    List.append_nil, ← split]

/-! ## Paths -/

/-- Keys without a separator can be read off their path. -/
theorem buildGroupPath_inj {left right : List String}
    (leftPlain : ∀ key ∈ left, GROUP_PATH_SEPARATOR ∉ key.toList)
    (rightPlain : ∀ key ∈ right, GROUP_PATH_SEPARATOR ∉ key.toList)
    (leftNonempty : left ≠ []) (rightNonempty : right ≠ [])
    (same : buildGroupPath left = buildGroupPath right) : left = right :=
  Rendering.intercalate_inj leftPlain rightPlain leftNonempty rightNonempty same

/-! ## Accumulating -/

namespace PrecomputedAggregates

/-- What is accumulated for the report so far. -/
def reportAt (aggregates : PrecomputedAggregates) (key : String) : Accumulator :=
  aggregates.report.at key

/-- What is accumulated for a group so far. -/
def groupAt (aggregates : PrecomputedAggregates) (groupPath key : String) : Accumulator :=
  ((aggregates.groups.get? groupPath).getD OrderedMap.empty).at key

theorem readReport_eq (aggregates : PrecomputedAggregates) (key : String)
    (fn : AggregateFunction) :
    aggregates.readReport key fn = readAccumulator (some (aggregates.reportAt key)) fn :=
  Accumulators.read_eq aggregates.report key fn

theorem readGroup_eq (aggregates : PrecomputedAggregates) (groupPath key : String)
    (fn : AggregateFunction) :
    aggregates.readGroup groupPath key fn =
      readAccumulator (some (aggregates.groupAt groupPath key)) fn := by
  unfold readGroup groupAt
  cases aggregates.groups.get? groupPath with
  | none => exact (readAccumulator_empty fn).symm
  | some bucket => exact Accumulators.read_eq bucket key fn

theorem groupAt_addGroup (aggregates : PrecomputedAggregates) (path groupPath id key : String)
    (value : Option Decimal) :
    (aggregates.addGroup path id value).groupAt groupPath key =
      if groupPath = path ∧ key = id then
        accumulate (aggregates.groupAt groupPath key) value
      else aggregates.groupAt groupPath key := by
  unfold addGroup groupAt
  dsimp only
  rw [OrderedMap.get?_set]
  by_cases here : groupPath = path
  · subst here
    rw [if_pos rfl, Option.getD_some, Accumulators.at_add]
    by_cases same : key = id
    · subst same
      rw [if_pos rfl, if_pos ⟨rfl, rfl⟩]
    · rw [if_neg same, if_neg fun both => same both.2]
  · rw [if_neg here, if_neg fun both => here both.1]

end PrecomputedAggregates

namespace LayoutInput

variable {Row Text Figure : Type} (input : LayoutInput Row Text Figure)

/-- Put a value that is there into an accumulator. -/
def put (accumulator : Accumulator) (value : Decimal) : Accumulator :=
  accumulate accumulator (some value)

theorem accumulatorOf_eq (values : List Decimal) :
    accumulatorOf values = values.foldl put emptyAccumulator := by
  unfold accumulatorOf
  rw [List.foldl_map]
  rfl

/-- The levels of a row whose path is a given one. -/
def levelsOf (keys : List String) (groupPath : String) : List ℕ :=
  (List.range keys.length).filter fun level =>
    buildGroupPath (keys.take (level + 1)) = groupPath

theorem addValue_groupAt (keys : List String) (id groupPath key : String) (value : Decimal)
    (aggregates : PrecomputedAggregates) :
    (addValue keys id value aggregates).groupAt groupPath key =
      (if id = key then (levelsOf keys groupPath).map fun _ => value else []).foldl put
        (aggregates.groupAt groupPath key) := by
  have each (state : PrecomputedAggregates) (level : ℕ) :
      (state.addGroup (buildGroupPath (keys.take (level + 1))) id (some value)).groupAt
          groupPath key =
        (if buildGroupPath (keys.take (level + 1)) = groupPath ∧ id = key then
          [value] else []).foldl put (state.groupAt groupPath key) := by
    rw [PrecomputedAggregates.groupAt_addGroup]
    by_cases both : buildGroupPath (keys.take (level + 1)) = groupPath ∧ id = key
    · rw [if_pos both, if_pos ⟨both.1.symm, both.2.symm⟩]
      rfl
    · rw [if_neg both, if_neg fun other => both ⟨other.1.symm, other.2.symm⟩]
      rfl
  have folded := foldl_measured (fun state : PrecomputedAggregates =>
    state.groupAt groupPath key) each (List.range keys.length) (aggregates.addReport id (some value))
  unfold addValue
  rw [folded]
  change _ = List.foldl put (aggregates.groupAt groupPath key) _
  have same : ((List.range keys.length).flatMap fun level =>
      if buildGroupPath (keys.take (level + 1)) = groupPath ∧ id = key then [value] else []) =
      if id = key then (levelsOf keys groupPath).map fun _ => value else [] := by
    unfold levelsOf
    by_cases here : id = key
    · rw [if_pos here]
      induction List.range keys.length with
      | nil => rfl
      | cons level rest ih =>
          rw [List.flatMap_cons, ih]
          by_cases on_path : buildGroupPath (keys.take (level + 1)) = groupPath
          · rw [if_pos ⟨on_path, here⟩, List.filter_cons_of_pos (by simpa using on_path)]
            rfl
          · rw [if_neg fun both => on_path both.1, List.filter_cons_of_neg (by simpa using on_path)]
            rfl
    · rw [if_neg here]
      apply List.flatMap_eq_nil_iff.mpr
      intro level _
      exact if_neg fun both => here both.2
  rw [same]
  rfl

theorem addValue_reportAt (keys : List String) (id key : String) (value : Decimal)
    (aggregates : PrecomputedAggregates) :
    (addValue keys id value aggregates).reportAt key =
      (if id = key then [value] else []).foldl put (aggregates.reportAt key) := by
  have groups (levels : List ℕ) (start : PrecomputedAggregates) :
      (levels.foldl (fun aggregates level =>
        aggregates.addGroup (buildGroupPath (keys.take (level + 1))) id (some value))
        start).reportAt key = start.reportAt key := by
    induction levels generalizing start with
    | nil => rfl
    | cons level rest ih => exact ih _
  unfold addValue
  rw [groups]
  unfold PrecomputedAggregates.addReport PrecomputedAggregates.reportAt
  rw [Accumulators.at_add]
  by_cases same : id = key
  · rw [if_pos same, if_pos same.symm, ← same]
    rfl
  · rw [if_neg same, if_neg fun other => same other.symm]
    rfl

/-! ## Fields and their datasets -/

/-- The dataset of a template that repeats only one. -/
def soleDataset : Option String :=
  let sectionDatasets := (input.collectDetailSections.map DetailSection.dataset).dedup
  if sectionDatasets.length = 1 then sectionDatasets.head? else none

/-- The dataset a field totals. -/
def datasetOf (band : Band) (field : TextElement × Aggregate) : Option String :=
  (field.2.source band).or input.soleDataset

def entryOf (field : TextElement × Aggregate) (dataset : String) : AggregateElement :=
  ⟨field.1.id, field.1.totalled field.2, dataset⟩

theorem mem_collectAggregateElements {band : Band} (bandMem : band ∈ input.template.bands)
    {field : TextElement × Aggregate} (inBand : field ∈ band.aggregates) {dataset : String}
    (resolved : input.datasetOf band field = some dataset) :
    entryOf field dataset ∈ input.collectAggregateElements := by
  apply List.mem_flatMap.mpr
  refine ⟨band, bandMem, List.mem_filterMap.mpr ⟨field, inBand, ?_⟩⟩
  exact Option.map_eq_some_iff.mpr ⟨dataset, resolved, rfl⟩

theorem sublist_filterMap {α β κ : Type} (keep : α → Option β) (keyOf : β → κ)
    (originKey : α → κ) (same : ∀ item kept, keep item = some kept → keyOf kept = originKey item)
    (items : List α) : ((items.filterMap keep).map keyOf).Sublist (items.map originKey) := by
  induction items with
  | nil => exact List.Sublist.slnil
  | cons item rest ih =>
      cases found : keep item with
      | none =>
          rw [List.filterMap_cons_none found]
          exact ih.cons _
      | some kept =>
          rw [List.filterMap_cons_some found, List.map_cons, List.map_cons, same item kept found]
          exact ih.cons_cons _

theorem collectAggregateElements_nodup :
    (input.collectAggregateElements.map AggregateElement.id).Nodup := by
  apply List.Sublist.nodup _ input.template.uniqueIds
  unfold collectAggregateElements
  dsimp only
  rw [List.map_flatMap]
  apply sublist_flatMap
  intro band _
  have kept := sublist_filterMap
    (fun field => (input.datasetOf band field).map fun dataset => entryOf field dataset)
    AggregateElement.id (fun field => field.1.id)
    (by
      intro field entry found
      obtain ⟨dataset, _, rfl⟩ := Option.map_eq_some_iff.mp found
      rfl)
    band.aggregates
  exact kept.trans (sublist_aggregates band)

variable {input}

variable {entry : AggregateElement} {details : DetailSection Row}

/-- Of the fields that total a dataset, one has a given id. -/
theorem flatMap_applicable (member : entry ∈ input.collectAggregateElements) (dataset : String)
    (values : AggregateElement → List Decimal) :
    ((input.collectAggregateElements.filter fun element => element.dataset = dataset).flatMap
      fun element => if element.id = entry.id then values element else []) =
      if entry.dataset = dataset then values entry else [] := by
  have distinct := input.collectAggregateElements_nodup
  by_cases own : entry.dataset = dataset
  · rw [if_pos own]
    apply flatMap_key
    · exact List.Sublist.nodup (List.filter_sublist.map _) distinct
    · exact List.mem_filter.mpr ⟨member, decide_eq_true own⟩
  · rw [if_neg own]
    apply List.flatMap_eq_nil_iff.mpr
    intro element inside
    obtain ⟨present, same⟩ := List.mem_filter.mp inside
    apply if_neg
    intro sameId
    have equal := List.inj_on_of_nodup_map distinct present member sameId
    rw [equal] at same
    exact own (of_decide_eq_true same)

/-! ## Rows, sections, the report -/

variable (input)

/-- What a row counts for in a total. -/
def rowValue (details : DetailSection Row) (entry : AggregateElement) (item : Row × ℕ) :
    Decimal :=
  input.evaluator.evaluateNumber entry.value (preContext details item.1 item.2)

/-- What a section puts into the total of a path: each of its rows, for each of its levels
that has the path. -/
def pathValues (details : DetailSection Row) (entry : AggregateElement) (groupPath : String) :
    List Decimal :=
  details.rows.zipIdx.flatMap fun item =>
    (levelsOf (input.rowKeys details item.1 item.2) groupPath).map fun _ =>
      input.rowValue details entry item

/-- What a section puts into the total of the report: each of its rows. -/
def sectionValues (details : DetailSection Row) (entry : AggregateElement) : List Decimal :=
  details.rows.zipIdx.map (input.rowValue details entry)

variable {input}

/-- What is put in only if a condition holds, for every item or for none. -/
theorem flatMap_if {α ν : Type} (holds : Prop) [Decidable holds] (items : List α)
    (values : α → List ν) :
    (items.flatMap fun item => if holds then values item else []) =
      if holds then items.flatMap values else [] := by
  split
  · rfl
  · exact List.flatMap_eq_nil_iff.mpr fun _ _ => rfl

variable (read : PrecomputedAggregates → Accumulator) {feeds : List String → Decimal → List Decimal}

/-- What is read of one field holds what the rows of every section of its dataset feed it. -/
theorem prePass_read (member : entry ∈ input.collectAggregateElements)
    (fed : ∀ keys id value state, read (addValue keys id value state) =
      (if id = entry.id then feeds keys value else []).foldl put (read state)) :
    read input.prePass = (input.collectDetailSections.flatMap fun details =>
      if entry.dataset = details.dataset then
        details.rows.zipIdx.flatMap fun item =>
          feeds (input.rowKeys details item.1 item.2) (input.rowValue details entry item)
      else []).foldl put (read .empty) := by
  have rows (details : DetailSection Row) (state : PrecomputedAggregates) (item : Row × ℕ) :
      read (input.preRow details state item) = (if entry.dataset = details.dataset then
        feeds (input.rowKeys details item.1 item.2) (input.rowValue details entry item)
          else []).foldl put (read state) := by
    have folded := foldl_measured read
      (fun state element => fed (input.rowKeys details item.1 item.2) element.id
        (input.rowValue details element item) state)
      (input.collectAggregateElements.filter fun element => element.dataset = details.dataset) state
    rw [flatMap_applicable member] at folded
    exact folded
  have sections (state : PrecomputedAggregates) (details : DetailSection Row) :
      read (details.rows.zipIdx.foldl (input.preRow details) state) =
        (if entry.dataset = details.dataset then details.rows.zipIdx.flatMap fun item =>
          feeds (input.rowKeys details item.1 item.2) (input.rowValue details entry item)
            else []).foldl put (read state) := by
    rw [foldl_measured read (rows details), flatMap_if]
  exact foldl_measured read sections input.collectDetailSections .empty

/-! ## Sections that repeat a dataset -/

variable (input)

/-- How many DETAIL bands repeat a dataset. -/
def repeats (dataset : String) : ℕ :=
  (input.collectDetailSections.filter fun details => details.dataset = dataset).length

variable {input}

theorem section_congr {other : DetailSection Row} (member : details ∈ input.collectDetailSections)
    (otherMem : other ∈ input.collectDetailSections) (same : other.dataset = details.dataset) :
    other.rows = details.rows ∧ other.groupBy = details.groupBy := by
  obtain ⟨band, _, found⟩ := List.mem_filterMap.mp member
  obtain ⟨otherBand, _, otherFound⟩ := List.mem_filterMap.mp otherMem
  unfold sectionOf at found otherFound
  split at found
  · split at otherFound
    · obtain ⟨dataset, _, rfl⟩ := Option.map_eq_some_iff.mp found
      obtain ⟨otherDataset, _, rfl⟩ := Option.map_eq_some_iff.mp otherFound
      have names : otherDataset = dataset := same
      rw [names]
      exact ⟨rfl, rfl⟩
    · exact absurd otherFound (by simp)
  · exact absurd found (by simp)

theorem pathValues_congr {other : DetailSection Row}
    (member : details ∈ input.collectDetailSections)
    (otherMem : other ∈ input.collectDetailSections) (same : other.dataset = details.dataset)
    (entry : AggregateElement) (groupPath : String) :
    input.pathValues other entry groupPath = input.pathValues details entry groupPath := by
  obtain ⟨rows, groupBy⟩ := section_congr member otherMem same
  unfold pathValues rowValue rowKeys preContext
  rw [rows, groupBy]

/-- Sections that repeat one dataset feed a field alike, once each. -/
theorem prePass_copies (member : entry ∈ input.collectAggregateElements)
    (fed : ∀ keys id value state, read (addValue keys id value state) =
      (if id = entry.id then feeds keys value else []).foldl put (read state))
    (empty : read .empty = emptyAccumulator) {values : List Decimal}
    (alike : ∀ details ∈ input.collectDetailSections, details.dataset = entry.dataset →
      (details.rows.zipIdx.flatMap fun item => feeds (input.rowKeys details item.1 item.2)
        (input.rowValue details entry item)) = values) :
    read input.prePass = accumulatorOf (copies (input.repeats entry.dataset) values) := by
  rw [prePass_read read member fed, empty, ← accumulatorOf_eq, repeats, ← flatMap_copies]
  apply congrArg
  apply List.flatMap_congr
  intro details detailsMem
  by_cases same : details.dataset = entry.dataset
  · rw [if_pos same.symm, if_pos (decide_eq_true same)]
    exact alike details detailsMem same
  · rw [if_neg fun equal => same equal.symm, if_neg (by simpa using same)]

/-- A group total is over the rows of its path, once for every band that repeats them. -/
theorem prePass_groupAt_copies (detailsMem : details ∈ input.collectDetailSections)
    (member : entry ∈ input.collectAggregateElements) (own : entry.dataset = details.dataset)
    (groupPath : String) : input.prePass.groupAt groupPath entry.id =
      accumulatorOf (copies (input.repeats details.dataset)
        (input.pathValues details entry groupPath)) := by
  rw [← own]
  apply prePass_copies (fun state => state.groupAt groupPath entry.id) member
  · intro keys id value state
    exact addValue_groupAt keys id groupPath entry.id value state
  · rfl
  · intro other otherMem same
    exact pathValues_congr detailsMem otherMem (same.trans own) entry groupPath

variable (input)

/-- What the rows of a dataset count for in a total. -/
def datasetValues (entry : AggregateElement) : List Decimal :=
  (input.datasets entry.dataset).zipIdx.map fun item =>
    input.evaluator.evaluateNumber entry.value
      (rowContext ⟨1, 0, true, false⟩ [] item.1 item.2
        ((input.datasets entry.dataset).take MAX_DETAIL_ROWS).length [])

variable {input}

theorem zipIdx_take {α : Type} (items : List α) (count : ℕ) :
    (items.take count).zipIdx = items.zipIdx.take count := by
  apply List.ext_getElem?
  intro index
  rw [List.getElem?_zipIdx, List.getElem?_take, List.getElem?_take, List.getElem?_zipIdx]
  split
  · rfl
  · rfl

theorem sectionValues_eq (member : details ∈ input.collectDetailSections)
    (own : entry.dataset = details.dataset) :
    input.sectionValues details entry = (input.datasetValues entry).take MAX_DETAIL_ROWS := by
  obtain ⟨band, _, found⟩ := List.mem_filterMap.mp member
  have rows := (input.sectionOf_eq_some found).rows
  unfold sectionValues datasetValues rowValue preContext
  rw [rows, own, zipIdx_take, List.map_take]

/-- A report total is over the rows of its dataset, once for every band that repeats them. -/
theorem prePass_reportAt_copies (member : entry ∈ input.collectAggregateElements) :
    input.prePass.reportAt entry.id =
      accumulatorOf (copies (input.repeats entry.dataset)
        ((input.datasetValues entry).take MAX_DETAIL_ROWS)) := by
  apply prePass_copies (fun state => state.reportAt entry.id) member
  · intro keys id value state
    exact addValue_reportAt keys id entry.id value state
  · rfl
  · intro details detailsMem same
    rw [← sectionValues_eq detailsMem same.symm]
    exact List.map_eq_flatMap.symm

/-! ## The rows of a path -/

/-- No key of a section's rows holds the separator. -/
def PlainKeys (input : LayoutInput Row Text Figure) (details : DetailSection Row) : Prop :=
  ∀ row < details.rows.length, ∀ key ∈ input.keysAt details row,
    GROUP_PATH_SEPARATOR ∉ key.toList

instance (details : DetailSection Row) : Decidable (PlainKeys input details) :=
  inferInstanceAs (Decidable (∀ row < details.rows.length,
    ∀ key ∈ input.keysAt details row, GROUP_PATH_SEPARATOR ∉ key.toList))

/-- A row has the path of a group at that group's level only, and only if it is in it. -/
theorem levelsOf_eq (plain : PlainKeys input details) {level row other : ℕ}
    (inside : level < details.groupBy.length) (present : row < details.rows.length)
    (otherPresent : other < details.rows.length) : levelsOf (input.keysAt details other)
        (buildGroupPath ((input.keysAt details row).take (level + 1))) =
      if SameGroup (input.keysAt details) level other row then [level] else [] := by
  have length := input.keysAt_length present
  have otherLength := input.keysAt_length otherPresent
  unfold levelsOf
  rw [otherLength]
  have paths : ∀ inner ∈ List.range details.groupBy.length,
      decide (buildGroupPath ((input.keysAt details other).take (inner + 1)) =
        buildGroupPath ((input.keysAt details row).take (level + 1))) =
      (decide (id inner = id level) &&
        decide (SameGroup (input.keysAt details) level other row)) := by
    intro inner member
    have within := List.mem_range.mp member
    rw [← Bool.decide_and, decide_eq_decide]
    constructor
    · intro same
      have equal := buildGroupPath_inj
        (fun key chosen => plain other otherPresent key (List.mem_of_mem_take chosen))
        (fun key chosen => plain row present key (List.mem_of_mem_take chosen))
        (by
          intro none
          have lengths := congrArg List.length none
          rw [List.length_take, otherLength, List.length_nil] at lengths
          omega)
        (by
          intro none
          have lengths := congrArg List.length none
          rw [List.length_take, length, List.length_nil] at lengths
          omega)
        same
      have lengths := congrArg List.length equal
      rw [List.length_take, List.length_take, length, otherLength] at lengths
      have levels : inner = level := by omega
      subst levels
      exact ⟨rfl, equal⟩
    · intro both
      obtain ⟨levels, same⟩ := both
      change inner = level at levels
      rw [levels, same]
  rw [List.filter_congr paths]
  have single : (List.range details.groupBy.length).filter (fun inner => id inner = id level) =
      [level] := by
    apply ListSum.filter_key_eq
    · rw [List.map_id]
      exact List.nodup_range
    · exact List.mem_range.mpr inside
  by_cases same : SameGroup (input.keysAt details) level other row
  · rw [if_pos same, ← single]
    apply List.filter_congr
    intro inner _
    rw [decide_eq_true same, Bool.and_true]
  · rw [if_neg same]
    apply List.filter_eq_nil_iff.mpr
    intro inner _
    rw [decide_eq_false same, Bool.and_false]
    exact Bool.false_ne_true

variable (input)

/-- The values of some rows of a section, from one up to another. -/
def rowValues (details : DetailSection Row) (entry : AggregateElement) (first next : ℕ) :
    List Decimal :=
  ((input.sectionValues details entry).take next).drop first

variable {input}

/-- The rows of a group's path are its rows from the first to the last. -/
theorem pathValues_eq (plain : PlainKeys input details)
    (contiguous : Contiguous (input.keysAt details) details.groupBy.length details.rows.length)
    {level next : ℕ} (inside : level < details.groupBy.length)
    (ends : EndsBefore (input.keysAt details) details.rows.length level next)
    (entry : AggregateElement) : input.pathValues details entry
        (buildGroupPath ((input.keysAt details (next - 1)).take (level + 1))) =
      input.rowValues details entry (startOf (input.keysAt details) level (next - 1)) next := by
  have last : next - 1 < details.rows.length := by
    obtain ⟨positive, bounded, _⟩ := ends
    omega
  have order : startOf (input.keysAt details) level (next - 1) ≤ next :=
    (startOf_le _ level (next - 1)).trans (Nat.sub_le next 1)
  have each : ∀ item ∈ details.rows.zipIdx,
      ((levelsOf (input.rowKeys details item.1 item.2)
        (buildGroupPath ((input.keysAt details (next - 1)).take (level + 1)))).map fun _ =>
          input.rowValue details entry item) =
      if startOf (input.keysAt details) level (next - 1) ≤ item.2 ∧ item.2 < next then
        [input.rowValue details entry item] else [] := by
    intro item member
    have standing := List.mem_zipIdx_iff_getElem?.mp member
    have present := (List.getElem?_eq_some_iff.mp standing).1
    rw [← input.keysAt_eq standing, levelsOf_eq plain inside last present]
    by_cases same : SameGroup (input.keysAt details) level item.2 (next - 1)
    · rw [if_pos same, if_pos ((sameGroup_iff contiguous inside ends present).mp same)]
      rfl
    · rw [if_neg same, if_neg fun range =>
        same ((sameGroup_iff contiguous inside ends present).mpr range)]
      rfl
  unfold pathValues
  rw [List.flatMap_congr each]
  have kept := filter_interval details.rows order
  unfold rowValues sectionValues
  rw [← List.map_take, ← List.map_drop, ← kept, flatMap_filter]

end LayoutInput

end ErpServer.Print
