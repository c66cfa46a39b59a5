import ErpServer.Lib.ListSum
import ErpServer.Sales.PromotionUsage

/-!
# What the campaign gave

The tally of a scheme beside the bills that stand posted with it.  The two agree in every
state of a run exactly while no bill of the tally is cancelled or amended.
-/

namespace ErpServer.Sales.Promotion

open Lib
open Receipt (Decimal)

/-! ## The schemes of a bill -/

variable {schemes : OrderedMap String PromotionApplied} {reason : String} {bill : SaleBill}
variable {move : Move} {measure : PromotionUsage → Decimal}

theorem keys_addItem_nodup (nodup : schemes.keys.Nodup) (item : SnapshotItem) :
    (addItem schemes item).keys.Nodup := by
  unfold addItem
  cases item.schemeId with
  | none => exact nodup
  | some schemeId =>
      by_cases empty : schemeId = ""
      · simpa [empty] using nodup
      · simpa [empty] using OrderedMap.keys_set_nodup nodup schemeId _

/-- Every scheme of the map stands under its own id. -/
def OwnKeys (schemes : OrderedMap String PromotionApplied) : Prop :=
  ∀ entry ∈ schemes.entries, entry.2.schemeId = entry.1

theorem OwnKeys.addItem (own : OwnKeys schemes) (item : SnapshotItem) :
    OwnKeys (addItem schemes item) := by
  unfold Promotion.addItem
  cases item.schemeId with
  | none => exact own
  | some schemeId =>
      by_cases empty : schemeId = ""
      · simpa [empty] using own
      · simp only [empty, if_false]
        intro entry member
        rcases OrderedMap.mem_entries_set member with rfl | stood
        · simp only [PromotionApplied.addLine]
          cases found : schemes.get? schemeId with
          | none => rfl
          | some applied => exact own _ (OrderedMap.mem_of_get? found)
        · exact own entry stood

theorem promoApplied_nodup (items : List SnapshotItem) :
    ((promoApplied items).map PromotionApplied.schemeId).Nodup := by
  have carried : ∀ (items : List SnapshotItem) (schemes : OrderedMap String PromotionApplied),
      schemes.keys.Nodup → OwnKeys schemes →
        (items.foldl addItem schemes).keys.Nodup ∧ OwnKeys (items.foldl addItem schemes) := by
    intro items
    induction items with
    | nil => exact fun schemes nodup own => ⟨nodup, own⟩
    | cons item rest ih =>
        exact fun schemes nodup own =>
          ih (addItem schemes item) (keys_addItem_nodup nodup item) (own.addItem item)
  obtain ⟨nodup, own⟩ := carried items OrderedMap.empty (by simp)
    (by intro entry member; cases member)
  have ids : (promoApplied items).map PromotionApplied.schemeId =
      (items.foldl addItem OrderedMap.empty).keys := by
    unfold promoApplied OrderedMap.values OrderedMap.keys
    rw [List.map_map]
    exact List.map_congr_left fun entry member => own entry member
  rw [ids]
  exact nodup

/-! ## What a bill stands for -/

/-- The schemes of a bill that gave something. -/
def BillContent.gives (content : BillContent) : List PromotionApplied :=
  (promoApplied content.items).filter gave

/-- The bill was posted with the scheme. -/
def BillContent.under (schemeId : String) (content : BillContent) : Bool :=
  content.gives.any fun applied => applied.schemeId = schemeId

def BillContent.benefit (schemeId : String) (content : BillContent) : Decimal :=
  ((content.gives.filter fun applied => applied.schemeId = schemeId).map fun applied =>
    money 2 |applied.benefitAmt|).sum

def BillContent.freeQty (schemeId : String) (content : BillContent) : Decimal :=
  ((content.gives.filter fun applied => applied.schemeId = schemeId).map fun applied =>
    money 4 |applied.freeQty|).sum

/-- The bills that stand POSTED, with their current figures. -/
def Tables.standing (tables : Tables) : List BillContent :=
  (tables.bills.values.filter fun bill => bill.status = .POSTED).map SaleBill.content

/-- The tally and the caps say what the standing bills gave. -/
structure TallyRight (tables : Tables) : Prop where
  given : ∀ schemeId scheme custId,
    (caps scheme schemeId custId tables.usage).given =
      (tables.standing.map (BillContent.benefit schemeId)).sum
  free : ∀ schemeId,
    givenFree schemeId tables.usage = (tables.standing.map (BillContent.freeQty schemeId)).sum
  uses : ∀ schemeId scheme custId,
    (caps scheme schemeId custId tables.usage).uses =
      (tables.standing.filter (BillContent.under schemeId)).length
  custUses : ∀ schemeId scheme custId,
    (caps scheme schemeId (some custId) tables.usage).custUses =
      (tables.standing.filter fun content =>
        content.under schemeId && content.custId = some custId).length

/-! ## Measures of the tally -/

section Measures

variable {M : Type*} [AddCommMonoid M]

/-- A figure of the live rows of a scheme, summed. -/
def tallied (measure : PromotionUsage → M) (schemeId : String) (usage : List PromotionUsage) : M :=
  ((ofScheme schemeId usage).map measure).sum

/-- The rows of the scheme counted, the others counted as nothing. -/
theorem tallied_eq_ite (measure : PromotionUsage → M) (schemeId : String)
    (usage : List PromotionUsage) :
    tallied measure schemeId usage =
      (usage.map fun row =>
        if row.pruPrmId = schemeId ∧ row.pruIsDeleted = false then measure row else 0).sum := by
  unfold tallied ofScheme
  rw [← ListSum.sum_ite_filter]
  simp

theorem tallied_append (measure : PromotionUsage → M) (schemeId : String)
    (usage more : List PromotionUsage) :
    tallied measure schemeId (usage ++ more) =
      tallied measure schemeId usage + tallied measure schemeId more := by
  simp [tallied, ofScheme]

theorem tallied_none {measure : PromotionUsage → M} {schemeId : String}
    {usage : List PromotionUsage} (none : ∀ row ∈ usage, row.pruPrmId ≠ schemeId) :
    tallied measure schemeId usage = 0 := by
  have empty : ofScheme schemeId usage = [] := by
    simp only [ofScheme, List.filter_eq_nil_iff]
    intro row member
    simp [none row member]
  simp [tallied, empty]

end Measures

def useCount (row : PromotionUsage) : ℕ := if row.pruIsReversal then 0 else 1

def custUseCount (custId : String) (row : PromotionUsage) : ℕ :=
  if !row.pruIsReversal && row.pruCustId = some custId then 1 else 0

/-- Counting the items of a kind. -/
theorem length_filter_eq_sum {α : Type*} (items : List α) (kind : α → Bool) :
    (items.filter kind).length = (items.map fun item => if kind item then 1 else 0).sum := by
  rw [ListSum.sum_ite_filter]
  simp

theorem uses_eq (schemeId : String) (usage : List PromotionUsage) :
    uses schemeId usage = tallied useCount schemeId usage := by
  unfold uses tallied useCount
  rw [length_filter_eq_sum]
  congr 1
  exact List.map_congr_left fun row _ => by cases row.pruIsReversal <;> simp

theorem custUses_eq (schemeId custId : String) (usage : List PromotionUsage) :
    custUses schemeId (some custId) usage = tallied (custUseCount custId) schemeId usage := by
  unfold custUses tallied custUseCount
  rw [length_filter_eq_sum]
  congr 1
  exact List.map_congr_left fun row _ => by simp

/-! ## A tally that tells the bills -/

/-- The rows a bill should have in the tally. -/
def SaleBill.rows (doc : DocKey) (bill : SaleBill) : List PromotionUsage :=
  if bill.status = .POSTED then usageRows doc bill.content else []

/-- Each bill has the rows of its content while it is posted, and no other. -/
structure Told (tables : Tables) : Prop where
  keys : tables.bills.keys.Nodup
  rows : ∀ doc, (tables.usage.filter fun row => row.pruSrcDoc = doc) =
    (tables.bills.get? doc).elim [] (SaleBill.rows doc)
  storable : ∀ doc content, tables.bills.get? doc = some ⟨.POSTED, content⟩ →
    content.Storable doc

theorem Told.empty : Told Tables.empty :=
  ⟨by simp [Tables.empty], fun _ => rfl, fun _ _ found => by cases found⟩

variable {content : BillContent} {doc : DocKey} {row : PromotionUsage} {schemeId : String}
variable {tables : Tables} {usage : List PromotionUsage}

theorem mem_usageRows (member : row ∈ usageRows doc content) :
    ∃ applied ∈ content.gives, row = usageRow doc content.custId applied := by
  obtain ⟨applied, appliedMem, equal⟩ := List.mem_map.mp member
  exact ⟨applied, appliedMem, equal.symm⟩

theorem usageRows_schemes_nodup (doc : DocKey) (content : BillContent) :
    ((usageRows doc content).map PromotionUsage.pruPrmId).Nodup := by
  have ids : (usageRows doc content).map PromotionUsage.pruPrmId =
      content.gives.map PromotionApplied.schemeId := by
    simp [usageRows, BillContent.gives, usageRow, Function.comp_def]
  rw [ids]
  exact (promoApplied_nodup content.items).sublist (List.filter_sublist.map _)

theorem under_iff (doc : DocKey) :
    content.under schemeId = true ↔ ∃ row ∈ usageRows doc content, row.pruPrmId = schemeId := by
  unfold BillContent.under usageRows
  rw [List.any_eq_true, ← BillContent.gives]
  simp only [List.mem_map, exists_exists_and_eq_and, usageRow, decide_eq_true_eq]

theorem Told.mem (told : Told tables) (member : row ∈ tables.usage) :
    ∃ content, tables.bills.get? row.pruSrcDoc = some ⟨.POSTED, content⟩ ∧
      row ∈ usageRows row.pruSrcDoc content := by
  have inside : row ∈ tables.usage.filter fun other => other.pruSrcDoc = row.pruSrcDoc := by
    simp [member]
  rw [told.rows] at inside
  cases found : tables.bills.get? row.pruSrcDoc with
  | none => simp [found] at inside
  | some bill =>
      obtain ⟨status, content⟩ := bill
      simp only [found, Option.elim_some, SaleBill.rows] at inside
      cases status with
      | DRAFT => simp at inside
      | POSTED => exact ⟨content, rfl, by simpa using inside⟩
      | CANCELLED => simp at inside

theorem Told.original (told : Told tables) (member : row ∈ tables.usage) :
    row.pruIsReversal = false ∧ row.pruIsDeleted = false := by
  obtain ⟨content, -, inside⟩ := told.mem member
  obtain ⟨applied, -, equal⟩ := mem_usageRows inside
  rw [equal]
  exact ⟨rfl, rfl⟩

/-- The rows of a bill that stands. -/
theorem Told.rows_of_posted (told : Told tables)
    (posted : tables.bills.get? doc = some ⟨.POSTED, content⟩) :
    (tables.usage.filter fun row => row.pruSrcDoc = doc) = usageRows doc content := by
  rw [told.rows, posted]
  simp [SaleBill.rows]

/-! ## The sums over the bills -/

section Sums

variable {M : Type*} [AddCommMonoid M]

/-- A figure of the bill's rows under a scheme. -/
def BillContent.measured (measure : PromotionUsage → M) (schemeId : String) (doc : DocKey)
    (content : BillContent) : M :=
  tallied measure schemeId (usageRows doc content)

/-- A figure over the bills that stand. -/
def standingSum (figure : DocKey → BillContent → M) (bills : OrderedMap DocKey SaleBill) : M :=
  (bills.entries.map fun entry =>
    if entry.2.status = .POSTED then figure entry.1 entry.2.content else 0).sum

theorem standingSum_eq (figure : BillContent → M) (tables : Tables) :
    standingSum (fun _ => figure) tables.bills = (tables.standing.map figure).sum := by
  unfold standingSum Tables.standing OrderedMap.values
  rw [List.filter_map, List.map_map, List.map_map,
    ← ListSum.sum_ite_filter tables.bills.entries]
  simp [Function.comp_def]

/-- What changing one bill does to a figure over the standing ones. -/
theorem standingSum_set (figure : DocKey → BillContent → M) (bills : OrderedMap DocKey SaleBill)
    {old : BillContent} (posted : bills.get? doc = some ⟨.POSTED, old⟩) (bill : SaleBill) :
    standingSum figure (bills.set doc bill) + figure doc old =
      standingSum figure bills + (if bill.status = .POSTED then figure doc bill.content else 0) := by
  have traded := OrderedMap.sum_set_trade
    (fun key (value : SaleBill) => if value.status = .POSTED then figure key value.content else 0)
    bills doc bill
  simpa [standingSum, posted] using traded

/-- The tally of a scheme is what the rows of the standing bills add to. -/
theorem Told.tallied_eq (told : Told tables) (measure : PromotionUsage → M) (schemeId : String) :
    tallied measure schemeId tables.usage =
      standingSum (BillContent.measured measure schemeId) tables.bills := by
  have owned : ∀ row ∈ tables.usage, ∃ entry ∈ tables.bills.entries,
      some row.pruSrcDoc = some entry.1 := by
    intro row member
    obtain ⟨content, found, -⟩ := told.mem member
    exact ⟨_, OrderedMap.mem_of_get? found, rfl⟩
  have nodup : (tables.bills.entries.map Prod.fst).Nodup := told.keys
  rw [tallied_eq_ite, ListSum.sum_by_owner nodup _ owned]
  unfold standingSum
  congr 1
  refine List.map_congr_left fun entry member => ?_
  have found := OrderedMap.get?_of_mem told.keys member
  have rows := told.rows entry.1
  simp only [Option.some.injEq]
  rw [rows, found, Option.elim_some, SaleBill.rows]
  by_cases posted : entry.2.status = .POSTED
  · simp [posted, BillContent.measured, tallied_eq_ite]
  · simp [posted]

end Sums

theorem ofScheme_usageRows (schemeId : String) (doc : DocKey) (content : BillContent) :
    ofScheme schemeId (usageRows doc content) =
      (content.gives.filter fun applied => applied.schemeId = schemeId).map
        (usageRow doc content.custId) := by
  unfold ofScheme usageRows
  rw [← BillContent.gives, List.filter_map]
  congr 1
  exact List.filter_congr fun applied _ => Bool.and_true _

theorem measured_benefit (schemeId : String) (doc : DocKey) (content : BillContent) :
    content.measured PromotionUsage.pruBenefitAmt schemeId doc = content.benefit schemeId := by
  unfold BillContent.measured tallied
  rw [ofScheme_usageRows, List.map_map]
  rfl

theorem measured_freeQty (schemeId : String) (doc : DocKey) (content : BillContent) :
    content.measured PromotionUsage.pruFreeQty schemeId doc = content.freeQty schemeId := by
  unfold BillContent.measured tallied
  rw [ofScheme_usageRows, List.map_map]
  rfl

/-- The rows of a bill under a scheme: one, or none. -/
theorem measured_of_under {M : Type*} [AddCommMonoid M] (measure : PromotionUsage → M) {value : M}
    (same : ∀ row ∈ usageRows doc content, measure row = value) :
    content.measured measure schemeId doc = if content.under schemeId then value else 0 := by
  by_cases under : content.under schemeId = true
  · obtain ⟨row, member, rfl⟩ := (under_iff doc).mp under
    have live : ofScheme row.pruPrmId (usageRows doc content) = [row] := by
      have keyed := ListSum.filter_key_eq (usageRows_schemes_nodup doc content) member
      rw [← keyed, ofScheme]
      refine List.filter_congr fun other otherMem => ?_
      obtain ⟨applied, -, rfl⟩ := mem_usageRows otherMem
      simp [usageRow]
    simp [BillContent.measured, tallied, live, under, same row member]
  · have none : ∀ row ∈ usageRows doc content, row.pruPrmId ≠ schemeId :=
      fun row member equal => under ((under_iff doc).mpr ⟨row, member, equal⟩)
    rw [if_neg under]
    exact tallied_none none

theorem measured_use (schemeId : String) (doc : DocKey) (content : BillContent) :
    content.measured useCount schemeId doc = if content.under schemeId then 1 else 0 := by
  refine measured_of_under useCount fun row member => ?_
  obtain ⟨applied, -, rfl⟩ := mem_usageRows member
  rfl

theorem measured_custUse (schemeId custId : String) (doc : DocKey) (content : BillContent) :
    content.measured (custUseCount custId) schemeId doc =
      if content.under schemeId && content.custId = some custId then 1 else 0 := by
  have each : ∀ row ∈ usageRows doc content,
      custUseCount custId row = if content.custId = some custId then 1 else 0 := by
    intro row member
    obtain ⟨applied, -, rfl⟩ := mem_usageRows member
    unfold custUseCount usageRow
    by_cases same : content.custId = some custId <;> simp [same]
  rw [measured_of_under (custUseCount custId) each]
  by_cases under : content.under schemeId <;> simp [under]

theorem Told.right (told : Told tables) : TallyRight tables := by
  constructor
  · intro schemeId scheme custId
    have sums := told.tallied_eq PromotionUsage.pruBenefitAmt schemeId
    simp only [funext fun doc => funext (measured_benefit schemeId doc)] at sums
    rw [← standingSum_eq]
    exact sums
  · intro schemeId
    have sums := told.tallied_eq PromotionUsage.pruFreeQty schemeId
    simp only [funext fun doc => funext (measured_freeQty schemeId doc)] at sums
    rw [← standingSum_eq]
    exact sums
  · intro schemeId scheme custId
    have sums := told.tallied_eq useCount schemeId
    simp only [funext fun doc => funext (measured_use schemeId doc)] at sums
    rw [length_filter_eq_sum, ← standingSum_eq, ← sums]
    exact uses_eq schemeId tables.usage
  · intro schemeId scheme custId
    have sums := told.tallied_eq (custUseCount custId) schemeId
    simp only [funext fun doc => funext (measured_custUse schemeId custId doc)] at sums
    rw [length_filter_eq_sum, ← standingSum_eq, ← sums]
    exact custUses_eq schemeId custId tables.usage

/-! ## What a call does to the tally -/

theorem docScheme_usageRow (doc : DocKey) (custId : Option String) (applied : PromotionApplied) :
    (usageRow doc custId applied).docScheme = some (doc, applied.schemeId, false) := rfl

theorem usageRows_unique (doc : DocKey) (content : BillContent) :
    UniqueIndex.Unique PromotionUsage.docScheme (usageRows doc content) := by
  have apart := List.pairwise_map.mp (usageRows_schemes_nodup doc content)
  refine apart.imp_of_mem ?_
  intro left right leftMem rightMem different keyed same
  obtain ⟨leftApplied, -, rfl⟩ := mem_usageRows leftMem
  obtain ⟨rightApplied, -, rfl⟩ := mem_usageRows rightMem
  simp only [docScheme_usageRow, Option.some.injEq, Prod.mk.injEq] at same
  exact different same.2.1

theorem Clashes.sameDoc (clashes : UniqueIndex.Clashes PromotionUsage.docScheme usage row) :
    ∃ held ∈ usage, held.pruSrcDoc = row.pruSrcDoc ∧ held.pruPrmId = row.pruPrmId ∧
      held.pruIsReversal = row.pruIsReversal := by
  obtain ⟨keyed, held, heldMem, same⟩ := clashes
  refine ⟨held, heldMem, ?_⟩
  unfold PromotionUsage.docScheme at keyed same
  by_cases deleted : row.pruIsDeleted = true
  · simp [deleted] at keyed
  · by_cases heldDeleted : held.pruIsDeleted = true
    · simp [deleted, heldDeleted] at same
    · simpa [deleted, heldDeleted] using same

/-- A bill without a row gets all of its rows. -/
theorem record_untold (untold : ∀ row ∈ usage, row.pruSrcDoc ≠ doc)
    (storable : content.Storable doc) :
    record doc content usage = some (usage ++ usageRows doc content) := by
  unfold record
  rw [if_pos storable, UniqueIndex.insertEach_fresh _ (usageRows_unique doc content)]
  intro row member clashes
  obtain ⟨held, heldMem, sameDoc, -⟩ := Clashes.sameDoc clashes
  obtain ⟨applied, -, rfl⟩ := mem_usageRows member
  exact untold held heldMem sameDoc

theorem mem_mirrors {mirror : PromotionUsage} (member : mirror ∈ mirrors doc reason usage) :
    ∃ row ∈ usage, isOriginalOf doc row = true ∧ ∃ place,
      mirror = mirrorRow reason (row, place) := by
  obtain ⟨⟨row, place⟩, placed, equal⟩ := List.mem_map.mp member
  obtain ⟨inside, original⟩ := List.mem_filter.mp placed
  exact ⟨row, (List.mem_zipIdx' inside).2 ▸ List.getElem_mem _, original, place, equal.symm⟩

theorem reverse_untold (untold : ∀ row ∈ usage, row.pruSrcDoc ≠ doc) :
    reverse doc reason usage = usage := by
  have none : mirrors doc reason usage = [] := by
    refine List.eq_nil_iff_forall_not_mem.mpr fun mirror member => ?_
    obtain ⟨row, rowMem, original, -⟩ := mem_mirrors member
    simp only [isOriginalOf, Bool.and_eq_true, decide_eq_true_eq] at original
    exact untold row rowMem original.1.1
  simp [reverse, none, UniqueIndex.insertEach]

/-! ## A step that leaves the tally telling the bills -/

/-- A call that takes apart a bill the tally has rows of. -/
def Disturbs (tables : Tables) : Move → Prop
  | .post _ _ => False
  | .cancel doc _ => ∃ content, tables.bills.get? doc = some ⟨.POSTED, content⟩ ∧
      content.gives ≠ []
  | .amend doc edited _ => ∃ content, tables.bills.get? doc = some ⟨.POSTED, content⟩ ∧
      content.gives ≠ [] ∧ edited.Storable doc

theorem usageRows_eq_nil (nothing : content.gives = []) : usageRows doc content = [] := by
  unfold usageRows
  rw [← BillContent.gives, nothing, List.map_nil]

theorem untold_of_filter (none : (usage.filter fun row => row.pruSrcDoc = doc) = []) :
    ∀ row ∈ usage, row.pruSrcDoc ≠ doc := by
  intro row member
  simpa using List.filter_eq_nil_iff.mp none row member

theorem filter_usageRows (doc other : DocKey) (content : BillContent) :
    ((usageRows doc content).filter fun row => row.pruSrcDoc = other) =
      if doc = other then usageRows doc content else [] := by
  have own : ∀ row ∈ usageRows doc content, row.pruSrcDoc = doc := by
    intro row member
    obtain ⟨applied, -, rfl⟩ := mem_usageRows member
    rfl
  by_cases same : doc = other
  · rw [if_pos same, List.filter_eq_self]
    intro row member
    simp [own row member, same]
  · rw [if_neg same, List.filter_eq_nil_iff]
    intro row member
    simp [own row member, same]

theorem Told.set (told : Told tables)
    (others : ∀ other, other ≠ doc → (usage.filter fun row => row.pruSrcDoc = other) =
      tables.usage.filter fun row => row.pruSrcDoc = other)
    (own : (usage.filter fun row => row.pruSrcDoc = doc) = bill.rows doc)
    (storable : bill.status = .POSTED → bill.content.Storable doc) :
    Told ⟨tables.bills.set doc bill, usage⟩ := by
  constructor
  · exact OrderedMap.keys_set_nodup told.keys doc bill
  · intro other
    by_cases same : other = doc
    · subst same
      simpa [OrderedMap.get?_set] using own
    · rw [OrderedMap.get?_set_of_ne _ _ same, others other same]
      exact told.rows other
  · intro other content found
    by_cases same : other = doc
    · subst same
      simp only [OrderedMap.get?_set, if_true, Option.some.injEq] at found
      subst found
      exact storable rfl
    · rw [OrderedMap.get?_set_of_ne _ _ same] at found
      exact told.storable other content found

/-- A bill without a row in the tally is posted with what it gives. -/
theorem Told.posted (told : Told tables)
    (none : (tables.usage.filter fun row => row.pruSrcDoc = doc) = [])
    (storable : content.Storable doc) :
    Told ⟨tables.bills.set doc ⟨.POSTED, content⟩, tables.usage ++ usageRows doc content⟩ := by
  apply told.set
  · intro other different
    rw [List.filter_append, filter_usageRows, if_neg different.symm, List.append_nil]
  · rw [List.filter_append, filter_usageRows, if_pos rfl, none, List.nil_append]
    simp [SaleBill.rows]
  · exact fun _ => storable

theorem Told.step (told : Told tables) (undisturbed : ¬ Disturbs tables move) :
    Told (step tables move) := by
  unfold Promotion.step
  cases move with
  | post doc content =>
      have fresh (none : (tables.usage.filter fun row => row.pruSrcDoc = doc) = []) :
          Told (((record doc content tables.usage).bind fun usage =>
            some ⟨tables.bills.set doc ⟨.POSTED, content⟩, usage⟩).getD tables) := by
        by_cases storable : content.Storable doc
        · rw [record_untold (untold_of_filter none) storable]
          exact told.posted none storable
        · simpa [record, storable] using told
      have rows := told.rows doc
      cases found : tables.bills.get? doc with
      | none =>
          simp only [attempt, found, Option.map_none]
          exact fresh (by simpa [found] using rows)
      | some bill =>
          obtain ⟨status, held⟩ := bill
          cases status with
          | DRAFT =>
              simp only [attempt, found, Option.map_some]
              exact fresh (by simpa [found, SaleBill.rows] using rows)
          | POSTED => simpa [attempt, found] using told
          | CANCELLED => simpa [attempt, found] using told
  | cancel doc reason =>
      simp only [attempt]
      split
      · rename_i content found
        have nothing : content.gives = [] := by
          by_contra gives
          exact undisturbed ⟨content, found, gives⟩
        have none := told.rows_of_posted found
        rw [usageRows_eq_nil nothing] at none
        rw [reverse_untold (untold_of_filter none), Option.getD_some]
        exact told.set (fun other _ => rfl) (by simpa [SaleBill.rows] using none)
          fun posted => by cases posted
      · exact told
  | amend doc edited editRemark =>
      simp only [attempt]
      split
      · rename_i content found
        by_cases storable : edited.Storable doc
        · have nothing : content.gives = [] := by
            by_contra gives
            exact undisturbed ⟨content, found, gives, storable⟩
          have none := told.rows_of_posted found
          rw [usageRows_eq_nil nothing] at none
          have untold := untold_of_filter none
          rw [reverse_untold untold, record_untold untold storable]
          exact told.posted none storable
        · simpa [record, storable] using told
      · exact told

/-- Undisturbed, every state of a run tells its bills. -/
theorem told_run {moves : List Move}
    (undisturbed : ∀ earlier move later, moves = earlier ++ move :: later →
      ¬ Disturbs (run earlier) move) : Told (run moves) := by
  induction moves using List.reverseRecOn with
  | nil => exact Told.empty
  | append_singleton earlier move ih =>
      have before : Told (run earlier) := ih fun first other rest equal =>
        undisturbed first other (rest ++ [move]) (by simp [equal])
      have last := before.step (undisturbed earlier move [] rfl)
      simpa [run] using last

/-! ## A step that does not -/

/-- The rows a bill's mirrors are of. -/
theorem map_mirrors {β : Type*} {image : PromotionUsage → β} (other : PromotionUsage → β)
    (reason : String) (same : ∀ placed, image (mirrorRow reason placed) = other placed.1)
    (doc : DocKey) (usage : List PromotionUsage) :
    (mirrors doc reason usage).map image =
      (usage.filter (isOriginalOf doc)).map other := by
  have places : (usage.zipIdx.filter fun placed => isOriginalOf doc placed.1).map Prod.fst =
      usage.filter (isOriginalOf doc) := by
    conv_rhs => rw [← List.zipIdx_map_fst 0 usage]
    rw [List.filter_map]
    rfl
  rw [← places, mirrors, List.map_map, List.map_map]
  exact List.map_congr_left fun placed _ => same placed

theorem Told.originals (told : Told tables) (doc : DocKey) :
    tables.usage.filter (isOriginalOf doc) =
      tables.usage.filter fun row => row.pruSrcDoc = doc := by
  refine List.filter_congr fun row member => ?_
  obtain ⟨original, live⟩ := told.original member
  simp [isOriginalOf, original, live]

/-- A bill of the tally is reversed row by row. -/
theorem Told.reverse_eq (told : Told tables)
    (posted : tables.bills.get? doc = some ⟨.POSTED, content⟩) (reason : String) :
    reverse doc reason tables.usage = tables.usage ++ mirrors doc reason tables.usage := by
  have schemes : (mirrors doc reason tables.usage).map PromotionUsage.pruPrmId =
      (usageRows doc content).map PromotionUsage.pruPrmId := by
    rw [map_mirrors PromotionUsage.pruPrmId reason (fun _ => rfl), told.originals,
      told.rows_of_posted posted]
  apply UniqueIndex.insertEach_fresh
  · intro mirror member clashes
    obtain ⟨held, heldMem, -, -, sameSide⟩ := Clashes.sameDoc clashes
    obtain ⟨row, -, -, place, rfl⟩ := mem_mirrors member
    rw [(told.original heldMem).1] at sameSide
    cases sameSide
  · have apart : ((mirrors doc reason tables.usage).map PromotionUsage.pruPrmId).Nodup :=
      schemes ▸ usageRows_schemes_nodup doc content
    refine (List.pairwise_map.mp apart).imp_of_mem ?_
    intro left right leftMem rightMem different keyed same
    obtain ⟨leftRow, -, leftOriginal, leftPlace, rfl⟩ := mem_mirrors leftMem
    obtain ⟨rightRow, -, rightOriginal, rightPlace, rfl⟩ := mem_mirrors rightMem
    simp only [isOriginalOf, Bool.and_eq_true, Bool.not_eq_true'] at leftOriginal rightOriginal
    simp only [PromotionUsage.docScheme, mirrorRow, leftOriginal.2, rightOriginal.2,
      Bool.false_eq_true, if_false, Option.some.injEq, Prod.mk.injEq] at same
    exact different same.2.1

/-- The mirrors of a bill take back each figure the schemes gave on it. -/
theorem Told.tallied_mirrors (told : Told tables)
    (posted : tables.bills.get? doc = some ⟨.POSTED, content⟩) (reason schemeId : String)
    (negates : ∀ placed, measure (mirrorRow reason placed) = -measure placed.1) :
    tallied measure schemeId (mirrors doc reason tables.usage) =
      -content.measured measure schemeId doc := by
  rw [BillContent.measured, tallied_eq_ite, tallied_eq_ite, ← ListSum.sum_map_neg, ← told.rows_of_posted posted,
    ← told.originals]
  congr 1
  refine map_mirrors _ reason (fun placed => ?_) doc tables.usage
  by_cases live : placed.1.pruPrmId = schemeId ∧ placed.1.pruIsDeleted = false
  · have mirrored : (mirrorRow reason placed).pruPrmId = schemeId ∧
        (mirrorRow reason placed).pruIsDeleted = false := live
    rw [if_pos mirrored, if_pos live, negates]
  · have unlike : ¬ ((mirrorRow reason placed).pruPrmId = schemeId ∧
        (mirrorRow reason placed).pruIsDeleted = false) := live
    rw [if_neg unlike, if_neg live, neg_zero]

/-- A scheme that gave something on the bill. -/
theorem exists_under (gives : content.gives ≠ []) : ∃ schemeId, content.under schemeId = true := by
  obtain ⟨applied, member⟩ := List.exists_mem_of_ne_nil _ gives
  refine ⟨applied.schemeId, ?_⟩
  simp only [BillContent.under, List.any_eq_true]
  exact ⟨applied, member, by simp⟩

/-- The uses of the right tally, counted over the bills. -/
theorem TallyRight.uses_eq (right : TallyRight tables) (schemeId : String) :
    tallied useCount schemeId tables.usage =
      standingSum (fun _ content => if content.under schemeId then 1 else 0) tables.bills := by
  rw [standingSum_eq, ← length_filter_eq_sum, ← right.uses schemeId none none]
  exact (Promotion.uses_eq schemeId tables.usage).symm

/-- Rows that are all reversals are no uses. -/
theorem tallied_useCount_reversals (reversals : ∀ row ∈ usage, row.pruIsReversal = true) :
    tallied useCount schemeId usage = 0 := by
  unfold tallied
  refine List.sum_eq_zero fun count member => ?_
  obtain ⟨row, rowMem, rfl⟩ := List.mem_map.mp member
  simp [useCount, reversals row (List.mem_of_mem_filter rowMem)]

theorem mirrors_reversals (doc : DocKey) (reason : String) (usage : List PromotionUsage) :
    ∀ row ∈ mirrors doc reason usage, row.pruIsReversal = true := by
  intro mirror member
  obtain ⟨row, -, -, place, rfl⟩ := mem_mirrors member
  rfl

/-- The uses of a right tally when a bill under the scheme no longer stands with it. -/
theorem Told.uses_stale (told : Told tables)
    (posted : tables.bills.get? doc = some ⟨.POSTED, content⟩)
    (under : content.under schemeId = true)
    (same : tallied useCount schemeId usage = tallied useCount schemeId tables.usage)
    (gone : bill.status = .POSTED → bill.content.under schemeId = false) :
    ¬ TallyRight ⟨tables.bills.set doc bill, usage⟩ := by
  intro right
  have after := right.uses_eq schemeId
  have before := told.right.uses_eq schemeId
  have traded := standingSum_set (fun _ content => if content.under schemeId then 1 else 0)
    tables.bills posted bill
  have none : (if bill.status = .POSTED then
      if bill.content.under schemeId then 1 else 0 else 0) = 0 := by
    by_cases stands : bill.status = .POSTED
    · simp [stands, gone stands]
    · simp [stands]
  rw [none] at traded
  simp only [under, if_true] at traded
  simp only at after
  omega

/-- A figure of a scheme that stays on an amended bill: the old one is taken back and the
new one is not written. -/
theorem Told.figure_lost (told : Told tables) {edited : BillContent}
    (posted : tables.bills.get? doc = some ⟨.POSTED, content⟩) {figure : BillContent → Decimal}
    (measured : ∀ doc (content : BillContent),
      content.measured measure schemeId doc = figure content)
    (lost : tallied measure schemeId usage = tallied measure schemeId tables.usage - figure content)
    (right : tallied measure schemeId usage =
      standingSum (fun _ => figure) (tables.bills.set doc ⟨.POSTED, edited⟩)) :
    figure edited = 0 := by
  have before := told.tallied_eq measure schemeId
  simp only [funext fun doc => funext (measured doc)] at before
  have traded := standingSum_set (fun _ => figure) tables.bills posted ⟨.POSTED, edited⟩
  simp only [if_true] at traded
  linarith

theorem under_of_storable (storable : content.Storable doc) (under : content.under schemeId = true) :
    content.benefit schemeId ≠ 0 ∨ content.freeQty schemeId ≠ 0 := by
  obtain ⟨row, member, rfl⟩ := (under_iff doc).mp under
  have live : ofScheme row.pruPrmId (usageRows doc content) = [row] := by
    have keyed := ListSum.filter_key_eq (usageRows_schemes_nodup doc content) member
    rw [← keyed, ofScheme]
    refine List.filter_congr fun other otherMem => ?_
    obtain ⟨applied, -, rfl⟩ := mem_usageRows otherMem
    simp [usageRow]
  have something := (storable row member).1
  rw [← measured_benefit _ doc, ← measured_freeQty _ doc]
  simpa [BillContent.measured, tallied, live] using something

theorem Told.disturbed (told : Told tables) (disturbs : Disturbs tables move) :
    ¬ TallyRight (Promotion.step tables move) := by
  cases move with
  | post doc content => exact disturbs.elim
  | cancel doc reason =>
      obtain ⟨content, posted, gives⟩ := disturbs
      obtain ⟨schemeId, under⟩ := exists_under gives
      have done : Promotion.step tables (.cancel doc reason) =
          ⟨tables.bills.set doc ⟨.CANCELLED, content⟩,
            tables.usage ++ mirrors doc reason tables.usage⟩ := by
        simp [Promotion.step, attempt, posted, told.reverse_eq posted]
      rw [done]
      apply told.uses_stale posted under
      · rw [tallied_append, tallied_useCount_reversals (mirrors_reversals _ _ _), add_zero]
      · intro stands
        cases stands
  | amend doc edited editRemark =>
      obtain ⟨content, posted, gives, storable⟩ := disturbs
      obtain ⟨schemeId, under⟩ := exists_under gives
      set reason := "Amended: " ++ editRemark with reasonEq
      obtain ⟨kept, sub, equal, fresh⟩ := UniqueIndex.insertEach_eq PromotionUsage.docScheme
        (tables.usage ++ mirrors doc reason tables.usage) (usageRows doc edited)
      have done : Promotion.step tables (.amend doc edited editRemark) =
          ⟨tables.bills.set doc ⟨.POSTED, edited⟩,
            tables.usage ++ mirrors doc reason tables.usage ++ kept⟩ := by
        simp [Promotion.step, attempt, posted, told.reverse_eq posted, record, storable, equal,
          ← reasonEq]
      rw [done]
      by_cases stays : edited.under schemeId = true
      · -- The row of the first post stands, and the new one is skipped.
        have skipped : ∀ row ∈ kept, row.pruPrmId ≠ schemeId := by
          intro row member same
          apply fresh row member
          obtain ⟨applied, -, rfl⟩ := mem_usageRows (sub.subset member)
          obtain ⟨held, heldMem, heldScheme⟩ := (under_iff doc).mp under
          obtain ⟨heldApplied, -, rfl⟩ := mem_usageRows heldMem
          have stood : usageRow doc content.custId heldApplied ∈ tables.usage := by
            rw [← told.rows_of_posted posted] at heldMem
            exact (List.mem_filter.mp heldMem).1
          refine ⟨by simp [docScheme_usageRow], _,
            List.mem_append_left _ stood, ?_⟩
          simp only [docScheme_usageRow, Option.some.injEq, Prod.mk.injEq, true_and, and_true]
          exact heldScheme.trans same.symm
        intro right
        have lost {measure : PromotionUsage → Decimal}
            (negates : ∀ placed, measure (mirrorRow reason placed) = -measure placed.1) :
            tallied measure schemeId
                (tables.usage ++ mirrors doc reason tables.usage ++ kept) =
              tallied measure schemeId tables.usage - content.measured measure schemeId doc := by
          rw [tallied_append, tallied_append, tallied_none skipped,
            told.tallied_mirrors posted reason schemeId negates, add_zero, sub_eq_add_neg]
        have noBenefit : edited.benefit schemeId = 0 := by
          apply told.figure_lost posted (measured_benefit schemeId)
          · rw [lost fun _ => rfl, measured_benefit]
          · rw [standingSum_eq _ ⟨tables.bills.set doc ⟨.POSTED, edited⟩, _⟩]
            exact right.given schemeId none none
        have noFree : edited.freeQty schemeId = 0 := by
          apply told.figure_lost posted (measured_freeQty schemeId)
          · rw [lost fun _ => rfl, measured_freeQty]
          · rw [standingSum_eq _ ⟨tables.bills.set doc ⟨.POSTED, edited⟩, _⟩]
            exact right.free schemeId
        exact (under_of_storable storable stays).elim (fun some => some noBenefit)
          fun some => some noFree
      · -- The row of the first post still counts as a use.
        have others : ∀ row ∈ kept, row.pruPrmId ≠ schemeId := fun row member same =>
          stays ((under_iff doc).mpr ⟨row, sub.subset member, same⟩)
        apply told.uses_stale posted under
        · rw [tallied_append, tallied_append, tallied_none others,
            tallied_useCount_reversals (mirrors_reversals _ _ _), add_zero, add_zero]
        · intro _
          simpa using stays

/-! ## Whole runs -/

/-- Over a run the tally and the caps say in every state what the standing bills gave,
exactly when no bill that gave something is cancelled or amended. -/
theorem tally_right_iff (moves : List Move) :
    (∀ earlier later, moves = earlier ++ later → TallyRight (run earlier)) ↔
      ∀ earlier move later, moves = earlier ++ move :: later → ¬ Disturbs (run earlier) move := by
  constructor
  · intro right
    induction moves using List.reverseRecOn with
    | nil =>
        intro earlier move later equal
        simp at equal
    | append_singleton before last ih =>
        have undisturbed := ih fun earlier later equal =>
          right earlier (later ++ [last]) (by simp [equal])
        intro earlier move later equal disturbs
        rcases List.eq_nil_or_concat later with rfl | ⟨rest, final, rfl⟩
        · obtain ⟨rfl, lastEq⟩ := List.append_inj' equal rfl
          obtain rfl : last = move := by simpa using lastEq
          have after := right (before ++ [last]) [] (by simp)
          rw [run, List.foldl_append] at after
          exact (told_run undisturbed).disturbed disturbs after
        · apply undisturbed earlier move rest
          · have split : before ++ [last] = (earlier ++ move :: rest) ++ [final] := by
              simpa using equal
            exact (List.append_inj' split rfl).1
          · exact disturbs
  · intro undisturbed earlier later equal
    apply Told.right
    apply told_run
    intro first move rest split
    exact undisturbed first move (rest ++ later) (by simp [equal, split])

/-! ### A bill cancelled, a bill amended -/

/-- Ten off under one scheme. -/
def tenOff : BillContent := ⟨some "customer", [⟨some "scheme", 90, 1, 10, 0, false, none⟩]⟩

def firstBill : DocKey := ⟨"bill", "2026-2027"⟩

/-- After an amend that changes nothing the campaign has given nothing; after a cancel the
scheme still counts a use. -/
theorem amended_untold :
    ¬ TallyRight (run [.post firstBill tenOff, .amend firstBill tenOff "reprint"]) ∧
      ¬ TallyRight (run [.post firstBill tenOff, .cancel firstBill "mistake"]) := by
  constructor
  · intro right
    have given := right.given "scheme" none none
    revert given
    decide +kernel
  · intro right
    have uses := right.uses "scheme" none none
    revert uses
    decide +kernel

end ErpServer.Sales.Promotion
