import ErpServer.Lib.ListSum
import ErpServer.Lib.Places
import ErpServer.Sales.SourceLines
import Mathlib.Tactic.Linarith

/-!
# A source is never over-taken and never drifts

As long as a bill that gets hold of the source has summed what is committed and finds
room, what is stored of the source is what a re-derivation from the committed bills gives,
and no line has more billed and returned than it was for.
-/

namespace ErpServer.Sales

open Lib
open Lib.Interleaving

/-- What is stored is what a re-derivation gives, and no line is over-taken. -/
structure Fulfilled (kind : SourceKind) (tables : SourceTables) : Prop where
  rederived : rederive kind tables.bills tables.source = tables.source
  within : ∀ index line, tables.source.lines[index]? = some line →
    billedOf kind tables.bills index + line.returnedQty ≤ line.qty

/-! ## Settling -/

section Settling

variable {kind : SourceKind} {bills before : List SaleBill} {source : SourceDocument}
variable {named : List SaleBillItem} {index : ℕ} {line : SourceLine}

theorem rederive_lines : (rederive kind bills source).lines =
    source.lines.mapIdx fun index line => line.settle kind (billedOf kind bills index) := by
  simp only [rederive, SourceDocument.settle, rollUp_lines, if_true]

theorem getElem?_rederive : (rederive kind bills source).lines[index]? =
    source.lines[index]?.map fun line => line.settle kind (billedOf kind bills index) := by
  rw [rederive_lines, List.getElem?_mapIdx]

@[simp] theorem settle_qty (billed : Quantity) : (line.settle kind billed).qty = line.qty := by
  cases kind <;> rfl

@[simp] theorem settle_returnedQty (billed : Quantity) :
    (line.settle kind billed).returnedQty = line.returnedQty := by
  cases kind <;> rfl

/-- A line with room is not revised. -/
theorem settle_netQty {billed : Quantity} (net : line.netQty = line.qty)
    (room : billed + line.returnedQty ≤ line.qty) : (line.settle kind billed).netQty = line.qty := by
  cases kind with
  | DELIVERY_CHALLAN => exact net
  | SALES_ORDER =>
      have standing : ¬line.netQty - billed - line.returnedQty < 0 := by
        rw [net]
        linarith
      simp only [SourceLine.settle, if_neg standing]
      exact net

theorem takes_of_unnamed {bill : SaleBill} (unnamed : bill.items.any (·.line = index) = false) :
    bill.takes kind index = 0 := by
  have none : bill.items.filter (·.line = index) = [] := by
    apply List.filter_eq_nil_iff.mpr
    intro item member same
    rw [List.any_eq_false] at unnamed
    exact unnamed item member same
  rw [SaleBill.takes, none]
  split <;> rfl

theorem billedOf_eq_zero (unnamed : ∀ bill ∈ bills, bill.sbStatus = .POSTED →
    bill.items.any (·.line = index) = false) : billedOf kind bills index = 0 := by
  apply List.sum_eq_zero
  intro taken member
  obtain ⟨bill, billMember, rfl⟩ := List.mem_map.mp member
  by_cases posted : bill.sbStatus = .POSTED
  · exact takes_of_unnamed (unnamed bill billMember posted)
  · simp [SaleBill.takes, posted]

/-- A line that is not touched carries no billed quantity. -/
theorem billedOf_untouched (untouched : touchedBy bills named index = false) :
    billedOf kind bills index = 0 := by
  have unnamed := List.any_eq_false.mp (Bool.or_eq_false_iff.mp untouched).2
  apply billedOf_eq_zero
  intro bill member posted
  have unnamedHere := unnamed bill member
  simp only [posted, decide_true, Bool.true_and, Bool.not_eq_true] at unnamedHere
  exact unnamedHere

/-- An order's lines left alone are as a re-derivation would have them. -/
theorem sync_eq_rederive (standing : rederive .SALES_ORDER before source = source)
    (untouched : ∀ index, touchedBy bills named index = false →
      billedOf .SALES_ORDER before index = 0) :
    syncOrderFulfilment bills named source = rederive .SALES_ORDER bills source := by
  have lines : (source.lines.mapIdx fun index line =>
      if touchedBy bills named index then line.settle .SALES_ORDER (billedOf .SALES_ORDER bills index)
      else line) = source.lines.mapIdx fun index line =>
        line.settle .SALES_ORDER (billedOf .SALES_ORDER bills index) := by
    apply List.ext_getElem?
    intro index
    rw [List.getElem?_mapIdx, List.getElem?_mapIdx]
    cases found : source.lines[index]? with
    | none => rfl
    | some line =>
        cases touched : touchedBy bills named index with
        | true => simp
        | false =>
            have settled : line.settle .SALES_ORDER (billedOf .SALES_ORDER before index) = line := by
              have again : (rederive .SALES_ORDER before source).lines[index]? = _ := getElem?_rederive
              rw [standing, found, Option.map_some, Option.some.injEq] at again
              exact again.symm
            rw [untouched index touched] at settled
            simp [billedOf_untouched touched, settled]
  simp only [syncOrderFulfilment, rederive, SourceDocument.settle, lines, if_true]

/-- A challan's lines take the sums of the statement. -/
theorem recomputeOne_eq_rederive :
    recomputeOne source (billedOfEach .DELIVERY_CHALLAN source bills) =
      rederive .DELIVERY_CHALLAN bills source := by
  have lines : (source.lines.mapIdx fun index line => line.settle .DELIVERY_CHALLAN
      ((billedOfEach .DELIVERY_CHALLAN source bills).getD index 0)) =
      source.lines.mapIdx fun index line =>
        line.settle .DELIVERY_CHALLAN (billedOf .DELIVERY_CHALLAN bills index) := by
    apply List.ext_getElem?
    intro index
    rw [List.getElem?_mapIdx, List.getElem?_mapIdx]
    cases found : source.lines[index]? with
    | none => rfl
    | some line =>
        have within := (List.getElem?_eq_some_iff.mp found).1
        simp [billedOfEach, within]
  simp only [recomputeOne, rederive, SourceDocument.settle, if_true, lines]

end Settling

/-! ## Invariants -/

/-- Between statements: no line was revised, besides. -/
structure Sound (kind : SourceKind) (tables : SourceTables) : Prop extends Fulfilled kind tables where
  net : ∀ line ∈ tables.source.lines, line.netQty = line.qty

/-- A bill on its transaction's header lock, with the lines it is left with. -/
def OnBill (tables : SourceTables) (locks : List SourceLock) (bill : ℕ) (items : List SaleBillItem) :
    Prop :=
  SourceLock.bill bill ∈ locks ∧ ∃ row, tables.bills[bill]? = some row ∧ row.items = items

/-- An order held while one of its bills is amended, as its transaction wrote it. -/
structure Released (tables : SourceTables) (locks : List SourceLock) (bill : ℕ) (next : SaleBill)
    (source : SourceDocument) : Prop where
  held : SourceLock.source ∈ locks
  onBill : ∃ items, OnBill tables locks bill items
  room : tables.Room .SALES_ORDER bill { next with sbStatus := .DRAFT }
  source : source =
    rederive .SALES_ORDER (tables.withBill bill { next with sbStatus := .DRAFT }) tables.source

/-- What a transaction relies on at its next statement. -/
def Relies (kind : SourceKind) (tables : SourceTables) (locks : List SourceLock) : BillTask → Prop
  | .start _ _ => True
  | .locked bill _ => SourceLock.bill bill ∈ locks
  | .guarding bill next | .checked bill next =>
      SourceLock.bill bill ∈ locks ∧ (kind = .SALES_ORDER → OnBill tables locks bill next.items)
  | .summed bill _ _ => kind = .DELIVERY_CHALLAN ∧ SourceLock.bill bill ∈ locks
  | .derived bill next billed => kind = .DELIVERY_CHALLAN ∧ SourceLock.bill bill ∈ locks ∧
      SourceLock.source ∈ locks ∧ tables.Room kind bill next ∧
      billed = billedOfEach kind tables.source (tables.withBill bill next)
  | .ordered bill next => kind = .SALES_ORDER ∧ SourceLock.source ∈ locks ∧
      OnBill tables locks bill next.items
  | .amending bill _ prior => kind = .SALES_ORDER ∧ OnBill tables locks bill prior
  | .released bill _ prior => kind = .SALES_ORDER ∧ SourceLock.source ∈ locks ∧
      OnBill tables locks bill prior
  | .guardingOwn bill next source | .synced bill next source =>
      kind = .SALES_ORDER ∧ Released tables locks bill next source

section Keeping

variable {kind : SourceKind} {tables later : SourceTables} {now : Unit} {task following : BillTask}
variable {locks held : List SourceLock} {key : SourceLock} {bill : ℕ} {next : SaleBill}

variable {row : SaleBill} {index : ℕ} {bills : List SaleBill} {source : SourceDocument}

/-- A bill left otherwise moves what is billed of a line by what it takes. -/
theorem billedOf_withBill (found : tables.bills[bill]? = some row) (index : ℕ) :
    billedOf kind (tables.withBill bill next) index =
      billedOf kind tables.bills index - row.takes kind index + next.takes kind index := by
  have sums := ListSum.sum_map_modify found (SaleBill.takes kind index) fun _ => next
  rw [billedOf, SourceTables.withBill, billedOf]
  linarith

/-- With room for the bill, every line has room. -/
theorem Sound.fits (sound : Sound kind tables) (room : tables.Room kind bill next)
    {line : SourceLine} (found : tables.source.lines[index]? = some line) :
    tables.fits kind bill next index line := by
  rcases room (line, index) (List.mem_zipIdx_iff_getElem?.mpr found) with less | fits
  · rw [SourceTables.fits]
    have within := sound.within index line found
    cases rowFound : tables.bills[bill]? with
    | none =>
        have same : tables.withBill bill next = tables.bills := by
          apply List.ext_getElem?
          intro place
          rw [SourceTables.withBill, List.getElem?_modify]
          by_cases here : bill = place
          · rw [← here, rowFound]
            rfl
          · cases tables.bills[place]? <;> simp [here]
        rw [same]
        exact within
    | some row =>
        rw [billedOf_withBill rowFound]
        simp only [SourceTables.takesNow, rowFound, Option.map_some, Option.getD_some] at less
        linarith
  · exact fits

/-- A source derived again from bills that every line has room for is sound. -/
theorem sound_rederive
    (room : ∀ index line, source.lines[index]? = some line → line.netQty = line.qty ∧
      billedOf kind bills index + line.returnedQty ≤ line.qty) :
    Sound kind ⟨rederive kind bills source, bills⟩ where
  rederived := rederive_rederive _ _ _
  within := by
    intro index line found
    rw [getElem?_rederive] at found
    obtain ⟨was, wasFound, rfl⟩ := Option.map_eq_some_iff.mp found
    rw [settle_qty, settle_returnedQty]
    exact (room index was wasFound).2
  net := by
    intro line member
    obtain ⟨index, found⟩ := List.mem_iff_getElem?.mp member
    rw [getElem?_rederive] at found
    obtain ⟨was, wasFound, rfl⟩ := Option.map_eq_some_iff.mp found
    have wasRoom := room index was wasFound
    rw [settle_qty]
    exact settle_netQty wasRoom.1 wasRoom.2

theorem Sound.rederive (sound : Sound kind tables) (room : tables.Room kind bill next) :
    Sound kind ⟨Sales.rederive kind (tables.withBill bill next) tables.source,
      tables.withBill bill next⟩ := by
  apply sound_rederive
  intro index line found
  exact ⟨sound.net line (List.mem_of_getElem? found), sound.fits room found⟩

/-- A posted bill of the changed list is the changed one, or was posted before. -/
theorem posted_withBill (next : SaleBill) {other : SaleBill}
    (found : tables.bills[bill]? = some row) (otherFound : tables.bills[index]? = some other) :
    (index = bill ∧ other = row) ∨ other ∈ tables.withBill bill next := by
  by_cases here : bill = index
  · subst here
    rw [found] at otherFound
    cases otherFound
    exact Or.inl ⟨rfl, rfl⟩
  · apply Or.inr
    rw [← List.getElem?_modify_ne _ _ here] at otherFound
    exact List.mem_of_getElem? otherFound

variable {items named : List SaleBillItem} {before : List SaleBill}

/-- A line that neither the bill's lines nor another posted bill names carries nothing. -/
theorem billedOf_unnamed (found : tables.bills[bill]? = some row)
    (names : ∀ item ∈ row.items, item ∈ named)
    (untouched : touchedBy (tables.withBill bill next) named index = false) :
    billedOf kind tables.bills index = 0 := by
  have parts := Bool.or_eq_false_iff.mp untouched
  have namesNone := List.any_eq_false.mp parts.1
  have othersNone := List.any_eq_false.mp parts.2
  apply billedOf_eq_zero
  intro other member posted
  obtain ⟨place, otherFound⟩ := List.mem_iff_getElem?.mp member
  rcases posted_withBill next found otherFound with ⟨_, rfl⟩ | stays
  · rw [List.any_eq_false]
    intro item itemMember
    exact namesNone item (names item itemMember)
  · have unnamed := othersNone other stays
    simp only [posted, decide_true, Bool.true_and, Bool.not_eq_true] at unnamed
    exact unnamed

/-- An order synced for a bill that names all its bill named before. -/
theorem sync_withBill (sound : Sound .SALES_ORDER tables) (found : tables.bills[bill]? = some row)
    (names : ∀ item ∈ row.items, item ∈ named) :
    syncOrderFulfilment (tables.withBill bill next) named tables.source =
      rederive .SALES_ORDER (tables.withBill bill next) tables.source :=
  sync_eq_rederive sound.rederived fun _ untouched => billedOf_unnamed found names untouched

/-- The last sync of an amended bill. -/
theorem Released.sound (sound : Sound .SALES_ORDER tables)
    (released : Released tables locks bill next source) (room : tables.Room .SALES_ORDER bill next) :
    Sound .SALES_ORDER ⟨syncOrderFulfilment (tables.withBill bill next) next.items source,
      tables.withBill bill next⟩ := by
  obtain ⟨items, _, row, found, _⟩ := released.onBill
  have again : rederive .SALES_ORDER (tables.withBill bill { next with sbStatus := .DRAFT }) source =
      source := by
    rw [released.source]
    exact rederive_rederive _ _ _
  have synced : syncOrderFulfilment (tables.withBill bill next) next.items source =
      rederive .SALES_ORDER (tables.withBill bill next) source := by
    apply sync_eq_rederive again
    intro index untouched
    apply billedOf_eq_zero
    intro other member posted
    have othersNone := List.any_eq_false.mp (Bool.or_eq_false_iff.mp untouched).2
    obtain ⟨place, otherFound⟩ := List.mem_iff_getElem?.mp member
    rcases Places.modify_cases otherFound with ⟨here, wasFound⟩ | ⟨_, _, _, rfl⟩
    · rw [← List.getElem?_modify_ne _ _ here] at wasFound
      have unnamed := othersNone other (List.mem_of_getElem? wasFound)
      simp only [posted, decide_true, Bool.true_and, Bool.not_eq_true] at unnamed
      exact unnamed
    · cases posted
  rw [synced]
  apply sound_rederive
  intro index line lineFound
  rw [released.source, getElem?_rederive] at lineFound
  obtain ⟨was, wasFound, rfl⟩ := Option.map_eq_some_iff.mp lineFound
  have net := sound.net was (List.mem_of_getElem? wasFound)
  rw [settle_qty, settle_returnedQty]
  exact ⟨settle_netQty net (sound.fits released.room wasFound), sound.fits room wasFound⟩

/-! ## Bills that take the same

A bill that no longer names the challan is committed without the challan being held. -/

/-- The bills take the same of every line of the same source. -/
structure TakeAlike (kind : SourceKind) (tables later : SourceTables) : Prop where
  source : later.source = tables.source
  takes : ∀ index < tables.source.lines.length,
    later.bills.map (SaleBill.takes kind index) = tables.bills.map (SaleBill.takes kind index)

theorem billedOf_congr
    (same : bills.map (SaleBill.takes kind index) = before.map (SaleBill.takes kind index)) :
    billedOf kind bills index = billedOf kind before index := by
  rw [billedOf, billedOf, same]

/-- A re-derivation reads the sums of the lines there are. -/
theorem rederive_congr
    (same : ∀ index < source.lines.length, billedOf kind bills index = billedOf kind before index) :
    rederive kind bills source = rederive kind before source := by
  have lines : (source.lines.mapIdx fun index line => line.settle kind (billedOf kind bills index)) =
      source.lines.mapIdx fun index line => line.settle kind (billedOf kind before index) := by
    apply List.ext_getElem?
    intro index
    rw [List.getElem?_mapIdx, List.getElem?_mapIdx]
    cases found : source.lines[index]? with
    | none => rfl
    | some line => rw [same index (List.getElem?_eq_some_iff.mp found).1]
  simp only [rederive, SourceDocument.settle, if_true, lines]

theorem TakeAlike.sound (alike : TakeAlike kind tables later) (sound : Sound kind tables) :
    Sound kind later where
  rederived := by
    rw [alike.source, rederive_congr fun index within => billedOf_congr (alike.takes index within)]
    exact sound.rederived
  within := by
    intro index line found
    rw [alike.source] at found
    rw [billedOf_congr (alike.takes index (List.getElem?_eq_some_iff.mp found).1)]
    exact sound.within index line found
  net := by
    rw [alike.source]
    exact sound.net

theorem TakeAlike.takesNow (alike : TakeAlike kind tables later)
    (within : index < tables.source.lines.length) (id : ℕ) :
    later.takesNow kind id index = tables.takesNow kind id index := by
  have same := congrArg (·[id]?) (alike.takes index within)
  simp only [List.getElem?_map] at same
  rw [SourceTables.takesNow, SourceTables.takesNow, same]

theorem takes_withBill (next : SaleBill) (index : ℕ) :
    (tables.withBill bill next).map (SaleBill.takes kind index) =
      (tables.bills.map (SaleBill.takes kind index)).modify bill fun _ => next.takes kind index := by
  apply List.ext_getElem?
  intro place
  rw [SourceTables.withBill, List.getElem?_map, List.getElem?_modify, List.getElem?_modify,
    List.getElem?_map]
  cases tables.bills[place]? with
  | none => rfl
  | some row => by_cases here : bill = place <;> simp [here]

theorem TakeAlike.billedOf_withBill (alike : TakeAlike kind tables later)
    (within : index < tables.source.lines.length) :
    billedOf kind (later.withBill bill next) index = billedOf kind (tables.withBill bill next) index := by
  apply billedOf_congr
  rw [takes_withBill, takes_withBill, alike.takes index within]

theorem TakeAlike.billedOfEach (alike : TakeAlike kind tables later) :
    billedOfEach kind later.source (later.withBill bill next) =
      billedOfEach kind tables.source (tables.withBill bill next) := by
  rw [alike.source]
  apply List.map_congr_left
  intro index member
  exact alike.billedOf_withBill (List.mem_range.mp member)

theorem TakeAlike.room (alike : TakeAlike kind tables later) (room : tables.Room kind bill next) :
    later.Room kind bill next := by
  intro entry member
  rw [alike.source] at member
  have within := (List.getElem?_eq_some_iff.mp (List.mem_zipIdx_iff_getElem?.mp member)).1
  rw [alike.takesNow within]
  rw [SourceTables.fits, alike.billedOf_withBill within]
  exact room entry member

/-- A bill that names nothing, and took nothing. -/
theorem takeAlike_withBill (names : next.names = false) (quiet : tables.drawsNow .DELIVERY_CHALLAN bill = false) :
    TakeAlike .DELIVERY_CHALLAN tables { tables with bills := tables.withBill bill next } where
  source := rfl
  takes := by
    intro index within
    have took : tables.takesNow .DELIVERY_CHALLAN bill index = 0 := by
      have none := List.any_eq_false.mp quiet index (List.mem_range.mpr within)
      simpa using none
    have takes : next.takes .DELIVERY_CHALLAN index = 0 := by
      have unnamed : ∀ item ∈ next.items, item.srcItem = false := by
        intro item member
        have none := List.any_eq_false.mp names item (List.mem_append_left _ member)
        simpa using none
      rw [SaleBill.takes]
      split
      · apply List.sum_eq_zero
        intro drawn member
        obtain ⟨item, itemMember, rfl⟩ := List.mem_map.mp member
        simp [SaleBillItem.drawn, unnamed item (List.mem_of_mem_filter itemMember)]
      · rfl
    rw [takes_withBill, takes]
    apply List.ext_getElem?
    intro place
    rw [List.getElem?_modify]
    by_cases here : bill = place
    · subst here
      rw [SourceTables.takesNow] at took
      rw [List.getElem?_map]
      cases found : tables.bills[bill]? with
      | none => rfl
      | some row =>
          rw [found] at took
          simpa using took.symm
    · cases (tables.bills.map (SaleBill.takes .DELIVERY_CHALLAN index))[place]? <;> simp [here]

/-! ## Statements -/

theorem OnBill.locked (onBill : OnBill tables locks bill items) :
    OnBill tables (key :: locks) bill items :=
  ⟨List.mem_cons_of_mem key onBill.1, onBill.2⟩

/-- A commit leaves one bill changed that was held.  The source was held too, or the bills
take of a challan what they took. -/
def Changed (kind : SourceKind) (tables later : SourceTables) (locks : List SourceLock) : Prop :=
  (SourceLock.source ∈ locks ∨ (kind = .DELIVERY_CHALLAN ∧ TakeAlike kind tables later)) ∧
    ∃ bill next, SourceLock.bill bill ∈ locks ∧ later.bills = tables.withBill bill next

/-- Each statement keeps what the next one relies on, and a commit leaves the source sound. -/
theorem bill_leads (sound : Sound kind tables) (relied : Relies kind tables locks task)
    (upToDate : UpToDate kind tables now task) :
    (billProgram kind tables now task).Leads locks (Relies kind tables) fun later =>
      Sound kind later ∧ Changed kind tables later locks := by
  cases task with
  | start bill verb => exact List.mem_cons_self
  | locked bill verb =>
      simp only [billProgram]
      split
      · trivial
      · next row found =>
          split
          · split
            · exact ⟨relied, fun _ => ⟨relied, row, found, rfl⟩⟩
            · trivial
          · split
            · split
              · exact ⟨relied, fun order => by cases order⟩
              · exact ⟨rfl, relied, row, found, rfl⟩
            · trivial
          · split
            · exact ⟨relied, fun _ => ⟨relied, row, found, rfl⟩⟩
            · trivial
  | guarding bill next =>
      simp only [billProgram]
      split
      · exact relied
      · trivial
  | checked bill next =>
      cases kind with
      | DELIVERY_CHALLAN =>
          simp only [billProgram]
          split
          · exact ⟨rfl, relied.1⟩
          · next unnamed =>
              have quiet := (upToDate.named bill next rfl rfl).resolve_left unnamed
              have alike : TakeAlike .DELIVERY_CHALLAN tables
                  { tables with bills := tables.withBill bill next } :=
                takeAlike_withBill (Bool.eq_false_iff.mpr unnamed) quiet
              exact ⟨alike.sound sound, Or.inr ⟨rfl, alike⟩, bill, next, relied.1, rfl⟩
      | SALES_ORDER => exact ⟨rfl, List.mem_cons_self, (relied.2 rfl).locked⟩
  | summed bill next billed =>
      exact ⟨relied.1, List.mem_cons_of_mem _ relied.2, List.mem_cons_self,
        upToDate.room bill next rfl, upToDate.summed bill next billed rfl⟩
  | derived bill next billed =>
      obtain ⟨challan, locked, held, room, rfl⟩ := relied
      subst challan
      refine ⟨?_, Or.inl held, bill, next, locked, rfl⟩
      have source : recomputeOne tables.source
          (billedOfEach .DELIVERY_CHALLAN tables.source (tables.withBill bill next)) = _ :=
        recomputeOne_eq_rederive
      rw [source]
      exact sound.rederive room
  | ordered bill next =>
      obtain ⟨order, held, locked, row, found, same⟩ := relied
      subst order
      refine ⟨?_, Or.inl held, bill, next, locked, rfl⟩
      have source : syncOrderFulfilment (tables.withBill bill next) next.items tables.source =
          rederive .SALES_ORDER (tables.withBill bill next) tables.source := by
        apply sync_withBill sound found
        intro item member
        exact same ▸ member
      rw [source]
      exact sound.rederive (upToDate.room bill next rfl)
  | amending bill next prior => exact ⟨relied.1, List.mem_cons_self, relied.2.locked⟩
  | released bill next prior =>
      obtain ⟨order, held, onBill⟩ := relied
      subst order
      obtain ⟨locked, row, found, same⟩ := onBill
      refine ⟨rfl, held, ⟨prior, locked, row, found, same⟩, upToDate.room bill _ rfl, ?_⟩
      apply sync_withBill sound found
      intro item member
      rw [same] at member
      exact List.mem_append_left _ member
  | guardingOwn bill next source =>
      simp only [billProgram]
      split
      · exact relied
      · trivial
  | synced bill next source =>
      obtain ⟨order, released⟩ := relied
      subst order
      obtain ⟨_, locked, _⟩ := released.onBill
      exact ⟨released.sound sound (upToDate.room bill next rfl), Or.inl released.held, bill, next,
        locked, rfl⟩

/-- A bill's lines stay under its header's lock. -/
theorem OnBill.withBill {other : ℕ} (onBill : OnBill tables held other items)
    (bills : later.bills = tables.withBill bill next) (apart : bill ≠ other) :
    OnBill later held other items := by
  obtain ⟨locked, row, found, same⟩ := onBill
  refine ⟨locked, row, ?_, same⟩
  rw [bills, SourceTables.withBill, List.getElem?_modify_ne _ _ apart]
  exact found

theorem relies_others {other : BillTask} (changed : Changed kind tables later locks)
    (disjoint : locks.Disjoint held) (theirs : Relies kind tables held other) :
    Relies kind later held other := by
  obtain ⟨source, bill, next, locked, bills⟩ := changed
  -- Who holds the source meets only commits that leave a challan's sums alone.
  have alike (own : SourceLock.source ∈ held) : kind = .DELIVERY_CHALLAN ∧ TakeAlike kind tables later :=
    source.resolve_left fun taken => disjoint taken own
  have order (own : SourceLock.source ∈ held) (ordered : kind = .SALES_ORDER) : False := by
    rw [(alike own).1] at ordered
    cases ordered
  have apart {id : ℕ} (own : SourceLock.bill id ∈ held) : bill ≠ id := by
    rintro rfl
    exact disjoint locked own
  cases other with
  | guarding id left | checked id left =>
      exact ⟨theirs.1, fun order => (theirs.2 order).withBill bills (apart theirs.1)⟩
  | amending id left prior => exact ⟨theirs.1, theirs.2.withBill bills (apart theirs.2.1)⟩
  | derived id left billed =>
      obtain ⟨challan, own, taken, room, sums⟩ := theirs
      have same := (alike taken).2
      exact ⟨challan, own, taken, same.room room, sums.trans same.billedOfEach.symm⟩
  | ordered id left => exact (order theirs.2.1 theirs.1).elim
  | released id left prior => exact (order theirs.2.1 theirs.1).elim
  | guardingOwn id left own => exact (order theirs.2.held theirs.1).elim
  | synced id left own => exact (order theirs.2.held theirs.1).elim
  | start id verb => trivial
  | locked id verb => exact theirs
  | summed id left billed => exact theirs

theorem bill_keeps (kind : SourceKind) :
    Keeps (billProgram kind) (UpToDate kind) (Sound kind) (Relies kind) :=
  keeps_of_leads bill_leads fun _ => relies_others

end Keeping

/-! ## Every run -/

theorem billedOf_drafts (kind : SourceKind) (drafts : List (List SaleBillItem)) (index : ℕ) :
    billedOf kind (drafts.map fun items => { sbStatus := .DRAFT, items }) index = 0 := by
  apply billedOf_eq_zero
  intro bill member posted
  obtain ⟨items, _, rfl⟩ := List.mem_map.mp member
  cases posted

/-- A source nothing is billed of is sound. -/
theorem sound_sourceTables (kind : SourceKind) (status : SourceStatus) (lines : List OpenLine)
    (drafts : List (List SaleBillItem)) : Sound kind (sourceTables kind status lines drafts) := by
  have none : ∀ source, rederive kind (drafts.map fun items => { sbStatus := .DRAFT, items }) source =
      rederive kind [] source := by
    intro source
    have sums : billedOf kind (drafts.map fun items => { sbStatus := .DRAFT, items }) =
        billedOf kind [] := by
      funext index
      exact billedOf_drafts kind drafts index
    rw [rederive, rederive, sums]
  rw [sourceTables, ← none]
  apply sound_rederive
  intro index line found
  rw [billedOf_drafts]
  rw [List.getElem?_map] at found
  obtain ⟨opened, _, rfl⟩ := Option.map_eq_some_iff.mp found
  exact ⟨rfl, by simpa using opened.within⟩

/-- As long as what was summed is still committed when the source is held, and the source
has room, every state reached is as a re-derivation gives it and nothing is over-taken. -/
theorem source_fulfilled (kind : SourceKind) (status : SourceStatus) (lines : List OpenLine)
    (drafts : List (List SaleBillItem)) (transactions : List (ℕ × BillVerb))
    (server : Server SourceTables BillTask SourceLock)
    (reached : Reaches (billProgram kind) (UpToDate kind)
      (billServer (sourceTables kind status lines drafts) transactions) server) :
    Fulfilled kind server.database := by
  have start : (billServer (sourceTables kind status lines drafts) transactions).Ok (Sound kind)
      (Relies kind) := by
    apply Server.ok_of_tasks
    · exact sound_sourceTables kind status lines drafts
    · intro task member
      obtain ⟨entry, _, rfl⟩ := List.mem_map.mp member
      trivial
  exact (reached.ok (bill_keeps kind) start).database.toFulfilled

/-- A challan line of ten, and bills of six, four and ten. -/
def challanLines : List OpenLine := [⟨10000, 0, by decide⟩]

def challanBills : List (List SaleBillItem) :=
  [[⟨0, true, 6000, 6000⟩], [⟨0, true, 4000, 4000⟩], [⟨0, true, 10000, 10000⟩]]

def challanOfTen : SourceTables := sourceTables .DELIVERY_CHALLAN .POSTED challanLines challanBills

def steps (transaction count : ℕ) : List (Action Unit) :=
  List.replicate count (.advance transaction ())

/-- Two bills posted, the second amended while the first is cancelled. -/
def challanWeek : List (ℕ × BillVerb) :=
  [(0, .post), (1, .post), (0, .cancel), (1, .amend [⟨0, true, 2000, 2000⟩] [])]

theorem challanWeek_fulfilled :
    ∃ server, runAllowed (billProgram .DELIVERY_CHALLAN) (UpToDate .DELIVERY_CHALLAN)
        (billServer challanOfTen challanWeek)
        (steps 0 4 ++ steps 1 3 ++ steps 0 2 ++ steps 1 3 ++ steps 3 2 ++ steps 2 5 ++ steps 3 4) =
          some server ∧
      Fulfilled .DELIVERY_CHALLAN server.database := by
  have runs : (runAllowed (billProgram .DELIVERY_CHALLAN) (UpToDate .DELIVERY_CHALLAN)
      (billServer challanOfTen challanWeek)
      (steps 0 4 ++ steps 1 3 ++ steps 0 2 ++ steps 1 3 ++ steps 3 2 ++ steps 2 5 ++
        steps 3 4)).isSome = true := by
    decide +kernel
  obtain ⟨server, moved⟩ := Option.isSome_iff_exists.mp runs
  exact ⟨server, moved, source_fulfilled .DELIVERY_CHALLAN .POSTED challanLines challanBills challanWeek
    server (reaches_of_runAllowed _ _ .start moved)⟩

/-- Bills of six and of ten both find the line open: sixteen are billed of ten. -/
theorem line_overtaken :
    ¬∀ (kind : SourceKind) (status : SourceStatus) (lines : List OpenLine)
      (drafts : List (List SaleBillItem)) (transactions : List (ℕ × BillVerb))
      (schedule : List (Action Unit)) (server : Server SourceTables BillTask SourceLock),
      runSchedule (billProgram kind) (billServer (sourceTables kind status lines drafts) transactions)
        schedule = some server →
      Fulfilled kind server.database := by
  intro always
  have runs : (runSchedule (billProgram .DELIVERY_CHALLAN)
      (billServer challanOfTen [(0, .post), (2, .post)])
      (steps 0 3 ++ steps 1 3 ++ steps 0 3 ++ steps 1 3)).any (fun server =>
        server.database.source.lines[0]?.any fun line =>
          line.qty < billedOf .DELIVERY_CHALLAN server.database.bills 0 + line.returnedQty) = true := by
    decide +kernel
  obtain ⟨server, moved, runs⟩ := (Option.any_eq_true _ _).mp runs
  have fulfilled := always .DELIVERY_CHALLAN .POSTED challanLines challanBills _ _ server moved
  obtain ⟨line, found, runs⟩ := (Option.any_eq_true _ _).mp runs
  rw [decide_eq_true_eq] at runs
  exact absurd (fulfilled.within 0 line found) (not_le.mpr runs)

/-- The statement that waited for the challan's line writes a sum taken before. -/
example : (runSchedule (billProgram .DELIVERY_CHALLAN) (billServer challanOfTen [(0, .post), (1, .post)])
    (steps 0 4 ++ steps 1 4 ++ steps 0 2 ++ steps 1 2)).map (fun server =>
      (server.database.source.lines.map (·.billedQty),
        billedOf .DELIVERY_CHALLAN server.database.bills 0)) = some ([4000], 10000) := by
  decide +kernel

end ErpServer.Sales
