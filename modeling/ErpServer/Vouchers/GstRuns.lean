import ErpServer.Vouchers.VoucherLegs

/-!
# The ledgers of the GST band

Every component of every taxed line is added to the leg of its ledger and side.  Counted by
side the legs come to what was due on it; counted by role they do where no two roles share a
ledger, a leg keeping the first role posted to it.
-/

namespace ErpServer.Vouchers

open Lib
open Receipt (Decimal DrCr Figure money money_mem money_of_mem paise)

variable {cases : Text.CaseMapping} {input : DeriveInput} {head : GstHead}

/-! ## What is due -/

/-- A role a line's component is due under, on its side. -/
def Due (head : GstHead) (side : DrCr) (role : VoucherRole) : Prop :=
  (side = head.taxSide ∧ ∃ component, role = taxRole head.side component) ∨
    (side = head.partySide ∧ ∃ component, role = .RCM_PAYABLE component)

variable {tax : GstAmounts} {posting : GstPosting} {lineRowNo : ℕ}

theorem lineDues_due (member : posting ∈ lineDues head tax) :
    Due head posting.side posting.role := by
  rw [lineDues, List.mem_append] at member
  cases member with
  | inl forward =>
      obtain ⟨component, _, rfl⟩ := List.mem_map.mp forward
      exact Or.inl ⟨rfl, component, rfl⟩
  | inr reverse =>
      split at reverse
      · obtain ⟨component, _, rfl⟩ := List.mem_map.mp reverse
        exact Or.inr ⟨rfl, component, rfl⟩
      · cases reverse

/-- A component due is one of the tax. -/
theorem lineDues_amount (member : posting ∈ lineDues head tax) :
    ∃ component, posting.amount = tax.get component := by
  rw [lineDues, List.mem_append] at member
  cases member with
  | inl forward =>
      obtain ⟨component, _, rfl⟩ := List.mem_map.mp forward
      exact ⟨component, rfl⟩
  | inr reverse =>
      split at reverse
      · obtain ⟨component, _, rfl⟩ := List.mem_map.mp reverse
        exact ⟨component, rfl⟩
      · cases reverse

/-- A way to count legs by their side and role. -/
abbrev Count := DrCr → VoucherRole → Bool

/-- What the legs that count come to. -/
def countedTotal (counts : Count) (byLedger : OrderedMap (Uuid × DrCr) GstEntry) : Decimal :=
  (byLedger.entries.map fun entry =>
    if counts entry.1.2 entry.2.role then entry.2.amount else 0).sum

def countedDues (counts : Count) (postings : List GstPosting) : Decimal :=
  (postings.map fun posting =>
    if counts posting.side posting.role then posting.amount else 0).sum

/-- Roles due on one side that share a ledger count alike. -/
def Fair (input : DeriveInput) (head : GstHead) (counts : Count) : Prop :=
  ∀ side first second firstTax secondTax firstLedger secondLedger,
    Due head side first → Due head side second →
      roleLedger input head.supplyNature first firstTax = some firstLedger →
      roleLedger input head.supplyNature second secondTax = some secondLedger →
      firstLedger.ledgerId = secondLedger.ledgerId → counts side first = counts side second

/-- Every leg is of a role due on its side, at a ledger of that role, for an exact amount above
zero. -/
def Books (input : DeriveInput) (head : GstHead)
    (byLedger : OrderedMap (Uuid × DrCr) GstEntry) : Prop :=
  ∀ entry ∈ byLedger.entries, Due head entry.1.2 entry.2.role ∧
    (entry.2.amount ∈ paise ∧ 0 < entry.2.amount) ∧
    ∃ taxId ledger, roleLedger input head.supplyNature entry.2.role taxId = some ledger ∧
      ledger.ledgerId = entry.1.1

/-! ## One posting -/

section Posting

variable {byLedger : OrderedMap (Uuid × DrCr) GstEntry} {ledger : ResolvedRoleLedger}
variable {posting : GstPosting} {taxId : Uuid} {lineRowNo : ℕ}

variable {counts : Count}

theorem addEntry_counted (agrees : ∀ current,
      byLedger.get? (ledger.ledgerId, posting.side) = some current →
        counts posting.side current.role = counts posting.side posting.role) :
    countedTotal counts (addEntry byLedger ledger posting lineRowNo) =
      countedTotal counts byLedger +
        if counts posting.side posting.role then posting.amount else 0 := by
  rw [addEntry]
  cases found : byLedger.get? (ledger.ledgerId, posting.side) with
  | none =>
      apply OrderedMap.sum_set fun (key : Uuid × DrCr) (entry : GstEntry) =>
        if counts key.2 entry.role then entry.amount else 0
      rw [found, Option.elim_none, zero_add]
  | some current =>
      apply OrderedMap.sum_set fun (key : Uuid × DrCr) (entry : GstEntry) =>
        if counts key.2 entry.role then entry.amount else 0
      rw [found, Option.elim_some]
      simp only [agrees current found]
      split
      · rfl
      · exact (add_zero _).symm

theorem addEntry_books (books : Books input head byLedger)
    (due : Due head posting.side posting.role)
    (exact : posting.amount ∈ paise ∧ 0 < posting.amount)
    (mapped : roleLedger input head.supplyNature posting.role taxId = some ledger) :
    Books input head (addEntry byLedger ledger posting lineRowNo) := by
  intro entry member
  rw [addEntry] at member
  cases found : byLedger.get? (ledger.ledgerId, posting.side) with
  | none =>
      rw [found] at member
      cases OrderedMap.mem_entries_set member with
      | inl new =>
          rw [new]
          exact ⟨due, exact, taxId, ledger, mapped, rfl⟩
      | inr old => exact books entry old
  | some current =>
      rw [found] at member
      have before := books _ (OrderedMap.mem_of_get? found)
      cases OrderedMap.mem_entries_set member with
      | inl new =>
          rw [new]
          exact ⟨before.1, ⟨add_mem before.2.1.1 exact.1, add_pos before.2.1.2 exact.2⟩,
            before.2.2⟩
      | inr old => exact books entry old

/-- Legs of one ledger and side count alike. -/
theorem Books.agrees (books : Books input head byLedger) (fair : Fair input head counts)
    (due : Due head posting.side posting.role)
    (mapped : roleLedger input head.supplyNature posting.role taxId = some ledger)
    {current : GstEntry} (found : byLedger.get? (ledger.ledgerId, posting.side) = some current) :
    counts posting.side current.role = counts posting.side posting.role := by
  obtain ⟨currentDue, _, currentTax, currentLedger, currentMapped, same⟩ :=
    books _ (OrderedMap.mem_of_get? found)
  exact fair _ _ _ _ _ _ _ currentDue due currentMapped mapped same

end Posting

/-! ## The postings of a line -/

/-- What postings that refuse nothing leave. -/
structure Posts (input : DeriveInput) (head : GstHead) (before : GstPosted)
    (postings : List GstPosting) (after : GstPosted) : Prop where
  unmapped : after.unmapped = []
  notes : after.notes = before.notes
  books : Books input head after.byLedger
  counted : ∀ counts, Fair input head counts → countedTotal counts after.byLedger =
    countedTotal counts before.byLedger + countedDues counts postings

theorem postGst_notes (posted : GstPosted) (posting : GstPosting) (taxId : Uuid) (lineRowNo : ℕ) :
    ∃ more, (postGst input head.supplyNature taxId lineRowNo posted posting).notes =
      posted.notes ++ more := by
  rw [postGst]
  split
  · exact ⟨[], (List.append_nil _).symm⟩
  · split
    · split
      · exact ⟨[], (List.append_nil _).symm⟩
      · exact ⟨_, rfl⟩
    · exact ⟨[], (List.append_nil _).symm⟩

variable {posted : GstPosted} {taxId : Uuid}

/-- One posting, unless it is refused. -/
theorem postGst_posts (unmapped : posted.unmapped = []) (books : Books input head posted.byLedger)
    (due : Due head posting.side posting.role) (figure : Figure posting.amount)
    (clean : (postGst input head.supplyNature taxId lineRowNo posted posting).notes = []) :
    Posts input head posted [posting]
      (postGst input head.supplyNature taxId lineRowNo posted posting) := by
  rw [postGst] at clean ⊢
  by_cases nothing : posting.amount = 0
  · rw [if_pos nothing]
    refine ⟨unmapped, rfl, books, ?_⟩
    intro counts _
    simp [countedDues, nothing]
  · rw [if_neg nothing] at clean ⊢
    cases mapped : roleLedger input head.supplyNature posting.role taxId with
    | none =>
        rw [mapped] at clean
        simp [unmapped] at clean
    | some ledger =>
        have positive : 0 < posting.amount := figure.nonneg.lt_of_ne (Ne.symm nothing)
        refine ⟨unmapped, rfl, addEntry_books books due ⟨figure.exact, positive⟩ mapped, ?_⟩
        intro counts fair
        rw [countedDues, List.map_singleton, List.sum_singleton]
        exact addEntry_counted fun current found => books.agrees fair due mapped found

theorem postAll_posts (postings : List GstPosting) (unmapped : posted.unmapped = [])
    (books : Books input head posted.byLedger)
    (due : ∀ posting ∈ postings, Due head posting.side posting.role)
    (figures : ∀ posting ∈ postings, Figure posting.amount)
    (clean : (postings.foldl (postGst input head.supplyNature taxId lineRowNo) posted).notes = []) :
    Posts input head posted postings
      (postings.foldl (postGst input head.supplyNature taxId lineRowNo) posted) := by
  induction postings using List.reverseRecOn with
  | nil => exact ⟨unmapped, rfl, books, fun _ _ => (add_zero _).symm⟩
  | append_singleton earlier posting ih =>
      rw [List.foldl_append, List.foldl_cons, List.foldl_nil] at clean ⊢
      obtain ⟨more, notes⟩ := @postGst_notes input head
        (earlier.foldl (postGst input head.supplyNature taxId lineRowNo) posted) posting taxId
        lineRowNo
      have cleanBefore := clean
      rw [notes] at cleanBefore
      have before := ih (fun posting member => due posting (List.mem_append_left _ member))
        (fun posting member => figures posting (List.mem_append_left _ member))
        (List.append_eq_nil_iff.mp cleanBefore).1
      have here := postGst_posts before.unmapped before.books
        (due posting (List.mem_append_right _ List.mem_cons_self))
        (figures posting (List.mem_append_right _ List.mem_cons_self)) clean
      refine ⟨here.unmapped, here.notes.trans before.notes, here.books, ?_⟩
      intro counts fair
      rw [here.counted counts fair, before.counted counts fair, countedDues, countedDues,
        countedDues, List.map_append, List.sum_append]
      ring

/-! ## The taxed lines -/

/-- A taxed line is of its leg's amount at its rate. -/
structure TaxedAs (input : DeriveInput) (head : GstHead) (entry : TypedLeg × LineGstInput)
    (line : InternalGstLine) : Prop where
  lineRowNo : line.lineRowNo = entry.1.lineRowNo
  taxable : line.taxable = entry.1.amount
  rate : input.taxRates entry.2.taxId = some line.rate
  tax : line.tax = taxOf head.supplyNature line.rate line.taxable

/-- The run over these taxed legs. -/
structure Taxing (input : DeriveInput) (head : GstHead) (done : List (TypedLeg × LineGstInput))
    (run : GstRun) : Prop where
  unmapped : run.posted.unmapped = []
  books : Books input head run.posted.byLedger
  lines : List.Forall₂ (TaxedAs input head) done run.lines
  taxable : run.taxable = (run.lines.map (·.taxable)).sum
  tax : ∀ component, run.tax.get component = (run.lines.map fun line => line.tax.get component).sum
  counted : ∀ counts, Fair input head counts → countedTotal counts run.posted.byLedger =
    (run.lines.map fun line => countedDues counts (lineDues head line.tax)).sum
  cess : head.reverseCharge = true → ∀ line ∈ run.lines, line.tax.cess = 0

theorem GstAmounts.get_plus (left right : GstAmounts) (component : GstComponent) :
    (left.plus right).get component = left.get component + right.get component := by
  cases component with
  | CGST => rfl
  | SGST => rfl
  | IGST => rfl
  | CESS => rfl

theorem cessNotes_nil (none : cessNotes head lineRowNo tax = [])
    (reverse : head.reverseCharge = true) : tax.cess = 0 := by
  rw [cessNotes] at none
  split at none
  · cases none
  · next allowed =>
      by_contra some
      exact allowed ⟨reverse, some⟩

/-- What is refused before a line stays refused. -/
theorem taxLine_notes (run : GstRun) (entry : TypedLeg × LineGstInput) :
    ∃ more, (taxLine cases input head run entry).posted.notes = run.posted.notes ++ more := by
  rw [taxLine]
  split
  · exact ⟨_, rfl⟩
  · next rate _ =>
      have fold : ∀ (postings : List GstPosting) (posted : GstPosted), ∃ more,
          (postings.foldl (postGst input head.supplyNature entry.2.taxId entry.1.lineRowNo)
            posted).notes = posted.notes ++ more := by
        intro postings posted
        induction postings using List.reverseRecOn with
        | nil => exact ⟨[], (List.append_nil _).symm⟩
        | append_singleton earlier posting ih =>
            obtain ⟨more, notes⟩ := ih
            rw [List.foldl_append, List.foldl_cons, List.foldl_nil]
            obtain ⟨here, added⟩ := @postGst_notes input head
              (earlier.foldl (postGst input head.supplyNature entry.2.taxId entry.1.lineRowNo)
                posted) posting entry.2.taxId entry.1.lineRowNo
            exact ⟨more ++ here, by rw [added, notes, List.append_assoc]⟩
      obtain ⟨more, notes⟩ := fold
        (lineDues head (taxOf head.supplyNature rate entry.1.amount)) run.posted
      simp only [notes, List.append_assoc]
      exact ⟨_, rfl⟩

theorem Taxing.take {done : List (TypedLeg × LineGstInput)} {run : GstRun}
    {entry : TypedLeg × LineGstInput} (held : Taxing input head done run)
    (nonneg : 0 ≤ entry.1.amount)
    (clean : (taxLine cases input head run entry).posted.notes = []) :
    Taxing input head (done ++ [entry]) (taxLine cases input head run entry) := by
  rw [taxLine] at clean ⊢
  cases found : (input.taxRates entry.2.taxId).filter (·.isActive) with
  | none =>
      simp only [found] at clean
      exact absurd (List.append_eq_nil_iff.mp clean).2 (List.cons_ne_nil _ _)
  | some rate =>
      simp only [found] at clean ⊢
      obtain ⟨posted, noCess⟩ := List.append_eq_nil_iff.mp clean
      have figures := fun component =>
        @taxOf_figures head.supplyNature rate entry.1.amount nonneg component
      have posts := postAll_posts (lineDues head (taxOf head.supplyNature rate entry.1.amount))
        held.unmapped held.books (fun posting member => lineDues_due member)
        (by
          intro posting member
          obtain ⟨component, amount⟩ := lineDues_amount member
          rw [amount]
          exact figures component) posted
      have rated := (Option.filter_eq_some_iff.mp found).1
      constructor
      · exact posts.unmapped
      · exact posts.books
      · exact List.rel_append held.lines (.cons ⟨rfl, rfl, rated, rfl⟩ .nil)
      · rw [List.map_append, List.sum_append, held.taxable, List.map_singleton, List.sum_singleton]
        rfl
      · intro component
        rw [List.map_append, List.sum_append, GstAmounts.get_plus, held.tax, List.map_singleton,
          List.sum_singleton]
        rfl
      · intro counts fair
        rw [posts.counted counts fair, held.counted counts fair, List.map_append, List.sum_append,
          List.map_singleton, List.sum_singleton]
        rfl
      · intro reverse line member
        rw [List.mem_append, List.mem_singleton] at member
        cases member with
        | inl earlier => exact held.cess reverse line earlier
        | inr new =>
            rw [new]
            exact cessNotes_nil noCess reverse

theorem runGst_taxing {entries : List (TypedLeg × LineGstInput)}
    (nonneg : ∀ entry ∈ entries, 0 ≤ entry.1.amount)
    (clean : (runGst cases input head entries).posted.notes = []) :
    Taxing input head entries (runGst cases input head entries) := by
  rw [runGst] at clean ⊢
  induction entries using List.reverseRecOn with
  | nil =>
      refine ⟨rfl, ?_, .nil, rfl, ?_, fun _ _ => rfl, ?_⟩
      · intro entry member
        cases member
      · intro component
        cases component with
        | CGST => rfl
        | SGST => rfl
        | IGST => rfl
        | CESS => rfl
      · intro _ line member
        cases member
  | append_singleton earlier entry ih =>
      rw [List.foldl_append, List.foldl_cons, List.foldl_nil] at clean ⊢
      obtain ⟨more, notes⟩ := @taxLine_notes cases input head
        (earlier.foldl (taxLine cases input head) ⟨⟨.empty, [], []⟩, [], 0, .zero⟩) entry
      have before := clean
      rw [notes] at before
      have start := (List.append_eq_nil_iff.mp before).1
      have held := ih (fun entry member => nonneg entry (List.mem_append_left _ member)) start
      exact held.take (nonneg entry (List.mem_append_right _ List.mem_cons_self)) clean

end ErpServer.Vouchers
