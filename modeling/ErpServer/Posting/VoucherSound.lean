import ErpServer.Posting.VoucherPosting

/-!
# What the postings keep

What each write of the routine does to the headers and the legs, and what the tables keep
through all of them: keys of their own, legs that belong to a header, posted vouchers that
balance, and one live voucher for a source document.
-/

namespace ErpServer.Posting

open Lib
open Receipt (Decimal DrCr)

variable {tables after : PostingTables} {facts : PostingFacts} {doc : VoucherLegSource}

/-- What the columns of a leg demand: an amount, another ledger opposite, and a document with
its year. -/
structure LegEntry.WellFormed (entry : LegEntry) : Prop where
  positive : 0 < entry.amount
  apart : entry.key.oppLedgerId ≠ some entry.key.ledgerId
  paired : entry.key.docId.isSome = entry.key.docAccYear.isSome

/-- None of the unique indexes takes the two for one. -/
structure Admits (held new : VoucherHeader) : Prop where
  number : ¬(held.status ≠ .DRAFT ∧ new.status ≠ .DRAFT ∧ held.branchId = new.branchId ∧
    held.voucherTypeId = new.voucherTypeId ∧ held.voucherNo = new.voucherNo ∧
    new.voucherNo.isSome)
  slno : ¬(held.status ≠ .DRAFT ∧ new.status ≠ .DRAFT ∧ held.voucherSlno = new.voucherSlno ∧
    new.voucherSlno.isSome)
  source : ¬(held.status ≠ .CANCELLED ∧ new.status ≠ .CANCELLED ∧ held.source = new.source ∧
    new.source.isSome)
  refno : ¬(held.status ≠ .CANCELLED ∧ new.status ≠ .CANCELLED ∧ held.partyId = new.partyId ∧
    new.partyId.isSome ∧ held.voucherTypeId = new.voucherTypeId ∧
    held.docRefno = new.docRefno ∧ new.docRefno.isSome)

variable {held new : VoucherHeader} {ledgers : List Uuid} {legs : List VoucherLeg}
variable {voucherId : Uuid} {number : VoucherNumber} {result : VoucherPostingResult}

theorem clash_eq_none : held.clash new = none ↔
    (held.isDeleted = false → new.isDeleted = false → held.companyId = new.companyId →
      held.accYear = new.accYear → Admits held new) := by
  rw [VoucherHeader.clash]
  split
  · next apart =>
      refine ⟨fun _ live newLive company year => ?_, fun _ => rfl⟩
      simp [live, newLive, company, year] at apart
  · next together =>
      simp only [Bool.or_eq_true, decide_eq_true_eq, not_or, Bool.not_eq_true, not_not] at together
      constructor
      · intro clear _ _ _ _
        split at clear
        · cases clear
        · next number =>
            split at clear
            · cases clear
            · next slno =>
                split at clear
                · cases clear
                · next source =>
                    split at clear
                    · cases clear
                    · next refno => exact ⟨number, slno, source, refno⟩
      · intro admits
        obtain ⟨number, slno, source, refno⟩ :=
          admits together.1.1.1 together.1.1.2 together.1.2 together.2
        rw [if_neg number, if_neg slno, if_neg source, if_neg refno]

theorem Admits.symm (admits : Admits held new) : Admits new held := by
  constructor
  · rintro ⟨stands, other, branch, type, same, given⟩
    exact admits.number ⟨other, stands, branch.symm, type.symm, same.symm, same ▸ given⟩
  · rintro ⟨stands, other, same, given⟩
    exact admits.slno ⟨other, stands, same.symm, same ▸ given⟩
  · rintro ⟨stands, other, same, given⟩
    exact admits.source ⟨other, stands, same.symm, same ▸ given⟩
  · rintro ⟨stands, other, party, ofParty, type, same, given⟩
    exact admits.refno ⟨other, stands, party.symm, party ▸ ofParty, type.symm, same.symm,
      same ▸ given⟩

theorem clash_comm (clear : held.clash new = none) : new.clash held = none := by
  rw [clash_eq_none] at clear ⊢
  exact fun live heldLive company year => (clear heldLive live company.symm year.symm).symm

/-- Two live headers of one source document clash. -/
theorem source_taken (clear : held.clash new = none) (heldLive : held.isDeleted = false)
    (newLive : new.isDeleted = false) (heldStands : held.status ≠ .CANCELLED)
    (newStands : new.status ≠ .CANCELLED) (company : held.companyId = new.companyId)
    (year : held.accYear = new.accYear) (source : held.source = new.source) :
    new.source = none := by
  have admits := clash_eq_none.mp clear heldLive newLive company year
  by_contra sourced
  exact admits.source ⟨heldStands, newStands, source, Option.isSome_iff_ne_none.mpr sourced⟩

/-! ## Headers by their key -/

namespace PostingTables

variable {header new : VoucherHeader}

variable {key : VoucherKey} {rows : List VoucherRow}

theorem header?_mem (found : tables.header? key = some header) :
    header ∈ tables.headers ∧ header.key = key ∧ header.isDeleted = false := by
  have listed := List.mem_of_find?_eq_some found
  have fits := List.find?_some found
  rw [Bool.and_eq_true, decide_eq_true_eq, Bool.not_eq_true'] at fits
  exact ⟨listed, fits⟩

theorem fresh_ne (tables : PostingTables) (listed : header ∈ tables.headers) :
    header.voucherId ≠ tables.freshVoucherId := by
  have within := List.single_le_sum (fun _ _ => Nat.zero_le _) header.voucherId
    (List.mem_map_of_mem listed)
  exact Nat.ne_of_lt (Nat.lt_succ_of_le within)

/-! ## One write -/

theorem insertHeader_ok (ok : tables.insertHeader new = .ok after) :
    after = { tables with headers := tables.headers ++ [new] } ∧
      ∀ held ∈ tables.headers, held.clash new = none := by
  rw [insertHeader] at ok
  split at ok
  · cases ok
  · next admitted =>
      cases ok
      exact ⟨rfl, List.findSome?_eq_none_iff.mp admitted⟩

theorem checkBalanced_ok {done : Unit} (ok : tables.checkBalanced new = .ok done)
    (posted : new.status = .POSTED) : entryReading.Balanced (tables.entries new.key) := by
  rw [checkBalanced] at ok
  split at ok
  · cases ok
  · next holds =>
      by_contra unbalanced
      exact holds ⟨posted, unbalanced⟩

/-- A header written over the one of its key. -/
def written (tables : PostingTables) (new : VoucherHeader) : List VoucherHeader :=
  tables.headers.map fun held => if held.key = new.key then new else held

/-- What a header written over another leaves. -/
structure Updates (tables : PostingTables) (new : VoucherHeader) (after : PostingTables) :
    Prop where
  result : after = { tables with headers := tables.written new }
  admitted : ∀ held ∈ tables.headers, held.key ≠ new.key → held.clash new = none
  balanced : new.status = .POSTED → entryReading.Balanced (tables.entries new.key)

theorem updateHeader_ok (ok : tables.updateHeader new = .ok after) : Updates tables new after := by
  rw [updateHeader] at ok
  split at ok
  · cases ok
  · next admitted =>
      obtain ⟨done, checked, ok⟩ := Fold.bind_eq_ok ok
      cases ok
      refine ⟨rfl, ?_, checkBalanced_ok checked⟩
      intro held listed other
      exact List.findSome?_eq_none_iff.mp admitted held
        (List.mem_filter.mpr ⟨listed, decide_eq_true other⟩)

theorem rowClash_eq_none {row : VoucherRow} (clear : tables.rowClash row = none) :
    row.entry.WellFormed := by
  rw [rowClash] at clear
  split at clear
  · cases clear
  · next positive =>
      split at clear
      · cases clear
      · next apart =>
          split at clear
          · cases clear
          · next paired => exact ⟨not_le.mp positive, apart, not_not.mp paired⟩

theorem insertRows_ok (ok : tables.insertRows header rows = .ok after) :
    after = { tables with rows := tables.rows ++ rows } ∧
      (∀ row ∈ rows, row.entry.WellFormed) ∧
      (header.status = .POSTED → entryReading.Balanced (after.entries header.key)) := by
  rw [insertRows] at ok
  split at ok
  · cases ok
  · next clear =>
      obtain ⟨done, checked, ok⟩ := Fold.bind_eq_ok ok
      cases ok
      refine ⟨rfl, ?_, checkBalanced_ok checked⟩
      intro row listed
      exact rowClash_eq_none (List.findSome?_eq_none_iff.mp clear row listed)

/-! ## Legs by their voucher -/

/-- Live legs of one voucher, added to the others. -/
theorem entries_append (ofKey : ∀ row ∈ rows, row.voucherKey = key ∧ row.isDeleted = false)
    (other : VoucherKey) (headers : List VoucherHeader) (tenders : List TenderDetail) :
    entries ⟨headers, tables.rows ++ rows, tenders⟩ other =
      tables.entries other ++ if other = key then rows.map (·.entry) else [] := by
  rw [entries, liveRows, List.filter_append, List.map_append, entries, liveRows]
  congr 1
  split
  · next same =>
      rw [List.filter_eq_self.mpr]
      intro row listed
      rw [(ofKey row listed).1, (ofKey row listed).2, same]
      simp
  · next different =>
      rw [List.map_eq_nil_iff, List.filter_eq_nil_iff]
      intro row listed
      rw [(ofKey row listed).1]
      simp [Ne.symm different]

/-- The legs of a voucher retired, and no others. -/
theorem entries_retire (key other : VoucherKey) (headers : List VoucherHeader)
    (tenders : List TenderDetail) :
    entries ⟨headers, tables.rows.map fun row =>
        if row.voucherKey = key ∧ row.isDeleted = false then { row with isDeleted := true }
        else row, tenders⟩ other =
      if other = key then [] else tables.entries other := by
  rw [entries, liveRows, entries, liveRows, List.filter_map, List.map_map]
  split
  · next same =>
      rw [List.map_eq_nil_iff, List.filter_eq_nil_iff]
      intro row _
      rw [same, Function.comp_apply]
      split
      · simp
      · next kept =>
          rw [Bool.and_eq_true, decide_eq_true_eq, Bool.not_eq_true']
          exact kept
  · next different =>
      have keeps : ∀ row : VoucherRow, ((fun row => decide (row.voucherKey = other) &&
          !row.isDeleted) ∘ fun row => if row.voucherKey = key ∧ row.isDeleted = false then
            { row with isDeleted := true } else row) row =
          (decide (row.voucherKey = other) && !row.isDeleted) := by
        intro row
        rw [Function.comp_apply]
        split
        · next retired =>
            have away : row.voucherKey ≠ other := by
              rw [retired.1]
              exact Ne.symm different
            change (decide (row.voucherKey = other) && !true) = _
            rw [decide_eq_false away, Bool.false_and, Bool.false_and]
        · rfl
      rw [List.filter_congr fun row _ => keeps row]
      apply List.map_congr_left
      intro row _
      rw [Function.comp_apply]
      split
      · rfl
      · rfl

/-! ## A header in the place of another -/

theorem keys_written (tables : PostingTables) (new : VoucherHeader) :
    (tables.written new).map (·.key) = tables.headers.map (·.key) := by
  rw [written, List.map_map]
  apply List.map_congr_left
  intro held _
  rw [Function.comp_apply]
  split
  · next same => exact same.symm
  · rfl

theorem mem_written (listed : header ∈ tables.written new) :
    header = new ∨ (header ∈ tables.headers ∧ header.key ≠ new.key) := by
  obtain ⟨held, isHeld, rfl⟩ := List.mem_map.mp listed
  split
  · exact Or.inl rfl
  · next other => exact Or.inr ⟨isHeld, other⟩

theorem mem_written_of_ne (listed : header ∈ tables.headers) (other : header.key ≠ new.key) :
    header ∈ tables.written new :=
  List.mem_map.mpr ⟨header, listed, if_neg other⟩

theorem new_mem_written {old : VoucherHeader} (listed : old ∈ tables.headers)
    (same : new.key = old.key) : new ∈ tables.written new :=
  List.mem_map.mpr ⟨old, listed, if_pos same.symm⟩

theorem freshVoucherId_written (new : VoucherHeader) (rows : List VoucherRow)
    (tenders : List TenderDetail) :
    freshVoucherId ⟨tables.written new, rows, tenders⟩ = tables.freshVoucherId := by
  have ids := congrArg (fun keys => (keys.map VoucherKey.voucherId).sum) (tables.keys_written new)
  rw [List.map_map, List.map_map] at ids
  exact congrArg (· + 1) ids

end PostingTables

/-! ## The legs of one voucher written -/

theorem legRows_key : ∀ row ∈ legRows doc legs ledgers voucherId number,
      row.voucherKey = ⟨voucherId, doc.header.accYear⟩ ∧ row.isDeleted = false := by
  intro row listed
  obtain ⟨index, _, rfl⟩ := List.mem_mapIdx.mp listed
  exact ⟨rfl, rfl⟩

theorem legRows_entries : (legRows doc legs ledgers voucherId number).map (·.entry) =
      (legs.zip ledgers).map fun entry => legEntry entry.1 entry.2 := by
  apply List.ext_getElem
  · simp [legRows]
  · intro index _ _
    simp [legRows]

/-- These entries booked on this voucher, and nothing else touched but tender rows. -/
structure Books (tables : PostingTables) (key : VoucherKey) (booked : List LegEntry)
    (after : PostingTables) : Prop where
  entries : ∀ other, after.entries other = tables.entries other ++
    if other = key then booked else []
  rows : ∀ row ∈ after.rows, row ∈ tables.rows ∨ (row.voucherKey = key ∧ row.entry.WellFormed)

theorem insertLegs_ok {header : VoucherHeader} (ofYear : header.accYear = doc.header.accYear)
    (ok : insertLegs facts doc legs ledgers header number tables = .ok after) :
    after.headers = tables.headers ∧
      Books tables header.key ((legs.zip ledgers).map fun entry => legEntry entry.1 entry.2)
        after ∧
      (header.status = .POSTED → entryReading.Balanced (after.entries header.key)) := by
  obtain ⟨written, inserted, ok⟩ := Fold.bind_eq_ok ok
  obtain ⟨rfl, formed, balanced⟩ := PostingTables.insertRows_ok inserted
  have ofKey : ∀ row ∈ legRows doc legs ledgers header.voucherId number,
      row.voucherKey = header.key ∧ row.isDeleted = false := by
    rw [VoucherHeader.key, ofYear]
    exact legRows_key
  have books (tenders : List TenderDetail) : Books tables header.key
      ((legs.zip ledgers).map fun entry => legEntry entry.1 entry.2)
      ⟨tables.headers, tables.rows ++ legRows doc legs ledgers header.voucherId number,
        tenders⟩ := by
    constructor
    · intro other
      rw [PostingTables.entries_append ofKey, legRows_entries]
    · intro row listed
      cases List.mem_append.mp listed with
      | inl held => exact Or.inl held
      | inr new => exact Or.inr ⟨(ofKey row new).1, formed row new⟩
  simp only at ok
  split at ok
  · cases ok
    exact ⟨rfl, books _, balanced⟩
  · split at ok
    · cases ok
    · cases ok
      exact ⟨rfl, books _, balanced⟩

/-! ## A posting -/

/-- The legs a call books, once its ledgers are resolved. -/
def postedEntries (facts : PostingFacts) (doc : VoucherLegSource) : List LegEntry :=
  match resolveLegLedgers facts doc.header (countedLegs doc) with
  | .ok ledgers => ((countedLegs doc).zip ledgers).map fun entry => legEntry entry.1 entry.2
  | .error _ => []

/-- A header that stands for the same voucher of the same document. -/
structure SameVoucher (old new : VoucherHeader) : Prop where
  key : new.key = old.key
  company : new.companyId = old.companyId
  source : new.source = old.source
  against : new.against = old.against
  deleted : new.isDeleted = old.isDeleted

/-- The draft a call goes into. -/
def VoucherHeaderInput.target (header : VoucherHeaderInput) : Option Uuid :=
  header.restateVoucherId.or header.draftVoucherId

/-- What a posting leaves: a header of its own, or a draft posted, with the legs booked. -/
inductive Posts (facts : PostingFacts) (doc : VoucherLegSource) (tables after : PostingTables) :
    Prop
  | fresh (new : VoucherHeader) : doc.header.target = none →
      new = newHeader facts doc tables.freshVoucherId →
      after.headers = tables.headers ++ [new] →
      (∀ held ∈ tables.headers, held.clash new = none) →
      Books tables new.key (postedEntries facts doc) after →
      entryReading.Balanced (after.entries new.key) → Posts facts doc tables after
  | into (voucherId : Uuid) (old new : VoucherHeader) :
      doc.header.target = some voucherId →
      tables.header? ⟨voucherId, doc.header.accYear⟩ = some old → old.status = .DRAFT →
      SameVoucher old new → new.status = .POSTED → new.reversal = old.reversal →
      after.headers = tables.written new →
      (∀ held ∈ tables.headers, held.key ≠ new.key → held.clash new = none) →
      Books tables new.key (postedEntries facts doc) after →
      entryReading.Balanced (after.entries new.key) → Posts facts doc tables after

theorem postFresh_posts
    (resolved : resolveLegLedgers facts doc.header (countedLegs doc) = .ok ledgers)
    (own : doc.header.target = none)
    (ok : postFresh facts doc (countedLegs doc) ledgers tables = .ok (after, result)) :
    Posts facts doc tables after := by
  obtain ⟨opened, inserted, ok⟩ := Fold.bind_eq_ok ok
  obtain ⟨rfl, admitted⟩ := PostingTables.insertHeader_ok inserted
  obtain ⟨written, legs, ok⟩ := Fold.bind_eq_ok ok
  cases ok
  obtain ⟨headers, books, balanced⟩ := insertLegs_ok rfl legs
  refine .fresh _ own rfl headers admitted ⟨?_, books.rows⟩ (balanced rfl)
  rw [postedEntries, resolved]
  exact books.entries

/-- A rewrite of a header rewritten is the last one alone. -/
theorem written_written {first last : VoucherHeader} {between : PostingTables}
    (same : last.key = first.key) (headers : between.headers = tables.written first) :
    between.written last = tables.written last := by
  rw [PostingTables.written, headers, PostingTables.written, PostingTables.written, List.map_map]
  apply List.map_congr_left
  intro held _
  rw [Function.comp_apply, same]
  split
  · rw [if_pos rfl]
  · rfl

theorem written_append {first last added : VoucherHeader} {between : PostingTables}
    (same : last.key = first.key) (headers : between.headers = tables.written first ++ [added])
    (other : added.key ≠ last.key) : between.written last = tables.written last ++ [added] := by
  have rewritten := @written_written tables first last
    ⟨tables.written first, tables.rows, tables.tenders⟩ same rfl
  rw [PostingTables.written, headers, List.map_append, List.map_singleton, if_neg other,
    ← rewritten]
  rfl

theorem restateLegs_posts
    (resolved : resolveLegLedgers facts doc.header (countedLegs doc) = .ok ledgers)
    (target : doc.header.target = some voucherId)
    (ok : restateLegs facts doc (countedLegs doc) ledgers voucherId tables = .ok (after, result)) :
    Posts facts doc tables after := by
  rw [restateLegs] at ok
  split at ok
  · cases ok
  · next kept found =>
      obtain ⟨found, draft⟩ := Option.filter_eq_some_iff.mp found
      rw [decide_eq_true_eq] at draft
      obtain ⟨_, atKey, _⟩ := PostingTables.header?_mem found
      have ofYear : kept.accYear = doc.header.accYear := congrArg (·.accYear) atKey
      split at ok
      · obtain ⟨opened, openedOk, ok⟩ := Fold.bind_eq_ok ok
        obtain ⟨written, legs, ok⟩ := Fold.bind_eq_ok ok
        obtain ⟨posted, postedOk, ok⟩ := Fold.bind_eq_ok ok
        cases ok
        obtain ⟨rfl, _, _⟩ := PostingTables.updateHeader_ok openedOk
        obtain ⟨rfl, admitted, balanced⟩ := PostingTables.updateHeader_ok postedOk
        obtain ⟨headers, books, _⟩ := insertLegs_ok ofYear legs
        have rewritten : written.written (reopened doc kept).posted =
            tables.written (reopened doc kept).posted :=
          @written_written tables (reopened doc kept) _ _ rfl headers
        refine .into voucherId kept (reopened doc kept).posted target found draft
          ⟨rfl, rfl, rfl, rfl, rfl⟩ rfl rfl rewritten ?_ ⟨?_, books.rows⟩ (balanced rfl)
        · intro held listed away
          apply admitted held _ away
          rw [headers]
          exact PostingTables.mem_written_of_ne listed away
        · rw [postedEntries, resolved]
          exact books.entries
      · cases ok

theorem postIntoDraft_posts
    (resolved : resolveLegLedgers facts doc.header (countedLegs doc) = .ok ledgers)
    (target : doc.header.target = some voucherId)
    (ok : postIntoDraft facts doc (countedLegs doc) ledgers voucherId tables = .ok (after, result)) :
    Posts facts doc tables after := by
  rw [postIntoDraft] at ok
  simp only at ok
  split at ok
  · cases ok
  · next draft found =>
      obtain ⟨found, isDraft⟩ := Option.filter_eq_some_iff.mp found
      rw [decide_eq_true_eq] at isDraft
      obtain ⟨_, atKey, _⟩ := PostingTables.header?_mem found
      have ofYear : draft.accYear = doc.header.accYear := congrArg (·.accYear) atKey
      obtain ⟨written, legs, ok⟩ := Fold.bind_eq_ok ok
      obtain ⟨posted, postedOk, ok⟩ := Fold.bind_eq_ok ok
      cases ok
      obtain ⟨rfl, admitted, balanced⟩ := PostingTables.updateHeader_ok postedOk
      obtain ⟨headers, books, _⟩ := insertLegs_ok ofYear legs
      refine .into voucherId draft (numbered facts doc draft).posted target found isDraft
        ⟨rfl, rfl, rfl, rfl, rfl⟩ rfl rfl ?_ ?_ ⟨?_, books.rows⟩ (balanced rfl)
      · rw [PostingTables.written, PostingTables.written, headers]
      · intro held listed
        apply admitted held
        rw [headers]
        exact listed
      · rw [postedEntries, resolved]
        exact books.entries

theorem postLegs_posts (ok : postLegs facts doc tables = .ok (after, result)) :
    Posts facts doc tables after := by
  rw [postLegs] at ok
  split at ok
  · cases ok
  · obtain ⟨ledgers, resolved, ok⟩ := Fold.bind_eq_ok ok
    obtain ⟨_, _, ok⟩ := Fold.bind_eq_ok ok
    split at ok
    · next voucherId _ restating =>
        refine restateLegs_posts resolved ?_ ok
        rw [VoucherHeaderInput.target, restating]
        rfl
    · next voucherId notRestating drafted =>
        refine postIntoDraft_posts resolved ?_ ok
        rw [VoucherHeaderInput.target, notRestating, drafted]
        rfl
    · next notRestating notDrafted =>
        refine postFresh_posts resolved ?_ ok
        rw [VoucherHeaderInput.target, notRestating, notDrafted]
        rfl

/-! ## A reversal -/

/-- What a reversal leaves: the original cancelled and linked, and its mirror posted. -/
structure Reverses (key : VoucherKey) (tables after : PostingTables) (reversed : Reversed) :
    Prop where
  whole : ∃ original linked mirror, tables.header? key = some original ∧
    original.reversal = none ∧ original.status ≠ .CANCELLED ∧
    SameVoucher original linked ∧ linked.status = .CANCELLED ∧
    linked.reversal = some mirror.key ∧
    mirror.key = ⟨reversed.voucherId, key.accYear⟩ ∧ mirror.against = some key ∧
    mirror.source = none ∧ mirror.reversal = none ∧ mirror.status = .POSTED ∧
    mirror.isDeleted = false ∧ (∀ held ∈ tables.headers, held.voucherId ≠ mirror.voucherId) ∧
    after.headers = tables.written linked ++ [mirror] ∧
    (∀ held ∈ tables.headers, held.key ≠ linked.key → held.clash linked = none) ∧
    (∀ held ∈ tables.written linked, held.clash mirror = none) ∧
    Books tables mirror.key ((tables.entries key).map LegEntry.mirror) after ∧
    entryReading.Balanced (after.entries mirror.key)

theorem mirrorRows_key {typeId : ℕ} {remarks : String} {voucherId : Uuid} {key : VoucherKey} :
    ∀ row ∈ (tables.liveRows key).map (mirrorRow facts typeId remarks voucherId),
      row.voucherKey = ⟨voucherId, key.accYear⟩ ∧ row.isDeleted = false := by
  intro row listed
  obtain ⟨held, isLive, rfl⟩ := List.mem_map.mp listed
  have ofKey := (List.mem_filter.mp isLive).2
  rw [Bool.and_eq_true, decide_eq_true_eq] at ofKey
  rw [← ofKey.1]
  exact ⟨rfl, rfl⟩

variable {key : VoucherKey}

theorem mirrorRows_entries {typeId : ℕ} {remarks : String} :
    ((tables.liveRows key).map (mirrorRow facts typeId remarks voucherId)).map (·.entry) =
      (tables.entries key).map LegEntry.mirror := by
  rw [PostingTables.entries, List.map_map, List.map_map]
  rfl

theorem reverseLegs_reverses {reason : String} {reversed : Reversed}
    (ok : reverseLegs facts key reason tables = .ok (after, some reversed)) :
    Reverses key tables after reversed := by
  rw [reverseLegs] at ok
  split at ok
  · cases ok
  · next original found =>
      split at ok
      · cases ok
      · next live =>
          rw [not_or, Option.not_isSome_iff_eq_none] at live
          obtain ⟨left, cancelled, ok⟩ := Fold.bind_eq_ok ok
          split at ok
          · cases ok
          · next typeId _ =>
              obtain ⟨opened, inserted, ok⟩ := Fold.bind_eq_ok ok
              obtain ⟨written, rowsIn, ok⟩ := Fold.bind_eq_ok ok
              obtain ⟨linkedTables, relinked, ok⟩ := Fold.bind_eq_ok ok
              obtain ⟨isHeld, atKey, alive⟩ := PostingTables.header?_mem found
              obtain ⟨rfl, _, _⟩ := PostingTables.updateHeader_ok cancelled
              obtain ⟨rfl, admitted⟩ := PostingTables.insertHeader_ok inserted
              obtain ⟨rfl, formed, balanced⟩ := PostingTables.insertRows_ok rowsIn
              obtain ⟨rfl, linkedIn, _⟩ := PostingTables.updateHeader_ok relinked
              cases ok
              have ofYear : original.accYear = key.accYear := congrArg (·.accYear) atKey
              have away : ∀ held ∈ tables.headers, held.voucherId ≠ PostingTables.freshVoucherId
                  ⟨tables.written (original.cancelled reason), tables.rows, tables.tenders⟩ := by
                intro held listed
                rw [PostingTables.freshVoucherId_written]
                exact tables.fresh_ne listed
              generalize PostingTables.freshVoucherId
                ⟨tables.written (original.cancelled reason), tables.rows, tables.tenders⟩ =
                  voucherId at away balanced formed admitted linkedIn ⊢
              have ofMirror := @mirrorRows_key tables facts typeId
                (reversalRemarks original reason) voucherId key
              rw [← ofYear] at ofMirror
              refine ⟨original, (original.cancelled reason).reversedBy ⟨voucherId,
                original.accYear⟩, mirrorHeader facts typeId reason original voucherId,
                found, live.1, live.2, ⟨rfl, rfl, rfl, rfl, rfl⟩, rfl, rfl, ?_, congrArg some atKey,
                rfl, rfl, rfl, rfl, away, ?_, ?_, ?_, ⟨?_, ?_⟩, balanced rfl⟩
              · rw [← ofYear]
                rfl
              · have apart : (mirrorHeader facts typeId reason original voucherId).key ≠
                    original.key :=
                  fun same => away original isHeld (congrArg (·.voucherId) same).symm
                exact @written_append tables (original.cancelled reason)
                  ((original.cancelled reason).reversedBy ⟨voucherId, original.accYear⟩)
                  (mirrorHeader facts typeId reason original voucherId) _ rfl rfl apart
              · intro held listed otherKey
                exact linkedIn held (List.mem_append_left _
                  (PostingTables.mem_written_of_ne listed otherKey)) otherKey
              · intro held listed
                cases PostingTables.mem_written listed with
                | inl isLinked =>
                    rw [isLinked]
                    exact admitted (original.cancelled reason)
                      (PostingTables.new_mem_written isHeld rfl)
                | inr before =>
                    exact admitted held (PostingTables.mem_written_of_ne before.1 before.2)
              · intro other
                exact (PostingTables.entries_append ofMirror other _ _).trans
                  (by rw [mirrorRows_entries]; rfl)
              · intro row listed
                cases List.mem_append.mp listed with
                | inl held => exact Or.inl held
                | inr new => exact Or.inr ⟨(ofMirror row new).1, formed row new⟩

/-! ## What the tables keep -/

/-- Keys of their own, legs of a header there is and as the columns demand, posted vouchers that
balance, reversals of cancelled ones only, and no two that a unique index takes for one. -/
structure Sound (tables : PostingTables) : Prop where
  keys : (tables.headers.map (·.key)).Nodup
  owned : ∀ row ∈ tables.rows, ∃ header ∈ tables.headers, header.key = row.voucherKey
  formed : ∀ row ∈ tables.rows, row.entry.WellFormed
  answered : ∀ header ∈ tables.headers, ∀ key, header.against = some key →
    ∃ original ∈ tables.headers, original.key = key
  balanced : ∀ header ∈ tables.headers, header.status = .POSTED →
    entryReading.Balanced (tables.entries header.key)
  unreversed : ∀ header ∈ tables.headers, header.status ≠ .CANCELLED → header.reversal = none
  admitted : ∀ header ∈ tables.headers, ∀ other ∈ tables.headers, header.key ≠ other.key →
    header.clash other = none

theorem sound_empty : Sound ⟨[], [], []⟩ := by
  constructor
  · exact List.nodup_nil
  all_goals intro entry listed; cases listed

namespace Sound

variable {header : VoucherHeader}

theorem eq_of_key (sound : Sound tables) {other : VoucherHeader} (listed : header ∈ tables.headers)
    (otherListed : other ∈ tables.headers) (same : header.key = other.key) : header = other :=
  List.inj_on_of_nodup_map sound.keys listed otherListed same

theorem header? (sound : Sound tables) (listed : header ∈ tables.headers)
    (live : header.isDeleted = false) : tables.header? header.key = some header := by
  cases found : tables.header? header.key with
  | none =>
      have missed := List.find?_eq_none.mp found header listed
      rw [live] at missed
      simp at missed
  | some other =>
      obtain ⟨otherListed, same, _⟩ := PostingTables.header?_mem found
      rw [sound.eq_of_key otherListed listed same]

/-- No legs are held under a key no header has. -/
theorem entries_fresh (sound : Sound tables) {key : VoucherKey}
    (fresh : ∀ header ∈ tables.headers, header.key ≠ key) : tables.entries key = [] := by
  rw [PostingTables.entries, List.map_eq_nil_iff, PostingTables.liveRows, List.filter_eq_nil_iff]
  intro row listed
  obtain ⟨header, isHeld, same⟩ := sound.owned row listed
  rw [← same, decide_eq_false (fresh header isHeld)]
  exact Bool.false_ne_true

/-- A header added under a key of its own keeps the tables sound. -/
theorem inserted (sound : Sound tables) (fresh : ∀ header ∈ tables.headers, header.key ≠ new.key)
    (headers : after.headers = tables.headers ++ [new])
    (rows : ∀ row ∈ after.rows, row ∈ tables.rows ∨
      (row.voucherKey = new.key ∧ row.entry.WellFormed))
    (kept : ∀ header ∈ tables.headers, after.entries header.key = tables.entries header.key)
    (balanced : entryReading.Balanced (after.entries new.key)) (unreversed : new.reversal = none)
    (answers : ∀ key, new.against = some key → ∃ original ∈ tables.headers, original.key = key)
    (admitted : ∀ held ∈ tables.headers, held.clash new = none) : Sound after := by
  have before {header : VoucherHeader} (listed : header ∈ after.headers) :
      header ∈ tables.headers ∨ header = new := by
    rw [headers, List.mem_append, List.mem_singleton] at listed
    exact listed
  have held {header : VoucherHeader} (listed : header ∈ tables.headers) :
      header ∈ after.headers := by
    rw [headers]
    exact List.mem_append_left _ listed
  have newListed : new ∈ after.headers := by
    rw [headers]
    exact List.mem_append_right _ (List.mem_singleton_self new)
  constructor
  · rw [headers, List.map_append, List.nodup_append']
    refine ⟨sound.keys, List.nodup_singleton _, ?_⟩
    rw [List.map_singleton, List.disjoint_singleton]
    intro listed
    obtain ⟨header, isHeld, same⟩ := List.mem_map.mp listed
    exact fresh header isHeld same
  · intro row listed
    cases rows row listed with
    | inl isHeld =>
        obtain ⟨header, isHeader, same⟩ := sound.owned row isHeld
        exact ⟨header, held isHeader, same⟩
    | inr ofNew => exact ⟨new, newListed, ofNew.1.symm⟩
  · intro row listed
    cases rows row listed with
    | inl isHeld => exact sound.formed row isHeld
    | inr ofNew => exact ofNew.2
  · intro header listed key against
    have answered : ∃ original ∈ tables.headers, original.key = key := by
      cases before listed with
      | inl isHeld => exact sound.answered header isHeld key against
      | inr isNew => exact answers key (isNew ▸ against)
    obtain ⟨original, isHeld, same⟩ := answered
    exact ⟨original, held isHeld, same⟩
  · intro header listed posted
    cases before listed with
    | inl isHeld =>
        rw [kept header isHeld]
        exact sound.balanced header isHeld posted
    | inr isNew =>
        rw [isNew]
        exact balanced
  · intro header listed stands
    cases before listed with
    | inl isHeld => exact sound.unreversed header isHeld stands
    | inr isNew =>
        rw [isNew]
        exact unreversed
  · intro header listed other otherListed apart
    cases before listed with
    | inl isHeld =>
        cases before otherListed with
        | inl otherHeld => exact sound.admitted header isHeld other otherHeld apart
        | inr otherNew =>
            rw [otherNew]
            exact admitted header isHeld
    | inr isNew =>
        cases before otherListed with
        | inl otherHeld =>
            rw [isNew]
            exact clash_comm (admitted other otherHeld)
        | inr otherNew =>
            rw [isNew, otherNew] at apart
            exact absurd rfl apart

/-- A header rewritten as the same voucher keeps the tables sound. -/
theorem rewritten (sound : Sound tables) {old : VoucherHeader} (listed : old ∈ tables.headers)
    (same : SameVoucher old new) (headers : after.headers = tables.written new)
    (admitted : ∀ held ∈ tables.headers, held.key ≠ new.key → held.clash new = none)
    (rows : ∀ row ∈ after.rows, (∃ header ∈ tables.headers, header.key = row.voucherKey) ∧
      row.entry.WellFormed) (kept : ∀ header ∈ tables.headers, header.key ≠ new.key →
      after.entries header.key = tables.entries header.key)
    (balanced : new.status = .POSTED → entryReading.Balanced (after.entries new.key))
    (unreversed : new.status ≠ .CANCELLED → new.reversal = none) : Sound after := by
  have newKey {header : VoucherHeader} (isHeld : header ∈ tables.headers) :
      ∃ again ∈ after.headers, again.key = header.key := by
    have again : header.key ∈ (tables.written new).map (·.key) := by
      rw [tables.keys_written new]
      exact List.mem_map_of_mem isHeld
    rw [headers]
    exact List.mem_map.mp again
  have before {header : VoucherHeader} (isListed : header ∈ after.headers) :
      header = new ∨ (header ∈ tables.headers ∧ header.key ≠ new.key) := by
    rw [headers] at isListed
    exact PostingTables.mem_written isListed
  constructor
  · rw [headers, PostingTables.keys_written]
    exact sound.keys
  · intro row isRow
    obtain ⟨header, isHeld, atKey⟩ := (rows row isRow).1
    obtain ⟨again, isAgain, sameKey⟩ := newKey isHeld
    exact ⟨again, isAgain, sameKey.trans atKey⟩
  · exact fun row isRow => (rows row isRow).2
  · intro header isListed key against
    have answered : ∃ original ∈ tables.headers, original.key = key := by
      cases before isListed with
      | inl isNew =>
          rw [isNew, same.against] at against
          exact sound.answered old listed key against
      | inr isHeld => exact sound.answered header isHeld.1 key against
    obtain ⟨original, isHeld, atKey⟩ := answered
    obtain ⟨again, isAgain, sameKey⟩ := newKey isHeld
    exact ⟨again, isAgain, sameKey.trans atKey⟩
  · intro header isListed isPosted
    cases before isListed with
    | inl isNew =>
        rw [isNew] at isPosted ⊢
        exact balanced isPosted
    | inr isHeld =>
        rw [kept header isHeld.1 isHeld.2]
        exact sound.balanced header isHeld.1 isPosted
  · intro header isListed stands
    cases before isListed with
    | inl isNew =>
        rw [isNew] at stands ⊢
        exact unreversed stands
    | inr isHeld => exact sound.unreversed header isHeld.1 stands
  · intro header isListed other otherListed apart
    cases before isListed with
    | inl isNew =>
        cases before otherListed with
        | inl otherNew =>
            rw [isNew, otherNew] at apart
            exact absurd rfl apart
        | inr otherHeld =>
            rw [isNew]
            exact clash_comm (admitted other otherHeld.1 otherHeld.2)
    | inr isHeld =>
        cases before otherListed with
        | inl otherNew =>
            rw [otherNew]
            exact admitted header isHeld.1 isHeld.2
        | inr otherHeld => exact sound.admitted header isHeld.1 other otherHeld.1 apart

end Sound

end ErpServer.Posting
