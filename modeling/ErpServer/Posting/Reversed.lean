import ErpServer.Posting.VoucherSound

/-!
# Reversal undoes posting

The movement of a document is what its vouchers and their mirrors book.  Through any run of
postings, amends and reversals of the document it is that of the legs last posted, until they
are taken out again: then it is nothing.
-/

namespace ErpServer.Posting

open Lib
open Receipt (Decimal DrCr)

/-! ## Documents -/

/-- A source document, or a voucher that is its own. -/
inductive Document where
  | source (companyId : Uuid) (accYear : String) (doc : SourceDoc)
  | voucher (key : VoucherKey)
  deriving DecidableEq, Repr

namespace Document

def owns (document : Document) (header : VoucherHeader) : Bool :=
  match document with
  | .source companyId accYear doc =>
      header.companyId = companyId && header.accYear = accYear && header.source = some doc
  | .voucher key => header.key = key

end Document

/-- What is posted of some keys. -/
def netOf (keep : LegKey → Bool) (entries : List LegEntry) : Decimal :=
  entryReading.net (entries.filter fun entry => keep entry.key)

namespace PostingTables

variable (tables : PostingTables) (document : Document)

def ownsKey (key : VoucherKey) : Bool :=
  tables.headers.any fun original => original.key = key && document.owns original

/-- The books count a posted voucher and a cancelled one; the document's are those it owns and
those that answer them. -/
def counts (header : VoucherHeader) : Bool :=
  !header.isDeleted && (header.status = .POSTED || header.status = .CANCELLED) &&
    (document.owns header || header.against.any (tables.ownsKey document))

def share (keep : LegKey → Bool) (header : VoucherHeader) : Decimal :=
  if tables.counts document header then netOf keep (tables.entries header.key) else 0

/-- The movement of a document on the keys kept. -/
def movement (keep : LegKey → Bool) : Decimal :=
  (tables.headers.map (tables.share document keep)).sum

end PostingTables

/-! ## Runs -/

inductive DocumentOp where
  | post (facts : PostingFacts) (doc : VoucherLegSource)
  | retire (key : VoucherKey)
  | reverse (facts : PostingFacts) (key : VoucherKey) (reason : String)

/-- The tables, and the legs last posted or restated and not taken out since. -/
structure Standing where
  tables : PostingTables
  legs : List LegEntry

/-- A call; one that throws leaves the tables as they were. -/
def DocumentOp.run (state : Standing) : DocumentOp → Standing
  | .post facts doc =>
      match postLegs facts doc state.tables with
      | .ok (after, _) => ⟨after, postedEntries facts doc⟩
      | .error _ => state
  | .retire key =>
      match retireForRestate key state.tables with
      | (after, true) => ⟨after, []⟩
      | (_, false) => state
  | .reverse facts key reason =>
      match reverseLegs facts key reason state.tables with
      | .ok (after, some _) => ⟨after, []⟩
      | .ok (after, none) => ⟨after, state.legs⟩
      | .error _ => state

/-- The voucher under a key, if there is one, is the document's. -/
def Document.Holds (document : Document) (tables : PostingTables) (key : VoucherKey) : Prop :=
  ∀ header, tables.header? key = some header → document.owns header = true

/-- A call for the document: on a voucher of its own, or posting it anew. -/
def Document.Concerns (document : Document) (tables : PostingTables) : DocumentOp → Prop
  | .post _ doc =>
      match doc.header.target with
      | some voucherId => document.Holds tables ⟨voucherId, doc.header.accYear⟩
      | none => ∃ source, doc.header.source = some source ∧
          document = .source doc.header.companyId doc.header.accYear source
  | .retire key => document.Holds tables key
  | .reverse _ key _ => document.Holds tables key

/-- A run of calls for the document. -/
inductive DocumentRun (document : Document) : Standing → List DocumentOp → Standing → Prop
  | nil (state : Standing) : DocumentRun document state [] state
  | cons {state finish : Standing} {op : DocumentOp} {rest : List DocumentOp} :
      document.Concerns state.tables op →
      DocumentRun document (op.run state) rest finish →
      DocumentRun document state (op :: rest) finish

/-- A document nothing was posted of: its vouchers are drafts without legs, and none answers
them. -/
structure Unposted (document : Document) (tables : PostingTables) : Prop where
  sound : Sound tables
  drafts : ∀ header ∈ tables.headers, document.owns header = true →
    header.isDeleted = false → header.status = .DRAFT ∧ tables.entries header.key = []
  unanswered : ∀ header ∈ tables.headers, ∀ key, header.against = some key →
    tables.ownsKey document key = false

/-! ## The movement, header by header -/

variable {tables after : PostingTables} {document : Document} {keep : LegKey → Bool}

@[simp] theorem netOf_nil : netOf keep [] = 0 := rfl

theorem mirror_net (entries : List LegEntry) :
    entryReading.net (entries.map LegEntry.mirror) = -entryReading.net entries := by
  apply DoubleEntry.Reading.net_mirror
  · intro entry
    change decide (entry.drCr.flip = .DR) = !decide (entry.drCr = .DR)
    cases entry.drCr with
    | DR => rfl
    | CR => rfl
  · intro entry
    rfl

theorem netOf_mirror (entries : List LegEntry) :
    netOf keep (entries.map LegEntry.mirror) = -netOf keep entries := by
  have kept : (entries.map LegEntry.mirror).filter (fun entry => keep entry.key) =
      (entries.filter fun entry => keep entry.key).map LegEntry.mirror := by
    rw [List.filter_map]
    rfl
  rw [netOf, kept, mirror_net, netOf]

variable {header held linked new old original : VoucherHeader} {key : VoucherKey} {reason : String}

theorem owns_same (same : SameVoucher old new) : document.owns new = document.owns old := by
  cases document with
  | source companyId accYear doc =>
      have year : new.accYear = old.accYear := congrArg (·.accYear) same.key
      rw [Document.owns, Document.owns, same.company, same.source, year]
  | voucher key =>
      rw [Document.owns, Document.owns, same.key]

theorem ownsKey_iff : tables.ownsKey document key = true ↔
    ∃ original ∈ tables.headers, original.key = key ∧ document.owns original = true := by
  rw [PostingTables.ownsKey, List.any_eq_true]
  simp only [Bool.and_eq_true, decide_eq_true_eq]

/-- Rewriting a header as the same voucher changes no owner. -/
theorem ownsKey_written (sound : Sound tables) (listed : old ∈ tables.headers)
    (same : SameVoucher old new) (headers : after.headers = tables.written new) (key : VoucherKey) :
    after.ownsKey document key = tables.ownsKey document key := by
  rw [Bool.eq_iff_iff, ownsKey_iff, ownsKey_iff, headers]
  constructor
  · rintro ⟨original, isListed, atKey, owned⟩
    cases PostingTables.mem_written isListed with
    | inl isNew =>
        rw [isNew] at atKey owned
        exact ⟨old, listed, same.key.symm.trans atKey, (owns_same same).symm.trans owned⟩
    | inr before => exact ⟨original, before.1, atKey, owned⟩
  · rintro ⟨original, isListed, atKey, owned⟩
    by_cases replaced : original.key = new.key
    · have again := PostingTables.new_mem_written listed same.key
      have isOld : original = old :=
        sound.eq_of_key isListed listed (replaced.trans same.key)
      refine ⟨new, again, replaced.symm.trans atKey, ?_⟩
      rw [owns_same same, ← isOld]
      exact owned
    · exact ⟨original, PostingTables.mem_written_of_ne isListed replaced, atKey, owned⟩

/-- What a header counts depends on its own state, its legs and who owns what it answers. -/
theorem share_congr (owners : ∀ key, header.against = some key →
      after.ownsKey document key = tables.ownsKey document key)
    (entries : after.entries header.key = tables.entries header.key) :
    after.share document keep header = tables.share document keep header := by
  have counted : after.counts document header = tables.counts document header := by
    rw [PostingTables.counts, PostingTables.counts]
    cases answers : header.against with
    | none => rfl
    | some key => rw [Option.any_some, Option.any_some, owners key answers]
  rw [PostingTables.share, PostingTables.share, counted, entries]

/-- A rewritten header changes the movement by its own share. -/
theorem movement_rewritten (sound : Sound tables) (listed : old ∈ tables.headers)
    (same : SameVoucher old new) (headers : after.headers = tables.written new)
    (kept : ∀ header ∈ tables.headers, header.key ≠ new.key →
      after.entries header.key = tables.entries header.key) :
    after.movement document keep = tables.movement document keep -
      tables.share document keep old + after.share document keep new := by
  have regrouped : after.movement document keep = (tables.headers.map fun header =>
      after.share document keep (if header.key = new.key then new else header)).sum := by
    rw [PostingTables.movement, headers, PostingTables.written, List.map_map]
    rfl
  have atOld : (if old.key = new.key then new else old) = new := if_pos same.key.symm
  have agree : ∀ other ∈ tables.headers, other.key ≠ old.key →
      after.share document keep (if other.key = new.key then new else other) =
        tables.share document keep other := by
    intro other isListed elsewhere
    have away : other.key ≠ new.key := by
      rw [same.key]
      exact elsewhere
    rw [if_neg away]
    exact share_congr (fun key _ => ownsKey_written sound listed same headers key)
      (kept other isListed away)
  rw [regrouped, ListSum.sum_map_of_key sound.keys listed agree, atOld]
  rfl

/-- A header added under a key of its own adds its share. -/
theorem movement_inserted (sound : Sound tables)
    (fresh : ∀ header ∈ tables.headers, header.key ≠ new.key)
    (headers : after.headers = tables.headers ++ [new])
    (kept : ∀ header ∈ tables.headers, after.entries header.key = tables.entries header.key) :
    after.movement document keep =
      tables.movement document keep + after.share document keep new := by
  have owners (key : VoucherKey) (held : ∃ original ∈ tables.headers, original.key = key) :
      after.ownsKey document key = tables.ownsKey document key := by
    obtain ⟨original, isListed, atKey⟩ := held
    have away : new.key ≠ key := atKey ▸ (fresh original isListed).symm
    rw [PostingTables.ownsKey, PostingTables.ownsKey, headers, List.any_append, List.any_cons,
      List.any_nil, Bool.or_false, decide_eq_false away, Bool.false_and, Bool.or_false]
  rw [PostingTables.movement, headers, List.map_append, List.sum_append, List.map_singleton,
    List.sum_singleton, PostingTables.movement]
  congr 2
  apply List.map_congr_left
  intro header listed
  exact share_congr (fun key against => owners key (sound.answered header listed key against))
    (kept header listed)

/-- A voucher the document owns counts once it is posted or cancelled. -/
theorem share_owned (owned : document.owns header = true) (live : header.isDeleted = false)
    (booked : header.status = .POSTED ∨ header.status = .CANCELLED) :
    tables.share document keep header = netOf keep (tables.entries header.key) := by
  have counted : tables.counts document header = true := by
    rw [PostingTables.counts, owned, live]
    cases booked with
    | inl posted => rw [posted]; rfl
    | inr cancelled => rw [cancelled]; rfl
  rw [PostingTables.share, if_pos counted]

theorem share_draft (draft : header.status = .DRAFT) : tables.share document keep header = 0 := by
  have uncounted : tables.counts document header ≠ true := by
    rw [PostingTables.counts, draft]
    simp
  rw [PostingTables.share, if_neg uncounted]

/-! ## What stands of a document -/

/-- At most one voucher of the document is live: a draft without legs, or posted with the legs
that stand.  The movement is theirs. -/
structure Stands (document : Document) (state : Standing) : Prop where
  sound : Sound state.tables
  states : ∀ header ∈ state.tables.headers, document.owns header = true →
    header.isDeleted = false →
      (header.status = .DRAFT ∧ state.tables.entries header.key = []) ∨
      (header.status = .POSTED ∧ state.tables.entries header.key = state.legs) ∨
      header.status = .CANCELLED
  nothing : (∀ header ∈ state.tables.headers, document.owns header = true →
    header.isDeleted = false → header.status ≠ .POSTED) → state.legs = []
  moved : ∀ keep, state.tables.movement document keep = netOf keep state.legs

theorem Unposted.stands (unposted : Unposted document tables) :
    Stands document ⟨tables, []⟩ := by
  refine ⟨unposted.sound, ?_, fun _ => rfl, ?_⟩
  · intro header listed owned live
    exact Or.inl (unposted.drafts header listed owned live)
  · intro keep
    apply List.sum_eq_zero
    intro value isValue
    obtain ⟨header, listed, rfl⟩ := List.mem_map.mp isValue
    rw [PostingTables.share, if_neg]
    intro counted
    rw [PostingTables.counts, Bool.and_eq_true, Bool.and_eq_true, Bool.or_eq_true,
      Bool.or_eq_true, decide_eq_true_eq, decide_eq_true_eq, Bool.not_eq_true'] at counted
    cases counted.2 with
    | inl owned =>
        have draft := (unposted.drafts header listed owned counted.1.1).1
        rw [draft] at counted
        simp at counted
    | inr answers =>
        cases against : header.against with
        | none =>
            rw [against] at answers
            cases answers
        | some key =>
            rw [against, Option.any_some, unposted.unanswered header listed key against] at answers
            cases answers

/-- Two live vouchers of a document are one. -/
theorem Sound.one (sound : Sound tables) {other : VoucherHeader} (listed : header ∈ tables.headers)
    (otherListed : other ∈ tables.headers) (owned : document.owns header = true)
    (otherOwned : document.owns other = true) (live : header.isDeleted = false)
    (otherLive : other.isDeleted = false) (stands : header.status ≠ .CANCELLED)
    (otherStands : other.status ≠ .CANCELLED) : header = other := by
  apply sound.eq_of_key listed otherListed
  by_contra apart
  have clear := sound.admitted header listed other otherListed apart
  cases document with
  | source companyId accYear doc =>
      rw [Document.owns, Bool.and_eq_true, Bool.and_eq_true, decide_eq_true_eq,
        decide_eq_true_eq, decide_eq_true_eq] at owned otherOwned
      obtain ⟨⟨company, year⟩, source⟩ := owned
      obtain ⟨⟨otherCompany, otherYear⟩, otherSource⟩ := otherOwned
      have unsourced := source_taken clear live otherLive stands otherStands
        (company.trans otherCompany.symm) (year.trans otherYear.symm)
        (source.trans otherSource.symm)
      rw [otherSource] at unsourced
      cases unsourced
  | voucher key =>
      rw [Document.owns, decide_eq_true_eq] at owned otherOwned
      exact apart (owned.trans otherOwned.symm)

variable {state : Standing} {facts : PostingFacts} {doc : VoucherLegSource}

/-- With no voucher of the document posted, nothing stands and nothing has moved. -/
theorem Stands.unmoved (stands : Stands document state)
    (nonePosted : ∀ header ∈ state.tables.headers, document.owns header = true →
      header.isDeleted = false → header.status ≠ .POSTED) (keep : LegKey → Bool) :
    state.tables.movement document keep = 0 := by
  rw [stands.moved keep, stands.nothing nonePosted, netOf_nil]

/-- Beside a draft of the document nothing of it is posted. -/
theorem Stands.nonePosted (stands : Stands document state) {draft : VoucherHeader}
    (listed : draft ∈ state.tables.headers) (owned : document.owns draft = true)
    (live : draft.isDeleted = false) (isDraft : draft.status = .DRAFT) :
    ∀ header ∈ state.tables.headers, document.owns header = true →
      header.isDeleted = false → header.status ≠ .POSTED := by
  intro header isListed isOwned isLive posted
  have same := stands.sound.one isListed listed isOwned owned isLive live (posted ▸ (by decide))
    (isDraft ▸ (by decide))
  rw [same, isDraft] at posted
  cases posted

theorem Books.others {booked : List LegEntry} (books : Books tables key booked after)
    {other : VoucherKey} (away : other ≠ key) : after.entries other = tables.entries other := by
  rw [books.entries other, if_neg away, List.append_nil]

/-! ## A posting -/

/-- A voucher of its own is posted only where no other of the document is live. -/
theorem Stands.fresh (stands : Stands document state) {new : VoucherHeader}
    (own : doc.header.target = none)
    (concerns : document.Concerns state.tables (.post facts doc))
    (isNew : new = newHeader facts doc state.tables.freshVoucherId)
    (headers : after.headers = state.tables.headers ++ [new])
    (admitted : ∀ held ∈ state.tables.headers, held.clash new = none)
    (books : Books state.tables new.key (postedEntries facts doc) after)
    (balanced : entryReading.Balanced (after.entries new.key)) :
    Stands document ⟨after, postedEntries facts doc⟩ := by
  obtain ⟨source, sourced, isDocument⟩ : ∃ source, doc.header.source = some source ∧
      document = .source doc.header.companyId doc.header.accYear source := by
    simpa only [Document.Concerns, own] using concerns
  have newOwned : document.owns new = true := by
    rw [isDocument, isNew]
    simp [Document.owns, newHeader, sourced]
  have newLive : new.isDeleted = false := by rw [isNew]; rfl
  have newPosted : new.status = .POSTED := by rw [isNew]; rfl
  have fresh : ∀ header ∈ state.tables.headers, header.key ≠ new.key := by
    intro header listed same
    have id : header.voucherId = new.voucherId := congrArg (·.voucherId) same
    apply state.tables.fresh_ne listed
    rw [id, isNew]
    rfl
  have kept : ∀ header ∈ state.tables.headers,
      after.entries header.key = state.tables.entries header.key :=
    fun header listed => books.others (fresh header listed)
  have newEntries : after.entries new.key = postedEntries facts doc := by
    rw [books.entries, if_pos rfl, stands.sound.entries_fresh fresh, List.nil_append]
  have cancelled : ∀ header ∈ state.tables.headers, document.owns header = true →
      header.isDeleted = false → header.status = .CANCELLED := by
    intro header listed owned live
    by_contra standing
    rw [isDocument, Document.owns, Bool.and_eq_true, Bool.and_eq_true, decide_eq_true_eq,
      decide_eq_true_eq, decide_eq_true_eq] at owned
    have newSource : new.source = some source := by
      rw [isNew]
      exact sourced
    have unsourced := source_taken (admitted header listed) live newLive standing
      (newPosted ▸ (by decide)) (by rw [isNew]; exact owned.1.1) (by rw [isNew]; exact owned.1.2)
      (owned.2.trans newSource.symm)
    rw [newSource] at unsourced
    cases unsourced
  constructor
  · exact stands.sound.inserted fresh headers books.rows kept balanced (by rw [isNew]; rfl)
      (by rw [isNew]; intro key against; cases against) admitted
  · intro header listed owned live
    rw [headers, List.mem_append, List.mem_singleton] at listed
    cases listed with
    | inl before => exact Or.inr (Or.inr (cancelled header before owned live))
    | inr isIt =>
        rw [isIt]
        exact Or.inr (Or.inl ⟨newPosted, newEntries⟩)
  · intro nonePosted
    have listed : new ∈ after.headers := by
      rw [headers]
      exact List.mem_append_right _ (List.mem_singleton_self new)
    exact absurd newPosted (nonePosted new listed newOwned newLive)
  · intro keep
    rw [movement_inserted stands.sound fresh headers kept, stands.unmoved, zero_add,
      share_owned newOwned newLive (Or.inl newPosted), newEntries]
    intro header listed owned live posted
    rw [cancelled header listed owned live] at posted
    cases posted

/-- A draft of the document posted: the legs go where there were none. -/
theorem Stands.into (stands : Stands document state) (listed : old ∈ state.tables.headers)
    (owned : document.owns old = true) (live : old.isDeleted = false) (draft : old.status = .DRAFT)
    (same : SameVoucher old new) (posted : new.status = .POSTED)
    (reversal : new.reversal = old.reversal) (headers : after.headers = state.tables.written new)
    (admitted : ∀ held ∈ state.tables.headers, held.key ≠ new.key → held.clash new = none)
    (books : Books state.tables new.key (postedEntries facts doc) after)
    (balanced : entryReading.Balanced (after.entries new.key)) :
    Stands document ⟨after, postedEntries facts doc⟩ := by
  have nonePosted := stands.nonePosted listed owned live draft
  have newOwned : document.owns new = true := (owns_same same).trans owned
  have newLive : new.isDeleted = false := same.deleted.trans live
  have kept : ∀ header ∈ state.tables.headers, header.key ≠ new.key →
      after.entries header.key = state.tables.entries header.key :=
    fun _ _ away => books.others away
  have noLegs : state.tables.entries old.key = [] := by
    rcases stands.states old listed owned live with isDraft | isPosted | isCancelled
    · exact isDraft.2
    · exact absurd isPosted.1 (nonePosted old listed owned live)
    · rw [draft] at isCancelled
      cases isCancelled
  have newEntries : after.entries new.key = postedEntries facts doc := by
    rw [books.entries, if_pos rfl, same.key, noLegs, List.nil_append]
  constructor
  · refine stands.sound.rewritten listed same headers admitted ?_ kept (fun _ => balanced) ?_
    · intro row isRow
      cases books.rows row isRow with
      | inl before => exact ⟨stands.sound.owned row before, stands.sound.formed row before⟩
      | inr ofNew => exact ⟨⟨old, listed, same.key.symm.trans ofNew.1.symm⟩, ofNew.2⟩
    · intro _
      rw [reversal]
      exact stands.sound.unreversed old listed (draft ▸ (by decide))
  · intro header isListed isOwned isLive
    rw [headers] at isListed
    cases PostingTables.mem_written isListed with
    | inl isNew =>
        rw [isNew]
        exact Or.inr (Or.inl ⟨posted, newEntries⟩)
    | inr before =>
        refine Or.inr (Or.inr ?_)
        by_contra standing
        have isOld := stands.sound.one before.1 listed isOwned owned isLive live standing
          (draft ▸ (by decide))
        exact before.2 (isOld ▸ same.key.symm)
  · intro noneAfter
    have again : new ∈ after.headers := by
      rw [headers]
      exact PostingTables.new_mem_written listed same.key
    exact absurd posted (noneAfter new again newOwned newLive)
  · intro keep
    rw [movement_rewritten stands.sound listed same headers kept, stands.unmoved nonePosted,
      share_draft draft, share_owned newOwned newLive (Or.inl posted), newEntries, sub_zero,
      zero_add]

theorem Stands.post (stands : Stands document state) {result : VoucherPostingResult}
    (concerns : document.Concerns state.tables (.post facts doc))
    (ok : postLegs facts doc state.tables = .ok (after, result)) :
    Stands document ⟨after, postedEntries facts doc⟩ := by
  cases postLegs_posts ok with
  | fresh new own isNew headers admitted books balanced =>
      exact stands.fresh own concerns isNew headers admitted books balanced
  | into voucherId old new target found draft same posted reversal headers admitted books
      balanced =>
      have holds : document.Holds state.tables ⟨voucherId, doc.header.accYear⟩ := by
        simpa only [Document.Concerns, target] using concerns
      obtain ⟨listed, _, live⟩ := PostingTables.header?_mem found
      exact stands.into listed (holds old found) live draft same posted reversal headers admitted
        books balanced

/-! ## An amend, and a reversal -/

/-- The voucher taken back to draft, without its legs. -/
theorem retire_ok (sound : Sound tables) (ok : retireForRestate key tables = (after, true)) :
    ∃ old, tables.header? key = some old ∧ old.status = .POSTED ∧
      after.headers = tables.written old.drafted ∧
      (∀ other, after.entries other = if other = key then [] else tables.entries other) ∧
      ∀ row ∈ after.rows, ∃ held ∈ tables.rows,
        row.voucherKey = held.voucherKey ∧ row.entry = held.entry := by
  rw [retireForRestate] at ok
  split at ok
  · cases ok
  · next old found =>
      obtain ⟨found, posted⟩ := Option.filter_eq_some_iff.mp found
      rw [decide_eq_true_eq] at posted
      obtain ⟨listed, atKey, live⟩ := PostingTables.header?_mem found
      cases ok
      refine ⟨old, found, posted, ?_,
        fun other => PostingTables.entries_retire key other _ _, ?_⟩
      · apply List.map_congr_left
        intro held isHeld
        by_cases same : held.key = key
        · have isOld := sound.eq_of_key isHeld listed (same.trans atKey.symm)
          subst isOld
          have again : held.key = held.drafted.key := rfl
          rw [if_pos ⟨same, live, posted⟩, if_pos again]
        · have away : held.key ≠ old.drafted.key := fun isOld => same (isOld.trans atKey)
          rw [if_neg fun both => same both.1, if_neg away]
      · intro row isRow
        obtain ⟨held, isHeld, rfl⟩ := List.mem_map.mp isRow
        refine ⟨held, isHeld, ?_⟩
        split
        · exact ⟨rfl, rfl⟩
        · exact ⟨rfl, rfl⟩

/-- A voucher back in draft takes no more of the indexes than it took posted. -/
theorem clash_drafted (posted : old.status = .POSTED) (clear : held.clash old = none) :
    held.clash old.drafted = none := by
  rw [clash_eq_none] at clear ⊢
  intro live oldLive company year
  have admits := clear live oldLive company year
  have standing : old.status ≠ .CANCELLED := posted ▸ (by decide)
  constructor
  · exact fun taken => taken.2.1 rfl
  · exact fun taken => taken.2.1 rfl
  · exact fun taken => admits.source ⟨taken.1, standing, taken.2.2⟩
  · exact fun taken => admits.refno ⟨taken.1, standing, taken.2.2⟩

theorem Stands.retire (stands : Stands document state) (holds : document.Holds state.tables key)
    (ok : retireForRestate key state.tables = (after, true)) : Stands document ⟨after, []⟩ := by
  obtain ⟨old, found, posted, headers, entries, rows⟩ := retire_ok stands.sound ok
  obtain ⟨listed, atKey, live⟩ := PostingTables.header?_mem found
  have owned := holds old found
  have same : SameVoucher old old.drafted := ⟨rfl, rfl, rfl, rfl, rfl⟩
  have kept : ∀ header ∈ state.tables.headers, header.key ≠ old.key →
      after.entries header.key = state.tables.entries header.key := by
    intro header _ away
    rw [entries, if_neg (atKey ▸ away)]
  have oldLegs : state.tables.entries old.key = state.legs := by
    rcases stands.states old listed owned live with isDraft | isPosted | isCancelled
    · rw [posted] at isDraft
      cases isDraft.1
    · exact isPosted.2
    · rw [posted] at isCancelled
      cases isCancelled
  constructor
  · refine stands.sound.rewritten listed same headers ?_ ?_ kept
      (fun isPosted => by cases isPosted) ?_
    · intro held isHeld away
      exact clash_drafted posted (stands.sound.admitted held isHeld old listed away)
    · intro row isRow
      obtain ⟨held, isHeld, ofKey, entry⟩ := rows row isRow
      rw [ofKey, entry]
      exact ⟨stands.sound.owned held isHeld, stands.sound.formed held isHeld⟩
    · intro _
      exact stands.sound.unreversed old listed (posted ▸ (by decide))
  · intro header isListed isOwned isLive
    rw [headers] at isListed
    cases PostingTables.mem_written isListed with
    | inl isNew =>
        rw [isNew]
        exact Or.inl ⟨rfl, (entries old.key).trans (if_pos atKey)⟩
    | inr before =>
        refine Or.inr (Or.inr ?_)
        by_contra standing
        have isOld := stands.sound.one before.1 listed isOwned owned isLive live standing
          (posted ▸ (by decide))
        exact before.2 (isOld ▸ rfl)
  · exact fun _ => rfl
  · intro keep
    have draftShare : after.share document keep old.drafted = 0 := share_draft rfl
    rw [movement_rewritten stands.sound listed same headers kept, stands.moved,
      share_owned owned live (Or.inl posted), oldLegs, draftShare, sub_self, zero_add, netOf_nil]

/-- The tables between the original's cancelling and the mirror's writing. -/
private def cancelledIn (tables : PostingTables) (linked : VoucherHeader) : PostingTables :=
  { tables with headers := tables.written linked }

theorem cancelledIn_sound (sound : Sound tables) (listed : original ∈ tables.headers)
    (same : SameVoucher original linked) (cancelled : linked.status = .CANCELLED)
    (admitted : ∀ held ∈ tables.headers, held.key ≠ linked.key → held.clash linked = none) :
    Sound (cancelledIn tables linked) := by
  refine sound.rewritten listed same rfl admitted ?_ (fun _ _ _ => rfl) ?_ ?_
  · exact fun row isRow => ⟨sound.owned row isRow, sound.formed row isRow⟩
  · intro posted
    rw [cancelled] at posted
    cases posted
  · exact fun standing => absurd cancelled standing

variable {mirror : VoucherHeader} {typeId : ℕ}

/-- The mirror's key is none the tables have. -/
theorem mirror_fresh (listed : original ∈ tables.headers) (same : SameVoucher original linked)
    (away : ∀ held ∈ tables.headers, held.voucherId ≠ mirror.voucherId) :
    ∀ header ∈ (cancelledIn tables linked).headers, header.key ≠ mirror.key := by
  intro header isListed isMirror
  have id : header.voucherId = mirror.voucherId := congrArg (·.voucherId) isMirror
  cases PostingTables.mem_written isListed with
  | inl isLinked =>
      apply away original listed
      rw [← id, isLinked]
      exact congrArg (·.voucherId) same.key.symm
  | inr before => exact away header before.1 id

/-- The mirror books the other side of what the original books. -/
theorem mirror_entries (between : Sound (cancelledIn tables linked))
    (listed : original ∈ tables.headers) (same : SameVoucher original linked)
    (away : ∀ held ∈ tables.headers, held.voucherId ≠ mirror.voucherId)
    (books : Books tables mirror.key ((tables.entries original.key).map LegEntry.mirror) after) :
    after.entries mirror.key = (tables.entries original.key).map LegEntry.mirror := by
  have unheld : tables.entries mirror.key = [] :=
    (between.entries_fresh (mirror_fresh listed same away) :
      (cancelledIn tables linked).entries mirror.key = [])
  rw [books.entries, if_pos rfl, unheld, List.nil_append]

theorem Sound.reversed (sound : Sound tables) {reversed : Reversed}
    (reverses : Reverses key tables after reversed) : Sound after := by
  obtain ⟨original, linked, mirror, found, _, _, same, cancelled, _, _, answers, _,
    unreversed, _, _, away, headers, linkedIn, mirrorIn, books, balanced⟩ := reverses.whole
  obtain ⟨listed, atKey, _⟩ := PostingTables.header?_mem found
  have between := cancelledIn_sound sound listed same cancelled linkedIn
  have fresh := mirror_fresh listed same away
  refine between.inserted fresh headers books.rows ?_ balanced unreversed ?_ mirrorIn
  · intro header isListed
    exact books.others (fresh header isListed)
  · intro other answered
    rw [answers] at answered
    refine ⟨linked, PostingTables.new_mem_written listed same.key, ?_⟩
    rw [← Option.some.inj answered, same.key, atKey]

theorem Stands.reverse (stands : Stands document state) {reversed : Reversed}
    (holds : document.Holds state.tables key) (reverses : Reverses key state.tables after reversed) :
    Stands document ⟨after, []⟩ := by
  have soundAfter := stands.sound.reversed reverses
  obtain ⟨original, linked, mirror, found, _, uncancelled, same, cancelled, _, _, answers,
    unsourced, _, posted, alive, away, headers, linkedIn, _, books, _⟩ := reverses.whole
  obtain ⟨listed, atKey, live⟩ := PostingTables.header?_mem found
  have owned := holds original found
  have between := cancelledIn_sound stands.sound listed same cancelled linkedIn
  have linkedListed : linked ∈ (cancelledIn state.tables linked).headers :=
    PostingTables.new_mem_written listed same.key
  have linkedOwned : document.owns linked = true := (owns_same same).trans owned
  have linkedLive : linked.isDeleted = false := same.deleted.trans live
  have fresh := mirror_fresh listed same away
  have mirrorUnowned : document.owns mirror = false := by
    cases document with
    | source companyId accYear doc => simp [Document.owns, unsourced]
    | voucher own =>
        rw [Document.owns, decide_eq_true_eq] at linkedOwned
        rw [Document.owns, decide_eq_false_iff_not]
        exact fun isOwn => fresh linked linkedListed (linkedOwned.trans isOwn.symm)
  rw [← atKey] at books
  have mirrorShare (keep : LegKey → Bool) : after.share document keep mirror =
      -netOf keep (state.tables.entries original.key) := by
    have ownsKey : after.ownsKey document key = true := by
      refine ownsKey_iff.mpr ⟨linked, ?_, same.key.trans atKey, linkedOwned⟩
      rw [headers]
      exact List.mem_append_left _ linkedListed
    have counted : after.counts document mirror = true := by
      rw [PostingTables.counts, alive, posted, answers, Option.any_some, ownsKey]
      simp
    rw [PostingTables.share, if_pos counted, mirror_entries between listed same away books,
      netOf_mirror]
  have kept : ∀ header ∈ (cancelledIn state.tables linked).headers,
      after.entries header.key = (cancelledIn state.tables linked).entries header.key :=
    fun header isListed => books.others (fresh header isListed)
  constructor
  · exact soundAfter
  · intro header isListed isOwned isLive
    rw [headers, List.mem_append, List.mem_singleton] at isListed
    cases isListed with
    | inr isMirror =>
        rw [isMirror, mirrorUnowned] at isOwned
        cases isOwned
    | inl isWritten =>
        refine Or.inr (Or.inr ?_)
        cases PostingTables.mem_written isWritten with
        | inl isLinked =>
            rw [isLinked]
            exact cancelled
        | inr before =>
            by_contra standing
            have isOriginal := stands.sound.one before.1 listed isOwned owned isLive live standing
              uncancelled
            exact before.2 (isOriginal ▸ same.key.symm)
  · exact fun _ => rfl
  · intro keep
    have linkedShare : (cancelledIn state.tables linked).share document keep linked =
        netOf keep (state.tables.entries original.key) := by
      rw [share_owned linkedOwned linkedLive (Or.inr cancelled), same.key]
      rfl
    have before : (cancelledIn state.tables linked).movement document keep =
        state.tables.movement document keep - state.tables.share document keep original +
          (cancelledIn state.tables linked).share document keep linked :=
      movement_rewritten stands.sound listed same rfl fun _ _ _ => rfl
    rw [movement_inserted between fresh headers kept, before, linkedShare, mirrorShare, netOf_nil]
    rcases stands.states original listed owned live with isDraft | isPosted | isCancelled
    · rw [stands.unmoved (stands.nonePosted listed owned live isDraft.1), share_draft isDraft.1,
        isDraft.2]
      simp
    · rw [stands.moved, share_owned owned live (Or.inl isPosted.1), isPosted.2]
      ring
    · exact absurd isCancelled uncancelled

/-- A reversal that writes nothing leaves the tables as they were. -/
theorem reverseLegs_none (ok : reverseLegs facts key reason tables = .ok (after, none)) :
    after = tables := by
  rw [reverseLegs] at ok
  split at ok
  · cases ok
    rfl
  · split at ok
    · cases ok
      rfl
    · obtain ⟨left, _, ok⟩ := Fold.bind_eq_ok ok
      split at ok
      · cases ok
      · obtain ⟨opened, _, ok⟩ := Fold.bind_eq_ok ok
        obtain ⟨written, _, ok⟩ := Fold.bind_eq_ok ok
        obtain ⟨linked, _, ok⟩ := Fold.bind_eq_ok ok
        cases ok

/-! ## A whole run -/

/-- One call keeps what stands in step with the movement. -/
theorem Stands.run {op : DocumentOp} (stands : Stands document state)
    (concerns : document.Concerns state.tables op) : Stands document (op.run state) := by
  cases op with
  | post facts doc =>
      rw [DocumentOp.run]
      split
      · next after result ok => exact stands.post concerns ok
      · exact stands
  | retire key =>
      rw [DocumentOp.run]
      split
      · next after ok => exact stands.retire concerns ok
      · exact stands
  | reverse facts key reason =>
      rw [DocumentOp.run]
      split
      · next after reversed ok => exact stands.reverse concerns (reverseLegs_reverses ok)
      · next after ok =>
          rw [reverseLegs_none ok]
          exact stands
      · exact stands

theorem DocumentRun.stands {start finish : Standing} {ops : List DocumentOp}
    (ran : DocumentRun document start ops finish) (stands : Stands document start) :
    Stands document finish := by
  induction ran with
  | nil state => exact stands
  | cons concerns _ ih => exact ih (stands.run concerns)

/-! ## A posted voucher reversed -/

/-- A posted voucher is not passed over. -/
theorem reverseLegs_some (found : tables.header? key = some original)
    (posted : original.status = .POSTED) (unreversed : original.reversal = none) :
    reverseLegs facts key reason tables ≠ .ok (after, none) := by
  intro ok
  rw [reverseLegs, found] at ok
  simp only at ok
  split at ok
  · next passed =>
      rw [unreversed, posted] at passed
      simp at passed
  · obtain ⟨left, _, ok⟩ := Fold.bind_eq_ok ok
    split at ok
    · cases ok
    · obtain ⟨opened, _, ok⟩ := Fold.bind_eq_ok ok
      obtain ⟨written, _, ok⟩ := Fold.bind_eq_ok ok
      obtain ⟨linked, _, ok⟩ := Fold.bind_eq_ok ok
      cases ok

/-- What a reversal has done: mirror and original net to nothing on every key, the mirror
balances, and a second reversal writes nothing. -/
structure Undone (key mirror : VoucherKey) (tables after : PostingTables) : Prop where
  kept : after.entries key = tables.entries key
  nets : ∀ keep, netOf keep (after.entries key) + netOf keep (after.entries mirror) = 0
  balanced : entryReading.Balanced (after.entries mirror)
  again : ∀ facts reason, reverseLegs facts key reason after = .ok (after, none)

theorem Reverses.undone (sound : Sound tables) {reversed : Reversed}
    (reverses : Reverses key tables after reversed) :
    Undone key ⟨reversed.voucherId, key.accYear⟩ tables after := by
  have soundAfter := sound.reversed reverses
  obtain ⟨original, linked, mirror, found, _, _, same, cancelled, _, mirrorKey, _, _, _, _, _,
    away, headers, linkedIn, _, books, balanced⟩ := reverses.whole
  obtain ⟨listed, atKey, live⟩ := PostingTables.header?_mem found
  have between := cancelledIn_sound sound listed same cancelled linkedIn
  have linkedListed : linked ∈ (cancelledIn tables linked).headers :=
    PostingTables.new_mem_written listed same.key
  have apart : key ≠ mirror.key := by
    rw [← atKey, ← same.key]
    exact mirror_fresh listed same away linked linkedListed
  have kept : after.entries key = tables.entries key := books.others apart
  rw [← mirrorKey]
  refine ⟨kept, ?_, balanced, ?_⟩
  · intro keep
    rw [← atKey] at books
    rw [kept, mirror_entries between listed same away books, netOf_mirror, atKey, add_neg_cancel]
  · intro facts reason
    have isLinked : after.header? key = some linked := by
      have inAfter : linked ∈ after.headers := by
        rw [headers]
        exact List.mem_append_left _ linkedListed
      have foundLinked := soundAfter.header? inAfter (same.deleted.trans live)
      rw [same.key, atKey] at foundLinked
      exact foundLinked
    rw [reverseLegs, isLinked]
    exact if_pos (Or.inr cancelled)

/-- The numbers drawn for a mirror are no voucher's. -/
def NumbersFree (facts : PostingFacts) (typeId : ℕ) (tables : PostingTables) : Prop :=
  ∀ held ∈ tables.headers, (held.voucherTypeId = typeId → held.voucherNo ≠ some facts.lastNo) ∧
    held.voucherSlno ≠ some facts.slno

theorem updateHeader_admitted
    (admitted : ∀ held ∈ tables.headers, held.key ≠ new.key → held.clash new = none)
    (balanced : new.status = .POSTED → entryReading.Balanced (tables.entries new.key)) :
    tables.updateHeader new = .ok { tables with headers := tables.written new } := by
  have clear : (tables.headers.filter fun held => held.key ≠ new.key).findSome? (fun held =>
      held.clash new) = none := by
    rw [List.findSome?_eq_none_iff]
    intro held listed
    obtain ⟨isHeld, away⟩ := List.mem_filter.mp listed
    exact admitted held isHeld (of_decide_eq_true away)
  have checked : tables.checkBalanced new = .ok () :=
    if_neg fun unbalanced => unbalanced.2 (balanced unbalanced.1)
  rw [PostingTables.updateHeader, clear]
  simp only [checked, bind, Except.bind]
  rfl

theorem insertHeader_admitted {new : VoucherHeader}
    (admitted : ∀ held ∈ tables.headers, held.clash new = none) :
    tables.insertHeader new = .ok { tables with headers := tables.headers ++ [new] } := by
  rw [PostingTables.insertHeader, List.findSome?_eq_none_iff.mpr admitted]

theorem insertRows_admitted {header : VoucherHeader} {rows : List VoucherRow}
    (formed : ∀ row ∈ rows, row.entry.WellFormed)
    (unheld : ∀ row ∈ rows, tables.liveRows row.voucherKey = [])
    (balanced : entryReading.Balanced
      (PostingTables.entries { tables with rows := tables.rows ++ rows } header.key)) :
    tables.insertRows header rows = .ok { tables with rows := tables.rows ++ rows } := by
  have clear : rows.findSome? tables.rowClash = none := by
    rw [List.findSome?_eq_none_iff]
    intro row listed
    obtain ⟨positive, apart, paired⟩ := formed row listed
    rw [PostingTables.rowClash, if_neg (not_le.mpr positive), if_neg apart,
      if_neg (not_not.mpr paired), unheld row listed]
    rfl
  have checked : PostingTables.checkBalanced { tables with rows := tables.rows ++ rows } header =
      .ok () :=
    if_neg fun unbalanced => unbalanced.2 balanced
  rw [PostingTables.insertRows, clear]
  simp only [checked, bind, Except.bind]

/-- A posted voucher cancelled takes no more of the indexes than it took. -/
theorem clash_cancelled (posted : old.status = .POSTED) (clear : held.clash old = none) :
    held.clash (old.cancelled reason) = none := by
  rw [clash_eq_none] at clear ⊢
  intro live oldLive company year
  have admits := clear live oldLive company year
  have numbered : old.status ≠ .DRAFT := posted ▸ (by decide)
  constructor
  · exact fun taken => admits.number ⟨taken.1, numbered, taken.2.2⟩
  · exact fun taken => admits.slno ⟨taken.1, numbered, taken.2.2⟩
  · exact fun taken => taken.2.1 rfl
  · exact fun taken => taken.2.1 rfl

/-- A mirror has no source and no reference, so only its numbers could clash. -/
theorem clash_mirror {voucherId : Uuid}
    (free : (held.voucherTypeId = typeId → held.voucherNo ≠ some facts.lastNo) ∧
      held.voucherSlno ≠ some facts.slno) :
    held.clash (mirrorHeader facts typeId reason original voucherId) = none := by
  rw [clash_eq_none]
  intro _ _ _ _
  constructor
  · rintro ⟨_, _, _, ofType, same, _⟩
    exact free.1 ofType same
  · rintro ⟨_, _, same, _⟩
    exact free.2 same
  · rintro ⟨_, _, _, given⟩
    cases given
  · rintro ⟨_, _, _, _, _, _, given⟩
    cases given

/-- A posted voucher is reversed, with the type of reversals there and numbers that are free. -/
theorem reverseLegs_writes (sound : Sound tables) (found : tables.header? key = some original)
    (posted : original.status = .POSTED) (typed : facts.reversalTypeId = some typeId)
    (free : NumbersFree facts typeId tables) :
    ∃ after reversed, reverseLegs facts key reason tables = .ok (after, some reversed) := by
  obtain ⟨listed, atKey, live⟩ := PostingTables.header?_mem found
  have unreversed := sound.unreversed original listed (posted ▸ (by decide))
  have standing : ¬(original.reversal.isSome ∨ original.status = .CANCELLED) := by
    rw [unreversed, posted]
    decide
  have clear : ∀ held ∈ tables.headers, held.key ≠ (original.cancelled reason).key →
      held.clash (original.cancelled reason) = none :=
    fun held isHeld away => clash_cancelled posted (sound.admitted held isHeld original listed away)
  have left := updateHeader_admitted clear (fun isPosted => by cases isPosted)
  rw [reverseLegs, found]
  simp only
  rw [if_neg standing, left, typed]
  simp only [bind, Except.bind]
  have fresh : ∀ held ∈ tables.headers, held.voucherId ≠ PostingTables.freshVoucherId
      ⟨tables.written (original.cancelled reason), tables.rows, tables.tenders⟩ := by
    intro held isHeld
    rw [PostingTables.freshVoucherId_written]
    exact tables.fresh_ne isHeld
  generalize PostingTables.freshVoucherId
    ⟨tables.written (original.cancelled reason), tables.rows, tables.tenders⟩ = voucherId at fresh ⊢
  have ofYear : original.accYear = key.accYear := congrArg (·.accYear) atKey
  have mirrorIn : ∀ held ∈ tables.written (original.cancelled reason),
      held.clash (mirrorHeader facts typeId reason original voucherId) = none := by
    intro held isWritten
    cases PostingTables.mem_written isWritten with
    | inl isCancelled =>
        rw [isCancelled]
        exact clash_mirror (free original listed)
    | inr before => exact clash_mirror (free held before.1)
  have opened := @insertHeader_admitted
    ⟨tables.written (original.cancelled reason), tables.rows, tables.tenders⟩ _ mirrorIn
  rw [opened]
  simp only
  have ofMirror := @mirrorRows_key tables facts typeId (reversalRemarks original reason)
    voucherId key
  rw [← ofYear] at ofMirror
  have formed : ∀ row ∈ (tables.liveRows key).map
      (mirrorRow facts typeId (reversalRemarks original reason) voucherId),
      row.entry.WellFormed := by
    intro row isRow
    obtain ⟨held, isLive, rfl⟩ := List.mem_map.mp isRow
    obtain ⟨positive, apart, paired⟩ := sound.formed held (List.mem_filter.mp isLive).1
    exact ⟨positive, apart, paired⟩
  have unheld : tables.liveRows ⟨voucherId, original.accYear⟩ = [] := by
    have noEntries : tables.entries ⟨voucherId, original.accYear⟩ = [] :=
      sound.entries_fresh fun header isHeld same =>
        fresh header isHeld (congrArg (·.voucherId) same)
    exact List.map_eq_nil_iff.mp noEntries
  have balanced : entryReading.Balanced (PostingTables.entries
      ⟨tables.written (original.cancelled reason) ++
        [mirrorHeader facts typeId reason original voucherId],
        tables.rows ++ (tables.liveRows key).map
          (mirrorRow facts typeId (reversalRemarks original reason) voucherId),
        tables.tenders⟩ ⟨voucherId, original.accYear⟩) := by
    have booked := sound.balanced original listed posted
    rw [PostingTables.entries_append ofMirror, if_pos rfl, mirrorRows_entries,
      PostingTables.entries, unheld, List.map_nil, List.nil_append,
      DoubleEntry.Reading.balanced_iff, mirror_net]
    rw [DoubleEntry.Reading.balanced_iff, atKey] at booked
    rw [booked, neg_zero]
  have written := @insertRows_admitted
    ⟨tables.written (original.cancelled reason) ++
      [mirrorHeader facts typeId reason original voucherId], tables.rows, tables.tenders⟩
    (mirrorHeader facts typeId reason original voucherId) _ formed
    (fun row isRow => (ofMirror row isRow).1 ▸ unheld) balanced
  have sameLegs : PostingTables.liveRows ⟨tables.written (original.cancelled reason) ++
      [mirrorHeader facts typeId reason original voucherId], tables.rows, tables.tenders⟩ key =
        tables.liveRows key := rfl
  have sameId : (mirrorHeader facts typeId reason original voucherId).voucherId = voucherId := rfl
  rw [sameLegs, sameId, written]
  simp only
  have linkedIn : ∀ held ∈ tables.written (original.cancelled reason) ++
      [mirrorHeader facts typeId reason original voucherId], held.key ≠ original.key →
        held.clash ((original.cancelled reason).reversedBy
          (mirrorHeader facts typeId reason original voucherId).key) = none := by
    intro held isHeld away
    rw [List.mem_append, List.mem_singleton] at isHeld
    cases isHeld with
    | inl isWritten =>
        cases PostingTables.mem_written isWritten with
        | inl isCancelled =>
            rw [isCancelled] at away
            exact absurd rfl away
        | inr before => exact clear held before.1 before.2
    | inr isMirror =>
        rw [isMirror]
        exact clash_comm (clash_mirror (free original listed))
  rw [updateHeader_admitted linkedIn (fun isPosted => by cases isPosted)]
  exact ⟨_, _, rfl⟩

/-- A posted voucher is reversed; the mirror undoes it on every key, balances, and is written
once.  Through every run of calls for a document the tables stay sound, and its movement is that
of the legs last posted or restated, none once they are reversed. -/
theorem reversal_undoes_posting :
    (∀ {tables : PostingTables} {facts : PostingFacts} {key : VoucherKey} {reason : String}
        {original : VoucherHeader} {typeId : ℕ}, Sound tables →
      tables.header? key = some original → original.status = .POSTED →
      facts.reversalTypeId = some typeId → NumbersFree facts typeId tables →
        ∃ after reversed, reverseLegs facts key reason tables = .ok (after, some reversed)) ∧
    (∀ {tables after : PostingTables} {facts : PostingFacts} {key : VoucherKey} {reason : String}
        {original : VoucherHeader} {result : Option Reversed}, Sound tables →
      tables.header? key = some original → original.status = .POSTED →
      reverseLegs facts key reason tables = .ok (after, result) →
        ∃ reversed, result = some reversed ∧
          Undone key ⟨reversed.voucherId, key.accYear⟩ tables after) ∧
    ∀ {document : Document} {tables : PostingTables} {ops : List DocumentOp} {finish : Standing},
      Unposted document tables → DocumentRun document ⟨tables, []⟩ ops finish →
        Sound finish.tables ∧
          ∀ keep, finish.tables.movement document keep = netOf keep finish.legs := by
  refine ⟨?_, ?_, ?_⟩
  · intro tables facts key reason original typeId sound found posted typed free
    exact reverseLegs_writes sound found posted typed free
  · intro tables after facts key reason original result sound found posted ok
    cases result with
    | some reversed =>
        exact ⟨reversed, rfl, (reverseLegs_reverses ok).undone sound⟩
    | none =>
        obtain ⟨listed, _, _⟩ := PostingTables.header?_mem found
        have unreversed := sound.unreversed original listed (posted ▸ (by decide))
        exact absurd ok (reverseLegs_some found posted unreversed)
  · intro document tables ops finish unposted ran
    have stands := ran.stands unposted.stands
    exact ⟨stands.sound, stands.moved⟩

/-! ## A bill posted, amended and cancelled -/

private def billDoc : SourceDoc := ⟨"SALES", "SALE_BILL", 7⟩

private def billLeg (ledgerId : Uuid) (drCr : DrCr) (amount : Decimal) : VoucherLeg :=
  ⟨none, some ledgerId, drCr, amount, none, none, none, none, none, none, none, none, none⟩

/-- A bill of this amount to party 5, posted anew or into the voucher it amends. -/
private def bill (amount : Decimal) (restateVoucherId : Option Uuid) : VoucherLegSource :=
  { header := ⟨1, 1, none, "2026-2027", 3, "2026-09-15", some billDoc, none, none, none, none,
      amount, 0, some 5, 2, none, none, none, none, none, restateVoucherId, none⟩
    legs := [billLeg 5 .DR amount, billLeg 8 .CR amount]
    bankTender := none
    deferred := false }

private def drawn (number : ℕ) : PostingFacts :=
  ⟨⟨[], []⟩, fun _ _ _ => none, some 90, number, number, "bill"⟩

private def billKey : VoucherKey := ⟨1, "2026-2027"⟩

private def billDocument : Document := .source 1 "2026-2027" billDoc

private def amended : List DocumentOp :=
  [.post (drawn 1) (bill 100 none), .retire billKey, .post (drawn 2) (bill 120 (some 1))]

private def cancelled : List DocumentOp :=
  amended ++ [.reverse (drawn 3) billKey "returned", .reverse (drawn 4) billKey "again"]

private def ranBy (ops : List DocumentOp) : Standing :=
  ops.foldl DocumentOp.run ⟨⟨[], [], []⟩, []⟩

private theorem no_bill : Unposted billDocument ⟨[], [], []⟩ := by
  refine ⟨sound_empty, ?_, ?_⟩
  · intro header listed
    cases listed
  · intro header listed
    cases listed

theorem holds_of_all (all : (tables.header? key).all document.owns = true) :
    document.Holds tables key := by
  intro header found
  rw [found] at all
  exact all

private theorem amended_ran :
    DocumentRun billDocument ⟨⟨[], [], []⟩, []⟩ amended (ranBy amended) := by
  refine .cons ⟨billDoc, rfl, rfl⟩ (.cons ?_ (.cons ?_ (.nil _)))
  · exact holds_of_all (by decide +kernel)
  · exact holds_of_all (by decide +kernel)

private theorem cancelled_ran :
    DocumentRun billDocument ⟨⟨[], [], []⟩, []⟩ cancelled (ranBy cancelled) := by
  refine .cons ⟨billDoc, rfl, rfl⟩ (.cons ?_ (.cons ?_ (.cons ?_ (.cons ?_ (.nil _)))))
  · exact holds_of_all (by decide +kernel)
  · exact holds_of_all (by decide +kernel)
  · exact holds_of_all (by decide +kernel)
  · exact holds_of_all (by decide +kernel)

theorem bill_reversed :
    (∃ after reversed, reverseLegs (drawn 3) billKey "returned" (ranBy amended).tables =
        .ok (after, some reversed) ∧
      Undone billKey ⟨reversed.voucherId, "2026-2027"⟩ (ranBy amended).tables after) ∧
    ∀ keep, (ranBy cancelled).tables.movement billDocument keep = 0 := by
  obtain ⟨writes, undoes, runs⟩ := reversal_undoes_posting
  have sound := (runs no_bill amended_ran).1
  have stands : ((ranBy amended).tables.header? billKey).any (·.status = .POSTED) = true := by
    decide +kernel
  obtain ⟨original, found, posted⟩ := (Option.any_eq_true _ _).mp stands
  rw [decide_eq_true_eq] at posted
  have free : NumbersFree (drawn 3) 90 (ranBy amended).tables := by
    unfold NumbersFree
    decide +kernel
  obtain ⟨after, reversed, ok⟩ := @writes _ (drawn 3) billKey "returned" _ 90 sound found posted
    rfl free
  obtain ⟨again, same, undone⟩ := undoes sound found posted ok
  cases same
  refine ⟨⟨after, reversed, ok, undone⟩, ?_⟩
  intro keep
  have nothing : (ranBy cancelled).legs = [] := by
    decide +kernel
  rw [(runs no_bill cancelled_ran).2 keep, nothing, netOf_nil]

end ErpServer.Posting
