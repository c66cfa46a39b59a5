import ErpServer.Posting.Reversed

/-!
# The trial balance

Whatever is posted, amended and reversed, for whichever documents and in whatever order, the
books that are left balance as a whole, and a document has one voucher that stands.
-/

namespace ErpServer.Posting

open Lib

/-- What the books count, voucher by voucher: the legs of the posted and the cancelled. -/
def PostingTables.booked (tables : PostingTables) : List LegEntry :=
  (tables.headers.filter fun header => !header.isDeleted && header.status ≠ .DRAFT).flatMap
    fun header => tables.entries header.key

/-- Sound tables in which a cancelled voucher balances as it did when it was posted. -/
structure BooksBalance (tables : PostingTables) : Prop where
  sound : Sound tables
  booked : ∀ header ∈ tables.headers, header.status ≠ .DRAFT →
    entryReading.Balanced (tables.entries header.key)

variable {tables after : PostingTables}

/-- Voucher by voucher the two sides agree, and so they do in all. -/
theorem BooksBalance.trial (balance : BooksBalance tables) :
    entryReading.Balanced tables.booked := by
  rw [DoubleEntry.Reading.balanced_iff, PostingTables.booked, DoubleEntry.Reading.net_flatMap]
  apply List.sum_eq_zero
  intro net isNet
  obtain ⟨header, counted, rfl⟩ := List.mem_map.mp isNet
  obtain ⟨listed, stands⟩ := List.mem_filter.mp counted
  rw [Bool.and_eq_true, decide_eq_true_eq] at stands
  exact entryReading.balanced_iff.mp (balance.booked header listed stands.2)

/-- A header rewritten as the same voucher leaves the legs of the others alone. -/
theorem BooksBalance.rewritten (balance : BooksBalance tables) {old new : VoucherHeader}
    (listed : old ∈ tables.headers) (same : SameVoucher old new)
    (headers : after.headers = tables.written new)
    (admitted : ∀ held ∈ tables.headers, held.key ≠ new.key → held.clash new = none)
    (rows : ∀ row ∈ after.rows, (∃ header ∈ tables.headers, header.key = row.voucherKey) ∧
      row.entry.WellFormed)
    (kept : ∀ header ∈ tables.headers, header.key ≠ new.key →
      after.entries header.key = tables.entries header.key)
    (balanced : new.status ≠ .DRAFT → entryReading.Balanced (after.entries new.key))
    (unreversed : new.reversal = none) : BooksBalance after := by
  constructor
  · exact balance.sound.rewritten listed same headers admitted rows kept
      (fun posted => balanced (posted ▸ (by decide))) fun _ => unreversed
  · intro header isListed booked
    rw [headers] at isListed
    cases PostingTables.mem_written isListed with
    | inl isNew =>
        rw [isNew] at booked ⊢
        exact balanced booked
    | inr held =>
        rw [kept header held.1 held.2]
        exact balance.booked header held.1 booked

theorem BooksBalance.posted (balance : BooksBalance tables) {facts : PostingFacts}
    {doc : VoucherLegSource} (posts : Posts facts doc tables after) : BooksBalance after := by
  have sound := balance.sound
  cases posts with
  | fresh new own isNew headers admitted books balanced =>
      have fresh : ∀ header ∈ tables.headers, header.key ≠ new.key := by
        intro header listed same
        have id : header.voucherId = new.voucherId := congrArg (·.voucherId) same
        apply tables.fresh_ne listed
        rw [id, isNew]
        rfl
      have kept : ∀ header ∈ tables.headers,
          after.entries header.key = tables.entries header.key :=
        fun header listed => books.others (fresh header listed)
      constructor
      · exact sound.inserted fresh headers books.rows kept balanced (by rw [isNew]; rfl)
          (by rw [isNew]; nofun) admitted
      · intro header listed booked
        rw [headers, List.mem_append, List.mem_singleton] at listed
        cases listed with
        | inl held =>
            rw [kept header held]
            exact balance.booked header held booked
        | inr isIt =>
            rw [isIt]
            exact balanced
  | into voucherId old new target found draft same posted reversal headers admitted books
      balanced =>
      obtain ⟨listed, _, _⟩ := PostingTables.header?_mem found
      apply balance.rewritten listed same headers admitted
      · intro row isRow
        cases books.rows row isRow with
        | inl before => exact ⟨sound.owned row before, sound.formed row before⟩
        | inr ofNew => exact ⟨⟨old, listed, same.key.symm.trans ofNew.1.symm⟩, ofNew.2⟩
      · exact fun _ _ away => books.others away
      · exact fun _ => balanced
      · rw [reversal]
        exact sound.unreversed old listed (draft ▸ (by decide))

theorem BooksBalance.retired (balance : BooksBalance tables) {key : VoucherKey}
    (ok : retireForRestate key tables = (after, true)) : BooksBalance after := by
  have sound := balance.sound
  obtain ⟨old, found, posted, headers, entries, rows⟩ := retire_ok sound ok
  obtain ⟨listed, atKey, _⟩ := PostingTables.header?_mem found
  have same : SameVoucher old old.drafted := ⟨rfl, rfl, rfl, rfl, rfl⟩
  apply balance.rewritten listed same headers
  · intro held isHeld away
    exact clash_drafted posted (sound.admitted held isHeld old listed away)
  · intro row isRow
    obtain ⟨held, isHeld, ofKey, entry⟩ := rows row isRow
    rw [ofKey, entry]
    exact ⟨sound.owned held isHeld, sound.formed held isHeld⟩
  · intro header _ away
    rw [entries, if_neg (atKey ▸ away)]
  · exact fun booked => absurd rfl booked
  · exact sound.unreversed old listed (posted ▸ (by decide))

/-- The mirror balances, so what it mirrors does. -/
theorem BooksBalance.reversed (balance : BooksBalance tables) {key : VoucherKey}
    {reversed : Reversed} (reverses : Reverses key tables after reversed) : BooksBalance after := by
  have undone := reverses.undone balance.sound
  obtain ⟨original, linked, mirror, found, _, _, same, cancelled, _, mirrorKey, _, _, _, _, _,
    away, headers, _, _, books, balanced⟩ := reverses.whole
  obtain ⟨listed, atKey, _⟩ := PostingTables.header?_mem found
  refine ⟨balance.sound.reversed reverses, fun header isListed booked => ?_⟩
  rw [headers, List.mem_append, List.mem_singleton] at isListed
  cases isListed with
  | inr isMirror =>
      rw [isMirror]
      exact balanced
  | inl before =>
      cases PostingTables.mem_written before with
      | inl isLinked =>
          have nets := undone.nets fun _ => true
          rw [← mirrorKey, netOf, netOf, List.filter_true, List.filter_true,
            entryReading.balanced_iff.mp balanced, add_zero] at nets
          rw [isLinked, same.key, atKey]
          exact entryReading.balanced_iff.mpr nets
      | inr held =>
          have apart : header.key ≠ mirror.key := fun isKey =>
            away header held.1 (congrArg (·.voucherId) isKey)
          rw [books.others apart]
          exact balance.booked header held.1 booked

/-- Any call, for any document. -/
theorem BooksBalance.call {state : Standing} (balance : BooksBalance state.tables)
    (op : DocumentOp) : BooksBalance (op.run state).tables := by
  cases op with
  | post facts doc =>
      rw [DocumentOp.run]
      split
      · next after result ok => exact balance.posted (postLegs_posts ok)
      · exact balance
  | retire key =>
      rw [DocumentOp.run]
      split
      · next after ok => exact balance.retired ok
      · exact balance
  | reverse facts key reason =>
      rw [DocumentOp.run]
      split
      · next after reversed ok => exact balance.reversed (reverseLegs_reverses ok)
      · next after ok =>
          rw [reverseLegs_none ok]
          exact balance
      · exact balance

/-- From empty books every sequence of postings, amends and reversals, of any documents, leaves
debits that equal the credits, and at most one live voucher that stands for a document. -/
theorem books_balance (ops : List DocumentOp) :
    let tables := (ops.foldl DocumentOp.run ⟨⟨[], [], []⟩, []⟩).tables
    entryReading.Balanced tables.booked ∧ ∀ (document : Document),
      ∀ header ∈ tables.headers, ∀ other ∈ tables.headers,
        document.owns header = true → document.owns other = true →
        header.isDeleted = false → other.isDeleted = false →
        header.status ≠ .CANCELLED → other.status ≠ .CANCELLED → header = other := by
  have kept (state : Standing) (balance : BooksBalance state.tables) :
      BooksBalance (ops.foldl DocumentOp.run state).tables := by
    induction ops generalizing state with
    | nil => exact balance
    | cons op rest ih => exact ih _ (balance.call op)
  have balance := kept ⟨⟨[], [], []⟩, []⟩
    ⟨sound_empty, fun _ listed => absurd listed List.not_mem_nil⟩
  refine ⟨balance.trial, fun document header listed other otherListed owned otherOwned live
    otherLive stands otherStands => ?_⟩
  exact balance.sound.one listed otherListed owned otherOwned live otherLive stands otherStands

end ErpServer.Posting
