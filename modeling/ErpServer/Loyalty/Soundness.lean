import ErpServer.Lib.ListSum
import ErpServer.Loyalty.Movements

/-!
# A sound ledger

What every row of the ledger is, how the figures beside it follow from the rows, and
the batches the one writer may be given without losing either.
-/

namespace ErpServer.Loyalty

open Lib
open Receipt (Decimal)

/-- The figures of four places. -/
abbrev fourPlaces : AddSubgroup Decimal := Grid.grid (1 / 10000)

theorem fourPlaces_pos : (0 : Decimal) < 1 / 10000 := by norm_num

/-! ## What a row is -/

/-- A row that opens a lot. -/
structure IsLot (row : LoyaltyLedgerRowInput) : Prop where
  type : row.txnType ∈ LOYALTY_LOT_TXN_TYPES
  opens : 0 < row.points
  noLot : row.lot = none
  original : row.reversalOf = none

/-- What a row is to the entries before it: a new lot, a draw on a lot, a draw given
back, or a lot taken back. -/
inductive Kind (entries : List LedgerEntry) (row : LoyaltyLedgerRowInput) : Prop where
  | opens (isLot : IsLot row)
  | draws (lot : LedgerEntry) (member : lot ∈ entries)
      (isLot : IsLot lot.toLoyaltyLedgerRowInput) (names : row.lot = some lot.key)
      (same : row.memberId = lot.memberId) (spends : row.points < 0)
      (original : row.reversalOf = none) (type : row.txnType ≠ .EARN)
  | restores (lot draw : LedgerEntry) (member : lot ∈ entries)
      (isLot : IsLot lot.toLoyaltyLedgerRowInput) (names : row.lot = some lot.key)
      (same : row.memberId = lot.memberId) (drawMember : draw ∈ entries)
      (drawNames : draw.lot = some lot.key) (drawOriginal : draw.reversalOf = none)
      (reverses : row.reversalOf = some draw.key) (gives : 0 < row.points)
      (amount : row.points = -draw.points) (type : row.txnType ∉ LOYALTY_LOT_TXN_TYPES)
  | retires (lot : LedgerEntry) (member : lot ∈ entries)
      (isLot : IsLot lot.toLoyaltyLedgerRowInput) (names : row.lot = none)
      (same : row.memberId = lot.memberId) (reverses : row.reversalOf = some lot.key)
      (takes : row.points < 0) (type : row.txnType = .EARN)

variable {entries : List LedgerEntry} {row : LoyaltyLedgerRowInput}
variable {rows : List LoyaltyLedgerRowInput}

theorem Kind.mono {more : List LedgerEntry} (kind : Kind entries row) :
    Kind (entries ++ more) row := by
  cases kind with
  | opens isLot => exact .opens isLot
  | draws lot member isLot names same spends original type =>
      exact .draws lot (List.mem_append_left _ member) isLot names same spends original type
  | restores lot draw member isLot names same drawMember drawNames drawOriginal reverses gives
      amount type =>
      exact .restores lot draw (List.mem_append_left _ member) isLot names same
        (List.mem_append_left _ drawMember) drawNames drawOriginal reverses gives amount type
  | retires lot member isLot names same reverses takes type =>
      exact .retires lot (List.mem_append_left _ member) isLot names same reverses takes type

/-- A positive row of a lot type opens a lot. -/
theorem Kind.isLot (kind : Kind entries row) (type : row.txnType ∈ LOYALTY_LOT_TXN_TYPES)
    (positive : 0 < row.points) : IsLot row := by
  cases kind with
  | opens isLot => exact isLot
  | draws lot member isLot names same spends => exact (spends.not_gt positive).elim
  | restores lot draw member isLot names same drawMember drawNames drawOriginal reverses gives
      amount other => exact (other type).elim
  | retires lot member isLot names same reverses takes => exact (takes.not_gt positive).elim

/-- The row a row reverses. -/
def reversedId (row : LoyaltyLedgerRowInput) : Option ℕ := row.reversalOf.map LoyaltyLotKey.lotId

/-- The lot a row counts against. -/
def ownerOf (row : LoyaltyLedgerRowInput) : Option LoyaltyLotKey :=
  row.lot.or row.reversalOf

/-- Every row that is not a lot counts against one, of the same wallet. -/
theorem Kind.owned (kind : Kind entries row) :
    IsLot row ∨ ∃ lot ∈ entries, IsLot lot.toLoyaltyLedgerRowInput ∧
      ownerOf row = some lot.key ∧ row.memberId = lot.memberId := by
  cases kind with
  | opens isLot => exact Or.inl isLot
  | draws lot member isLot names same =>
      exact Or.inr ⟨lot, member, isLot, by simp [ownerOf, names], same⟩
  | restores lot draw member isLot names same =>
      exact Or.inr ⟨lot, member, isLot, by simp [ownerOf, names], same⟩
  | retires lot member isLot names same reverses =>
      exact Or.inr ⟨lot, member, isLot, by simp [ownerOf, names, reverses], same⟩

theorem ownerOf_lot (isLot : IsLot row) : ownerOf row = none := by
  simp [ownerOf, isLot.noLot, isLot.original]

/-! ## The entries -/

/-- Entries that are what they say: each under the id of its place, each a kind of row,
none reversed twice. -/
structure Entries (entries : List LedgerEntry) : Prop where
  ids : entries.map LedgerEntry.lldId = List.range entries.length
  kinds : ∀ entry ∈ entries, Kind entries entry.toLoyaltyLedgerRowInput
  exact : ∀ entry ∈ entries, entry.points ∈ fourPlaces
  once : entries.Pairwise fun earlier later =>
    reversedId later.toLoyaltyLedgerRowInput ≠ none →
      reversedId earlier.toLoyaltyLedgerRowInput ≠ reversedId later.toLoyaltyLedgerRowInput

theorem Entries.eq_of_id (sound : Entries entries) {left right : LedgerEntry}
    (leftMember : left ∈ entries) (rightMember : right ∈ entries) (same : left.lldId = right.lldId) :
    left = right := by
  have nodup : (entries.map LedgerEntry.lldId).Nodup := by
    rw [sound.ids]
    exact List.nodup_range
  exact List.inj_on_of_nodup_map nodup leftMember rightMember same

variable {entry lot : LedgerEntry} {wallets : Wallets} {key : LoyaltyLotKey}

theorem Entries.id_lt (sound : Entries entries) (member : entry ∈ entries) :
    entry.lldId < entries.length := by
  have within : entry.lldId ∈ entries.map LedgerEntry.lldId := List.mem_map_of_mem member
  rw [sound.ids] at within
  exact List.mem_range.mp within

/-- The rows the recompute of a lot sums are those that count against it. -/
theorem Entries.namesLot_iff (sound : Entries entries) (lotMember : lot ∈ entries)
    (isLot : IsLot lot.toLoyaltyLedgerRowInput) (kind : Kind entries entry.toLoyaltyLedgerRowInput) :
    namesLot lot.key entry = true ↔ ownerOf entry.toLoyaltyLedgerRowInput = some lot.key := by
  unfold namesLot ownerOf
  rw [Bool.or_eq_true, decide_eq_true_eq, decide_eq_true_eq]
  cases kind with
  | opens opened => simp [opened.noLot, opened.original]
  | draws other member otherLot names same spends original => simp [names, original]
  | restores other draw member otherLot names same drawMember drawNames drawOriginal reverses =>
      rw [names, reverses, Option.some_or, Option.map_some, Option.some_inj]
      constructor
      · rintro (here | reversed)
        · exact here
        · have equal := sound.eq_of_id drawMember lotMember (Option.some.inj reversed)
          rw [equal, isLot.noLot] at drawNames
          cases drawNames
      · intro here
        exact Or.inl here
  | retires other member otherLot names same reverses =>
      rw [names, reverses, Option.none_or, Option.map_some]
      constructor
      · rintro (here | reversed)
        · cases here
        · rw [sound.eq_of_id member lotMember (Option.some.inj reversed)]
      · intro here
        rw [Option.some.inj here]
        exact Or.inr rfl

/-- What counts against a lot. -/
def against (rows : List LoyaltyLedgerRowInput) (key : LoyaltyLotKey) : Decimal :=
  ((rows.filter fun row => ownerOf row = some key).map fun row => row.points).sum

theorem against_append (left right : List LoyaltyLedgerRowInput) (key : LoyaltyLotKey) :
    against (left ++ right) key = against left key + against right key := by
  unfold against
  rw [List.filter_append, List.map_append, List.sum_append]

def inputs (entries : List LedgerEntry) : List LoyaltyLedgerRowInput :=
  entries.map LedgerEntry.toLoyaltyLedgerRowInput

theorem Entries.consumedFrom_eq (sound : Entries entries) (lotMember : lot ∈ entries)
    (isLot : IsLot lot.toLoyaltyLedgerRowInput) :
    consumedFrom entries lot.key = -against (inputs entries) lot.key := by
  unfold consumedFrom against inputs
  rw [List.filter_map, List.map_map]
  have same : entries.filter (namesLot lot.key) = entries.filter
      ((fun row => decide (ownerOf row = some lot.key)) ∘
        LedgerEntry.toLoyaltyLedgerRowInput) := by
    apply List.filter_congr
    intro entry member
    rw [Bool.eq_iff_iff, sound.namesLot_iff lotMember isLot (sound.kinds entry member)]
    simp
  rw [same]
  rfl

/-- No more comes back to a lot than was drawn from it: every row given back is matched
with a draw of its own. -/
theorem Entries.against_nonpos (sound : Entries entries) (lot : LedgerEntry) :
    against (inputs entries) lot.key ≤ 0 := by
  set own := entries.filter fun entry =>
    ownerOf entry.toLoyaltyLedgerRowInput = some lot.key with ownEq
  have total : against (inputs entries) lot.key = (own.map fun entry => entry.points).sum := by
    unfold against inputs
    rw [List.filter_map, List.map_map, ownEq]
    rfl
  have split := ListSum.sum_filter_add own (fun entry => entry.points)
    fun entry => decide (0 < entry.points)
  have ofOwn {entry : LedgerEntry} (member : entry ∈ own) :
      entry ∈ entries ∧ ownerOf entry.toLoyaltyLedgerRowInput = some lot.key := by
    simpa [ownEq] using member
  have kindOf {entry : LedgerEntry} (member : entry ∈ own) :
      Kind entries entry.toLoyaltyLedgerRowInput := sound.kinds entry (ofOwn member).1
  -- A positive row of the lot is one given back.
  have givenBack {entry : LedgerEntry} (member : entry ∈ own) (positive : 0 < entry.points) :
      ∃ draw ∈ entries, draw.lot = some lot.key ∧ draw.reversalOf = none ∧
        entry.reversalOf = some draw.key ∧ entry.points = -draw.points := by
    have owner := (ofOwn member).2
    cases kindOf member with
    | opens opened =>
        rw [ownerOf_lot opened] at owner
        cases owner
    | draws other otherMember otherLot names same spends => exact (spends.not_gt positive).elim
    | retires other otherMember otherLot names same reverses takes =>
        exact (takes.not_gt positive).elim
    | restores other draw otherMember otherLot names same drawMember drawNames drawOriginal
        reverses gives amount =>
        rw [ownerOf, names, Option.some_or] at owner
        exact ⟨draw, drawMember, drawNames.trans owner, drawOriginal, reverses, amount⟩
  have nodup : ((own.filter fun entry => decide (0 < entry.points)).map fun entry =>
      reversedId entry.toLoyaltyLedgerRowInput).Nodup := by
    rw [List.Nodup, List.pairwise_map]
    have once : (own.filter fun entry => decide (0 < entry.points)).Pairwise
        fun earlier later => reversedId later.toLoyaltyLedgerRowInput ≠ none →
          reversedId earlier.toLoyaltyLedgerRowInput ≠
            reversedId later.toLoyaltyLedgerRowInput :=
      sound.once.sublist (List.filter_sublist.trans List.filter_sublist)
    apply once.imp_of_mem
    intro earlier later _ laterMember distinct
    rw [List.mem_filter, decide_eq_true_eq] at laterMember
    obtain ⟨draw, -, -, -, reverses, -⟩ := givenBack laterMember.1 laterMember.2
    apply distinct
    simp [reversedId, reverses]
  have matched : ∀ entry ∈ own.filter fun entry => decide (0 < entry.points),
      ∃ draw ∈ own.filter fun entry => !decide (0 < entry.points),
        some draw.lldId = reversedId entry.toLoyaltyLedgerRowInput ∧
          entry.points = -draw.points := by
    intro entry member
    rw [List.mem_filter, decide_eq_true_eq] at member
    obtain ⟨draw, drawMember, names, original, reverses, amount⟩ :=
      givenBack member.1 member.2
    refine ⟨draw, ?_, ?_, amount⟩
    · rw [List.mem_filter, ownEq, List.mem_filter]
      have negative : ¬0 < draw.points := by
        have positive := member.2
        rw [amount] at positive
        exact (neg_pos.mp positive).not_gt
      simp [drawMember, ownerOf, names, negative]
    · simp [reversedId, reverses, LedgerEntry.key]
  have nonneg : ∀ entry ∈ own.filter fun entry => !decide (0 < entry.points),
      0 ≤ -entry.points := by
    intro entry member
    rw [List.mem_filter] at member
    simpa using member.2
  have most := ListSum.sum_le_of_matched nodup matched nonneg
  rw [ListSum.sum_map_neg] at most
  rw [total, ← split]
  linarith

/-! ## The figures beside the rows -/

/-- Wallets whose ledger is sound, whose lots are drawn from as the rows say and never
past what they hold, and whose buckets are the sums of the rows. -/
structure Sound (wallets : Wallets) : Prop where
  entries : Entries wallets.entries
  consumed : ∀ row ∈ wallets.ledger, IsLot row.toLoyaltyLedgerRowInput →
    row.consumedPoints = consumedFrom wallets.entries row.key
  left : ∀ lot ∈ wallets.entries, IsLot lot.toLoyaltyLedgerRowInput →
    consumedFrom wallets.entries lot.key ≤ lot.points
  buckets : ∀ member ∈ wallets.members, member.recompute wallets.entries = member

theorem Opening.sound (opening : Opening wallets) : Sound wallets := by
  have none : wallets.entries = [] := by
    unfold Wallets.entries
    rw [opening.ledger]
    rfl
  constructor
  · rw [none]
    exact ⟨rfl, fun _ member => (List.not_mem_nil member).elim,
      fun _ member => (List.not_mem_nil member).elim, List.Pairwise.nil⟩
  · rw [opening.ledger]
    exact fun _ member => (List.not_mem_nil member).elim
  · rw [none]
    exact fun _ member => (List.not_mem_nil member).elim
  · rw [none]
    exact opening.members

/-- A batch the ledger takes: every row is of a kind, none reverses what is reversed,
and no lot gives more than it holds. -/
structure Fits (entries : List LedgerEntry) (rows : List LoyaltyLedgerRowInput) : Prop where
  kinds : ∀ row ∈ rows, Kind entries row
  fresh : ∀ row ∈ rows, reversedId row ≠ none →
    ∀ entry ∈ entries, reversedId entry.toLoyaltyLedgerRowInput ≠ reversedId row
  once : rows.Pairwise fun earlier later =>
    reversedId later ≠ none → reversedId earlier ≠ reversedId later
  left : ∀ lot ∈ entries, IsLot lot.toLoyaltyLedgerRowInput →
    consumedFrom entries lot.key ≤ lot.points + against rows lot.key

/-! ## Inserting a batch -/

/-- The rows of a batch, each under the next id. -/
def placed : ℕ → List LoyaltyLedgerRowInput → List LedgerEntry
  | _, [] => []
  | next, row :: rest => ⟨stored row, next⟩ :: placed (next + 1) rest

def unspent (entry : LedgerEntry) : LedgerRow := ⟨entry, 0⟩

theorem inputs_placed (next : ℕ) (rows : List LoyaltyLedgerRowInput) :
    inputs (placed next rows) = rows.map stored := by
  induction rows generalizing next with
  | nil => rfl
  | cons row rest ih =>
      have later := ih (next + 1)
      unfold inputs at later ⊢
      rw [placed, List.map_cons, List.map_cons, later]

theorem ids_placed (next : ℕ) (rows : List LoyaltyLedgerRowInput) :
    (placed next rows).map LedgerEntry.lldId = List.range' next rows.length := by
  induction rows generalizing next with
  | nil => rfl
  | cons row rest ih => rw [placed, List.map_cons, ih, List.length_cons, List.range'_succ]

/-- A batch that was inserted passed the checks of the database, and stands at the end
of the ledger. -/
theorem insertRows_ok {ledger after : List LedgerRow}
    (inserted : insertRows ledger rows = .ok after) :
    after = ledger ++ (placed ledger.length rows).map unspent ∧
      ∀ row ∈ rows, checkRow (stored row) = .ok () := by
  induction rows generalizing ledger with
  | nil =>
      cases inserted
      exact ⟨(List.append_nil _).symm, fun _ member => (List.not_mem_nil member).elim⟩
  | cons row rest ih =>
      unfold insertRows at inserted
      obtain ⟨_, checked, inserted⟩ := Fold.bind_eq_ok inserted
      split at inserted
      · cases inserted
      · split at inserted
        · cases inserted
        · obtain ⟨later, restChecked⟩ := ih inserted
          constructor
          · rw [later, List.length_append, List.length_singleton, List.append_assoc]
            rfl
          · intro other member
            rcases List.mem_cons.mp member with rfl | member
            · exact checked
            · exact restChecked other member

theorem checkRow_ok (checked : checkRow row = .ok ()) : row.points ≠ 0 ∧ ckSign row = true := by
  unfold checkRow at checked
  split at checked
  · cases checked
  · next nonzero =>
      split at checked
      · cases checked
      · next signed => exact ⟨nonzero, by simpa using signed⟩

/-- The entries of a ledger with a batch that fits it at the end. -/
theorem Entries.append (sound : Entries entries) (fits : Fits entries (rows.map stored)) :
    Entries (entries ++ placed entries.length rows) := by
  have ofPlaced {entry : LedgerEntry} (member : entry ∈ placed entries.length rows) :
      entry.toLoyaltyLedgerRowInput ∈ rows.map stored := by
    rw [← inputs_placed entries.length]
    exact List.mem_map_of_mem member
  constructor
  · rw [List.map_append, sound.ids, ids_placed, List.length_append]
    have length : (placed entries.length rows).length = rows.length := by
      rw [← List.length_map LedgerEntry.lldId, ids_placed, List.length_range']
    rw [length, List.range_eq_range', List.range_eq_range']
    have joined := @List.range'_append 0 entries.length rows.length 1
    simpa using joined
  · intro entry member
    rcases List.mem_append.mp member with before | new
    · exact (sound.kinds entry before).mono
    · exact (fits.kinds _ (ofPlaced new)).mono
  · intro entry member
    rcases List.mem_append.mp member with before | new
    · exact sound.exact entry before
    · obtain ⟨row, -, equal⟩ := List.mem_map.mp (ofPlaced new)
      rw [← equal]
      exact Grid.halfUp_mem
  · rw [List.pairwise_append]
    refine ⟨sound.once, ?_, ?_⟩
    · have once := fits.once
      rw [← inputs_placed entries.length, inputs, List.pairwise_map] at once
      exact once
    · intro entry before later new reverses
      exact fits.fresh _ (ofPlaced new) reverses entry before

/-! ## Writing a batch -/

theorem entries_recomputeLots (lots : List LoyaltyLotKey) (wallets : Wallets) :
    (recomputeLots lots wallets).entries = wallets.entries := by
  unfold Wallets.entries recomputeLots
  rw [List.map_map]
  apply List.map_congr_left
  intro row _
  rw [Function.comp_apply]
  split
  · rfl
  · rfl

theorem entries_recomputeMembers (memberIds : List String) (wallets : Wallets) :
    (recomputeMembers memberIds wallets).entries = wallets.entries := rfl

/-- A lot that is not touched is not counted against. -/
theorem against_untouched (kinds : ∀ row ∈ rows.map stored, Kind entries row)
    (untouched : key ∉ touchedLots rows) : against (rows.map stored) key = 0 := by
  have none : (rows.map stored).filter (fun row => ownerOf row = some key) = [] := by
    rw [List.filter_eq_nil_iff]
    intro row member owns
    obtain ⟨input, inputMember, rfl⟩ := List.mem_map.mp member
    apply untouched
    rw [decide_eq_true_eq] at owns
    apply List.mem_flatMap.mpr ⟨input, inputMember, ?_⟩
    rw [List.mem_append, Option.mem_toList]
    cases kinds _ member with
    | opens isLot =>
        rw [ownerOf_lot isLot] at owns
        cases owns
    | draws lot lotMember isLot names =>
        rw [ownerOf, names, Option.some_or] at owns
        exact Or.inl (names.trans owns)
    | restores lot draw lotMember isLot names =>
        rw [ownerOf, names, Option.some_or] at owns
        exact Or.inl (names.trans owns)
    | retires lot lotMember isLot names same reverses takes type =>
        rw [ownerOf, names, Option.none_or] at owns
        have earn : input.txnType = .EARN := type
        rw [earn, if_pos (by decide), Option.mem_toList]
        exact Or.inr owns
  unfold against
  rw [none]
  rfl

/-- Nothing counts against a lot that is new. -/
theorem against_new (sound : Entries entries) (kinds : ∀ row ∈ rows, Kind entries row)
    (new : entries.length ≤ key.lotId) : against rows key = 0 := by
  have none : rows.filter (fun row => ownerOf row = some key) = [] := by
    rw [List.filter_eq_nil_iff]
    intro row member owns
    rw [decide_eq_true_eq] at owns
    rcases (kinds row member).owned with isLot | ⟨lot, lotMember, -, owner, -⟩
    · rw [ownerOf_lot isLot] at owns
      cases owns
    · rw [owner] at owns
      have same : lot.lldId = key.lotId := congrArg LoyaltyLotKey.lotId (Option.some.inj owns)
      exact absurd (sound.id_lt lotMember) (not_lt.mpr (same ▸ new))
  unfold against
  rw [none]
  rfl

theorem recompute_recompute (entries more : List LedgerEntry) (member : LoyaltyMember) :
    (member.recompute more).recompute entries = member.recompute entries := rfl

/-- The buckets of a member no row of the batch is for. -/
theorem recompute_append_of_not_mem {new : List LedgerEntry} {member : LoyaltyMember}
    (others : ∀ entry ∈ new, entry.memberId ≠ member.lmbId) :
    member.recompute (entries ++ new) = member.recompute entries := by
  have same (types : List LoyaltyTxnType) :
      pointsOf (entries ++ new) member.lmbId types = pointsOf entries member.lmbId types := by
    have none : new.filter (fun entry => entry.memberId = member.lmbId ∧ entry.txnType ∈ types) =
        [] := by
      rw [List.filter_eq_nil_iff]
      intro entry entryMember matched
      rw [decide_eq_true_eq] at matched
      exact others entry entryMember matched.1
    unfold pointsOf
    rw [List.filter_append, none, List.append_nil]
  unfold LoyaltyMember.recompute
  simp only [same]

/-- The ledger and its figures after a batch that fits. -/
theorem writeLedgerRows_sound {after : Wallets} (sound : Sound wallets)
    (fits : (∀ row ∈ rows, (stored row).points ≠ 0 ∧ ckSign (stored row) = true) →
      Fits wallets.entries (rows.map stored)) (written : writeLedgerRows wallets rows = .ok after) :
    Sound after := by
  unfold writeLedgerRows at written
  split at written
  · cases written
    exact sound
  obtain ⟨ledger, inserted, written⟩ := Fold.bind_eq_ok written
  obtain ⟨equal, checked⟩ := insertRows_ok inserted
  have fits' := fits fun row member => checkRow_ok (checked row member)
  cases written
  have length : wallets.entries.length = wallets.ledger.length := List.length_map _
  set new := placed wallets.entries.length rows with newEq
  have entriesEq : (recomputeMembers (rows.map fun row => row.memberId)
      (recomputeLots (touchedLots rows) { wallets with ledger := ledger })).entries =
        wallets.entries ++ new := by
    rw [entries_recomputeMembers, entries_recomputeLots, newEq, length]
    unfold Wallets.entries
    rw [equal, List.map_append, List.map_map]
    congr 1
    exact List.map_id _
  have whole : Entries (wallets.entries ++ new) := sound.entries.append fits'
  have against' (key : LoyaltyLotKey) : against (inputs (wallets.entries ++ new)) key =
      against (inputs wallets.entries) key + against (rows.map stored) key := by
    rw [inputs, List.map_append, against_append, newEq, ← inputs_placed wallets.entries.length]
    rfl
  have oldConsumed {lot : LedgerEntry} (member : lot ∈ wallets.entries)
      (isLot : IsLot lot.toLoyaltyLedgerRowInput) :
      consumedFrom (wallets.entries ++ new) lot.key =
        consumedFrom wallets.entries lot.key - against (rows.map stored) lot.key := by
    rw [whole.consumedFrom_eq (List.mem_append_left _ member) isLot, against',
      sound.entries.consumedFrom_eq member isLot]
    ring
  have newConsumed {lot : LedgerEntry} (member : lot ∈ new)
      (isLot : IsLot lot.toLoyaltyLedgerRowInput) :
      consumedFrom (wallets.entries ++ new) lot.key = 0 := by
    have idNew : wallets.entries.length ≤ lot.key.lotId := by
      have within : lot.lldId ∈ new.map LedgerEntry.lldId := List.mem_map_of_mem member
      rw [newEq, ids_placed, List.mem_range'_1] at within
      exact within.1
    have before : against (inputs wallets.entries) lot.key = 0 := by
      apply against_new sound.entries _ idNew
      intro row rowMember
      obtain ⟨entry, entryMember, rfl⟩ := List.mem_map.mp rowMember
      exact sound.entries.kinds entry entryMember
    rw [whole.consumedFrom_eq (List.mem_append_right _ member) isLot, against', before,
      against_new sound.entries fits'.kinds idNew, add_zero, neg_zero]
  constructor
  · rw [entriesEq]
    exact whole
  · intro row member isLot
    rw [entriesEq]
    obtain ⟨old, oldMember, rfl⟩ := List.mem_map.mp member
    have entriesLots : Wallets.entries { wallets with ledger := ledger } =
        wallets.entries ++ new := by
      rw [← entriesEq, entries_recomputeMembers, entries_recomputeLots]
    split
    · rw [entriesLots]
    · next untouched =>
        rw [if_neg untouched] at isLot
        have oldMember' : old ∈ ledger := oldMember
        rw [equal, List.mem_append] at oldMember'
        rcases oldMember' with before | added
        · have entryMember : old.toLedgerEntry ∈ wallets.entries := List.mem_map_of_mem before
          rw [oldConsumed entryMember isLot, against_untouched fits'.kinds untouched, sub_zero]
          exact sound.consumed old before isLot
        · obtain ⟨entry, entryMember, rfl⟩ := List.mem_map.mp added
          rw [← length] at entryMember
          exact (newConsumed entryMember isLot).symm
  · intro lot member isLot
    rw [entriesEq] at member ⊢
    rcases List.mem_append.mp member with before | added
    · rw [oldConsumed before isLot]
      have most := fits'.left lot before isLot
      linarith
    · rw [newConsumed added isLot]
      exact isLot.opens.le
  · intro member memberOf
    rw [entriesEq]
    obtain ⟨old, oldMember, rfl⟩ := List.mem_map.mp memberOf
    have entriesLots : Wallets.entries (recomputeLots (touchedLots rows)
        { wallets with ledger := ledger }) = wallets.entries ++ new := by
      rw [← entriesEq, entries_recomputeMembers]
    split
    · rw [entriesLots, recompute_recompute]
    · next absent =>
        rw [recompute_append_of_not_mem]
        · exact sound.buckets old oldMember
        · intro entry entryMember same
          apply absent
          have input : entry.toLoyaltyLedgerRowInput ∈ rows.map stored := by
            rw [← inputs_placed wallets.entries.length]
            exact List.mem_map_of_mem entryMember
          obtain ⟨row, rowMember, rowEq⟩ := List.mem_map.mp input
          have id : (stored row).memberId = entry.memberId :=
            congrArg LoyaltyLedgerRowInput.memberId rowEq
          exact List.mem_map.mpr ⟨row, rowMember, id.trans same⟩

end ErpServer.Loyalty
