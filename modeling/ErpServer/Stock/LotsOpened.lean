import ErpServer.Stock.LotIdentity

/-!
# Which lots a document opens

`resolveLots` inserts a lot for every identity the document needs and leaves the ones that
conflict.  An identity that is not on file is opened exactly when no other identity holds
the id it mints.
-/

namespace ErpServer.Stock

open Lib
open Receipt (Decimal)

def StockLot.identity (lot : StockLot) : LotIdentity := ⟨lot.companyId, lot.itemId, lot.key⟩

/-- Some lot has the identity. -/
def OnFile (lots : OrderedMap Uuid StockLot) (identity : LotIdentity) : Prop :=
  ∃ lot ∈ lots.values, lot.identity = identity

theorem OnFile.of_entries {lots more : OrderedMap Uuid StockLot} {identity : LotIdentity}
    (kept : ∀ entry ∈ lots.entries, entry ∈ more.entries) (filed : OnFile lots identity) :
    OnFile more identity := by
  obtain ⟨lot, listed, same⟩ := filed
  obtain ⟨entry, member, rfl⟩ := List.mem_map.mp listed
  exact ⟨entry.2, List.mem_map.mpr ⟨entry, kept entry member, rfl⟩, same⟩

/-- The columns hold six places. -/
def LotIdentity.SixPlaces (identity : LotIdentity) : Prop :=
  round6 identity.key.mrp = identity.key.mrp ∧ round6 identity.key.salePrice = identity.key.salePrice

theorem LotIdentity.Same.eq {first second : LotIdentity} (same : first.Same second)
    (firstPlaces : first.SixPlaces) (secondPlaces : second.SixPlaces) : first = second := by
  have mrp : first.key.mrp = second.key.mrp := by
    rw [← firstPlaces.1, same.mrp, secondPlaces.1]
  have salePrice : first.key.salePrice = second.key.salePrice := by
    rw [← firstPlaces.2, same.salePrice, secondPlaces.2]
  obtain ⟨firstCompany, firstItem, firstKey⟩ := first
  obtain ⟨secondCompany, secondItem, secondKey⟩ := second
  rw [LotIdentity.mk.injEq]
  refine ⟨same.companyId, same.itemId, ?_⟩
  rw [LotKey.mk.injEq]
  exact ⟨same.batch, mrp, salePrice, same.expiry, same.serial, same.supplier⟩

section Documents

variable (masters : StockMasters) (tables : StockTables) (voucher : StockVoucher)
  (postedOn : Instant)

/-- The lots the document needs, as its lines would open them. -/
def neededLots : List StockLot :=
  ((costed masters tables voucher voucher.items).filter fun line =>
    line.line.lotId.isNone && (lineDirection voucher line.line = some .IN ||
      !(policyOf masters voucher line.line).tracksAny)).map
    fun line => openedLot masters voucher line postedOn

theorem resolveLots_eq :
    resolveLots masters tables voucher postedOn =
      if (neededLots masters tables voucher postedOn).all ckSltPrices then
        .ok ((neededLots masters tables voucher postedOn).foldl (insertLot masters) tables.lots)
      else .error (.database "ck_slt_prices") := rfl

end Documents

/-! ## Inserting -/

section Inserting

variable {masters : StockMasters} {sha1 : ByteArray → BitVec 160}
  (minting : masters.lotIdentityUuid = lotIdentityUuid sha1)

include minting

theorem insertLot_cases (lots : OrderedMap Uuid StockLot) (lot : StockLot) :
    insertLot masters lots lot = lots ∧
        (lot.identity.sltId sha1 ∈ lots.keys ∨ OnFile lots lot.identity) ∨
      (insertLot masters lots lot).entries = lots.entries ++ [(lot.identity.sltId sha1, lot)] ∧
        lot.identity.sltId sha1 ∉ lots.keys ∧ ¬OnFile lots lot.identity := by
  have held : lots.has (lot.identity.sltId sha1) = true ↔ lot.identity.sltId sha1 ∈ lots.keys := by
    rw [OrderedMap.mem_keys_iff, OrderedMap.has, Option.isSome_iff_exists]
  have filed : (lots.values.any fun other => other.companyId = lot.companyId &&
      other.itemId = lot.itemId && other.key = lot.key) = true ↔ OnFile lots lot.identity := by
    simp [OnFile, StockLot.identity, and_assoc]
  have minted : masters.lotIdentityUuid lot.companyId lot.itemId lot.key = lot.identity.sltId sha1 :=
    congrFun (congrFun (congrFun minting _) _) _
  rw [insertLot, minted]
  by_cases conflict : lot.identity.sltId sha1 ∈ lots.keys ∨ OnFile lots lot.identity
  · refine .inl ⟨if_pos ?_, conflict⟩
    rw [Bool.or_eq_true, held, filed]
    exact conflict
  · have free := not_or.mp conflict
    refine .inr ⟨?_, free⟩
    rw [if_neg (by rw [Bool.or_eq_true, held, filed]; exact conflict),
      OrderedMap.entries_set_of_not_mem free.1]

/-- What the insertions did: some of the needed lots were appended, each under an id nobody
held, and every needed lot is on file or found its id held. -/
structure Inserted (sha1 : ByteArray → BitVec 160) (needed : List StockLot)
    (start final : OrderedMap Uuid StockLot) (added : List StockLot) : Prop where
  entries : final.entries = start.entries ++ added.map fun lot => (lot.identity.sltId sha1, lot)
  listed : ∀ lot ∈ added, lot ∈ needed
  fresh : ∀ lot ∈ added, lot.identity.sltId sha1 ∉ start.keys ∧ ¬OnFile start lot.identity
  apart : (added.map fun lot => lot.identity.sltId sha1).Nodup
  settled : ∀ lot ∈ needed, OnFile final lot.identity ∨ lot.identity.sltId sha1 ∈ final.keys

theorem inserted_foldl (needed : List StockLot) (start : OrderedMap Uuid StockLot) :
    ∃ added, Inserted sha1 needed start (needed.foldl (insertLot masters) start) added := by
  induction needed using List.reverseRecOn with
  | nil => exact ⟨[], by simp, by simp, by simp, by simp, by simp⟩
  | append_singleton before lot ih =>
      obtain ⟨added, done⟩ := ih
      rw [List.foldl_append, List.foldl_cons, List.foldl_nil]
      generalize before.foldl (insertLot masters) start = middle at done ⊢
      cases insertLot_cases minting middle lot with
      | inl conflicting =>
          rw [conflicting.1]
          refine ⟨added, done.entries, ?_, done.fresh, done.apart, ?_⟩
          · intro other member
            exact List.mem_append_left _ (done.listed other member)
          · intro other member
            cases List.mem_append.mp member with
            | inl earlier => exact done.settled other earlier
            | inr last => exact List.mem_singleton.mp last ▸ conflicting.2.symm
      | inr opened =>
          obtain ⟨entries, unheld, unfiled⟩ := opened
          have kept : ∀ entry ∈ middle.entries, entry ∈ (insertLot masters middle lot).entries := by
            intro entry member
            rw [entries]
            exact List.mem_append_left _ member
          have keys : ∀ id ∈ middle.keys, id ∈ (insertLot masters middle lot).keys := by
            intro id member
            obtain ⟨entry, listed, rfl⟩ := List.mem_map.mp member
            exact List.mem_map.mpr ⟨entry, kept entry listed, rfl⟩
          have started : ∀ entry ∈ start.entries, entry ∈ middle.entries := by
            intro entry member
            rw [done.entries]
            exact List.mem_append_left _ member
          refine ⟨added ++ [lot], ?_, ?_, ?_, ?_, ?_⟩
          · rw [entries, done.entries, List.map_append, List.append_assoc, List.map_singleton]
          · intro other member
            rw [List.mem_append] at member ⊢
            exact member.imp (done.listed other) id
          · intro other member
            cases List.mem_append.mp member with
            | inl earlier => exact done.fresh other earlier
            | inr last =>
                rw [List.mem_singleton.mp last]
                constructor
                · intro held
                  obtain ⟨entry, listed, same⟩ := List.mem_map.mp held
                  exact unheld (List.mem_map.mpr ⟨entry, started entry listed, same⟩)
                · intro filed
                  exact unfiled (filed.of_entries started)
          · rw [List.map_append, List.map_singleton, List.nodup_append]
            refine ⟨done.apart, List.nodup_singleton _, ?_⟩
            intro id earlier last taken same
            obtain ⟨other, member, rfl⟩ := List.mem_map.mp earlier
            rw [List.mem_singleton] at taken
            apply unheld
            rw [← taken, ← same, OrderedMap.keys, done.entries, List.map_append, List.mem_append]
            refine .inr (List.mem_map.mpr ⟨(other.identity.sltId sha1, other), ?_, rfl⟩)
            exact List.mem_map.mpr ⟨other, member, rfl⟩
          · intro other member
            cases List.mem_append.mp member with
            | inl earlier =>
                exact (done.settled other earlier).imp (·.of_entries kept) (keys _)
            | inr last =>
                rw [List.mem_singleton.mp last]
                refine .inr (List.mem_map.mpr ⟨(lot.identity.sltId sha1, lot), ?_, rfl⟩)
                rw [entries]
                simp

end Inserting

/-! ## No lot dropped -/

/-- Ids minted from the clock are no version 5; every other is minted from its lot. -/
def Minted (sha1 : ByteArray → BitVec 160) (lots : OrderedMap Uuid StockLot) : Prop :=
  ∀ entry ∈ lots.entries, entry.1 = entry.2.identity.sltId sha1 ∨ ¬IsVersion5 entry.1

/-- The lots filed under the id their identity mints. -/
def NamedLots (sha1 : ByteArray → BitVec 160) (lots : OrderedMap Uuid StockLot) : List StockLot :=
  (lots.entries.filter fun entry => entry.1 = entry.2.identity.sltId sha1).map Prod.snd

/-- Nothing a document needs is confusable with what holds an id, or is about to. -/
def AllApart (sha1 : ByteArray → BitVec 160) (lots : OrderedMap Uuid StockLot)
    (needed : List StockLot) : Prop :=
  ∀ lot ∈ needed, OnFile lots lot.identity ∨
    (∀ filed ∈ NamedLots sha1 lots, ¬filed.identity.Confusable lot.identity) ∧
    ∀ other ∈ needed, OnFile lots other.identity ∨ ¬other.identity.Confusable lot.identity

section Dropped

variable {sha1 : ByteArray → BitVec 160} {needed added : List StockLot}
  {start final : OrderedMap Uuid StockLot}

theorem Inserted.onFile_cases (done : Inserted sha1 needed start final added)
    {identity : LotIdentity} (filed : OnFile final identity) :
    OnFile start identity ∨ ∃ opened ∈ added, opened.identity = identity := by
  obtain ⟨lot, listed, same⟩ := filed
  obtain ⟨entry, member, rfl⟩ := List.mem_map.mp listed
  rw [done.entries, List.mem_append] at member
  cases member with
  | inl started => exact .inl ⟨entry.2, List.mem_map.mpr ⟨entry, started, rfl⟩, same⟩
  | inr opened =>
      obtain ⟨lot, member, rfl⟩ := List.mem_map.mp opened
      exact .inr ⟨lot, member, same⟩

theorem Inserted.onFile_added (done : Inserted sha1 needed start final added) {lot : StockLot}
    (opened : lot ∈ added) : OnFile final lot.identity := by
  refine ⟨lot, List.mem_map.mpr ⟨(lot.identity.sltId sha1, lot), ?_, rfl⟩, rfl⟩
  rw [done.entries]
  exact List.mem_append_right _ (List.mem_map.mpr ⟨lot, opened, rfl⟩)

theorem mem_namedLots {lot : StockLot} :
    lot ∈ NamedLots sha1 start ↔ (lot.identity.sltId sha1, lot) ∈ start.entries := by
  simp only [NamedLots, List.mem_map, List.mem_filter, decide_eq_true_eq]
  constructor
  · rintro ⟨⟨id, lot⟩, ⟨member, named⟩, rfl⟩
    exact named ▸ member
  · intro member
    exact ⟨_, ⟨member, rfl⟩, rfl⟩

theorem confusable_sltId {first second : LotIdentity} (confusable : first.Confusable second) :
    first.sltId sha1 = second.sltId sha1 := by
  have same := LotIdentity.hashed_eq_iff.mpr (.inr confusable)
  exact (sltId_eq_iff fun _ => same).mpr same

theorem Inserted.allApart (done : Inserted sha1 needed start final added)
    (filed : ∀ lot ∈ needed, OnFile final lot.identity) : AllApart sha1 start needed := by
  intro lot listed
  cases done.onFile_cases (filed lot listed) with
  | inl started => exact .inl started
  | inr opened =>
      obtain ⟨opened, isAdded, same⟩ := opened
      right
      constructor
      · intro holder named confusable
        apply (done.fresh opened isAdded).1
        rw [same, ← confusable_sltId confusable]
        exact List.mem_map.mpr ⟨_, mem_namedLots.mp named, rfl⟩
      · intro other otherListed
        cases done.onFile_cases (filed other otherListed) with
        | inl started => exact .inl started
        | inr rival =>
            obtain ⟨rival, rivalAdded, rivalSame⟩ := rival
            right
            intro confusable
            have ids : rival.identity.sltId sha1 = opened.identity.sltId sha1 := by
              rw [rivalSame, same, confusable_sltId confusable]
            have one : rival = opened :=
              List.inj_on_of_nodup_map done.apart rivalAdded isAdded ids
            have identities : other.identity = lot.identity := by
              rw [← rivalSame, one, same]
            rw [identities] at confusable
            exact LotIdentity.Same.not_confusable
              ⟨rfl, rfl, rfl, rfl, rfl, rfl, rfl, rfl⟩ confusable

theorem Inserted.all_onFile (done : Inserted sha1 needed start final added)
    (minted : Minted sha1 start)
    (places : ∀ lot ∈ needed ++ start.values, lot.identity.SixPlaces)
    (noCollision : ∀ lot ∈ needed, ∀ other ∈ needed ++ NamedLots sha1 start,
      NoCollision sha1 other.identity lot.identity)
    (allApart : AllApart sha1 start needed) : ∀ lot ∈ needed, OnFile final lot.identity := by
  intro lot listed
  -- whoever holds the id has the same text, so the same identity
  have settles (other : StockLot) (isRival : other ∈ needed ++ NamedLots sha1 start)
      (otherPlaces : other.identity.SixPlaces)
      (apart : ¬other.identity.Confusable lot.identity)
      (same : other.identity.sltId sha1 = lot.identity.sltId sha1) :
      other.identity = lot.identity := by
    have texts := (sltId_eq_iff (noCollision lot listed other isRival)).mp same
    have alike := (LotIdentity.hashed_eq_iff.mp texts).resolve_right apart
    exact alike.eq otherPlaces (places lot (List.mem_append_left _ listed))
  cases done.settled lot listed with
  | inl filed => exact filed
  | inr held =>
      cases allApart lot listed with
      | inl started =>
          apply started.of_entries
          intro entry member
          rw [done.entries]
          exact List.mem_append_left _ member
      | inr apart =>
          obtain ⟨holder, member, same⟩ := List.mem_map.mp held
          rw [done.entries, List.mem_append] at member
          cases member with
          | inl started =>
              have named : holder.1 = holder.2.identity.sltId sha1 := by
                apply (minted holder started).resolve_right
                rw [same]
                exact fun clock => clock sltId_isVersion5
              have isNamed : holder.2 ∈ NamedLots sha1 start :=
                mem_namedLots.mpr (named ▸ started)
              have isValue : holder.2 ∈ start.values := List.mem_map.mpr ⟨holder, started, rfl⟩
              rw [← settles holder.2 (List.mem_append_right _ isNamed)
                (places _ (List.mem_append_right _ isValue)) (apart.1 _ isNamed)
                (named.symm.trans same)]
              refine ⟨holder.2, List.mem_map.mpr ⟨holder, ?_, rfl⟩, rfl⟩
              rw [done.entries]
              exact List.mem_append_left _ started
          | inr opened =>
              obtain ⟨rival, isAdded, rfl⟩ := List.mem_map.mp opened
              have isNeeded := done.listed rival isAdded
              have unfiled := (apart.2 rival isNeeded).resolve_left (done.fresh rival isAdded).2
              rw [← settles rival (List.mem_append_left _ isNeeded)
                (places _ (List.mem_append_left _ isNeeded)) unfiled same]
              exact done.onFile_added isAdded

end Dropped

/-- **A lot is told from every other, and opened, exactly where the encoding is not
confusable.**  For two identities, for the ids they mint and for all that a document needs,
the batch must not straddle the figures, nor the expiry be written alike in two eras. -/
theorem lotIdentity_apart_iff (sha1 : ByteArray → BitVec 160) :
    (∀ first second : LotIdentity,
      (first.hashed = second.hashed → first.Same second) ↔ ¬first.Confusable second) ∧
    (∀ first second : LotIdentity, NoCollision sha1 first second →
      ((first.sltId sha1 = second.sltId sha1 → first.Same second) ↔
        ¬first.Confusable second)) ∧
    ∀ (masters : StockMasters) (tables : StockTables) (voucher : StockVoucher)
      (postedOn : Instant) (lots : OrderedMap Uuid StockLot),
      masters.lotIdentityUuid = lotIdentityUuid sha1 →
      Minted sha1 tables.lots →
      (∀ lot ∈ neededLots masters tables voucher postedOn ++ tables.lots.values,
        lot.identity.SixPlaces) →
      (∀ lot ∈ neededLots masters tables voucher postedOn,
        ∀ other ∈ neededLots masters tables voucher postedOn ++ NamedLots sha1 tables.lots,
          NoCollision sha1 other.identity lot.identity) →
      resolveLots masters tables voucher postedOn = .ok lots →
      ((∀ lot ∈ neededLots masters tables voucher postedOn, OnFile lots lot.identity) ↔
        AllApart sha1 tables.lots (neededLots masters tables voucher postedOn)) := by
  refine ⟨fun _ _ => LotIdentity.hashed_apart_iff, ?_, ?_⟩
  · intro first second noCollision
    rw [sltId_eq_iff noCollision]
    exact LotIdentity.hashed_apart_iff
  · intro masters tables voucher postedOn lots minting minted places noCollision resolved
    rw [resolveLots_eq] at resolved
    split at resolved
    · cases resolved
      obtain ⟨added, done⟩ := inserted_foldl minting
        (neededLots masters tables voucher postedOn) tables.lots
      exact ⟨done.allApart, done.all_onFile minted places noCollision⟩
    · cases resolved

/-! ### Two batches of one receipt -/

/-- An opening of goods tracked by batch and serial. -/
def openingOf (items : List StockVoucherItem) : StockVoucher where
  rules :=
    { voucherType := .OPENING
      isInward := true
      ledgerTxnTypes := [.OPENING]
      quantityMode := .QTY
      lineDirection := .DOCUMENT
      defaultRateSource := none
      blockNegative := false
      postShape := .SIMPLE
      typed := List.cons_ne_nil _ _
      counted := by decide
      despatched := by decide
      received := by decide }
  companyId := 31
  branchId := 32
  docDate := 20600
  docDatetime := 20600
  rateSource := none
  reason := none
  toGodownId := none
  toBranchId := none
  linkSrcDocId := none
  status := .DRAFT
  isDeleted := false
  items

def batchLine (lineNo : ℕ) (batchNo serialNo : Option String) : StockVoucherItem where
  lineNo
  splitNo := 1
  itemId := 46
  lotId := none
  godownId := 33
  bucket := .SALEABLE
  toBucket := none
  batchNo
  mrp := none
  salePrice := none
  expiryDate := none
  serialNo
  supplierId := none
  baseQty := 24
  freeBaseQty := 0
  diffQty := none
  costRate := 18
  costRateWot := 18
  taxPerc := none
  direction := none
  reason := none

/-- Everything is tracked by batch and serial, and ids are minted by the hash given. -/
def serialMasters (sha1 : ByteArray → BitVec 160) : StockMasters where
  policy _ _ _ _ := { StockTrackPolicy.noPolicy with trackBatch := true, trackSerial := true }
  itemTaxPerc _ _ := none
  lotIdentityUuid := lotIdentityUuid sha1

/-- The digests of the two texts the receipts below hash, told by their lengths. -/
def sha1OfReceipt (bytes : ByteArray) : BitVec 160 :=
  if bytes.size = 166 then 0xa73c604a59d836e210d4cc45803a197713239d18#160
  else 0x8599fd5c28907ce5ba0a109a9daac266f7500e44#160

/-- The tables once a receipt of the first batch alone has opened its lot. -/
def firstReceived : StockTables :=
  let masters := serialMasters sha1OfReceipt
  { StockTables.empty with
    lots := (neededLots masters .empty (openingOf [batchLine 1 (some "b-2604 ") none]) 20600).foldl
      (insertLot masters) .empty }

theorem plainReceipt_opened :
    let masters := serialMasters sha1OfReceipt
    let voucher := openingOf [batchLine 1 (some "b-2604") none, batchLine 2 (some "c-1") none]
    ∃ lots, resolveLots masters firstReceived voucher 20600 = .ok lots ∧
      ∀ lot ∈ neededLots masters firstReceived voucher 20600, OnFile lots lot.identity := by
  intro masters voucher
  let held : LotIdentity := ⟨31, 46, "B-2604", -1, -1, -719162, "~", 0⟩
  let other : LotIdentity := ⟨31, 46, "C-1", -1, -1, -719162, "~", 0⟩
  have needed : (neededLots masters firstReceived voucher 20600).map StockLot.identity =
      [held, other] := by
    decide +kernel
  have onFile : firstReceived.lots.values.map StockLot.identity = [held] := by decide +kernel
  have minted : ∀ entry ∈ firstReceived.lots.entries,
      entry.1 = entry.2.identity.sltId sha1OfReceipt := by
    decide +kernel
  have isNeeded {lot : StockLot} (listed : lot ∈ neededLots masters firstReceived voucher 20600) :
      lot.identity ∈ [held, other] :=
    needed ▸ List.mem_map_of_mem (f := StockLot.identity) listed
  have isHeld {lot : StockLot} (filed : lot ∈ firstReceived.lots.values) : lot.identity = held :=
    List.mem_singleton.mp (onFile ▸ List.mem_map_of_mem (f := StockLot.identity) filed)
  have named {lot : StockLot} (filed : lot ∈ NamedLots sha1OfReceipt firstReceived.lots) :
      lot ∈ firstReceived.lots.values :=
    List.mem_map.mpr ⟨_, mem_namedLots.mp filed, rfl⟩
  have apart : held.hashed ≠ other.hashed := by decide +kernel
  have resolved := resolveLots_eq masters firstReceived voucher 20600
  rw [if_pos (by decide +kernel)] at resolved
  refine ⟨_, resolved, ?_⟩
  apply ((lotIdentity_apart_iff sha1OfReceipt).2.2 masters firstReceived voucher 20600 _ rfl ?_ ?_
    ?_ resolved).mpr
  · have filed : OnFile firstReceived.lots held :=
      List.mem_map.mp (onFile ▸ List.mem_singleton.mpr rfl)
    intro lot listed
    rcases List.mem_pair.mp (isNeeded listed) with isFirst | isSecond
    · exact .inl (isFirst ▸ filed)
    · rw [isSecond]
      right
      constructor
      · intro lot inside confusable
        rw [isHeld (named inside)] at confusable
        exact apart (LotIdentity.hashed_eq_iff.mpr (.inr confusable))
      · intro rival rivalListed
        rcases List.mem_pair.mp (isNeeded rivalListed) with isFirst | isSecond
        · exact .inl (isFirst ▸ filed)
        · rw [isSecond]
          exact .inr (LotIdentity.Same.not_confusable ⟨rfl, rfl, rfl, rfl, rfl, rfl, rfl, rfl⟩)
  · exact fun entry member => .inl (minted entry member)
  · have places : ∀ identity ∈ [held, other], round6 identity.key.mrp = identity.key.mrp ∧
        round6 identity.key.salePrice = identity.key.salePrice := by
      decide +kernel
    intro lot listed
    rcases List.mem_append.mp listed with isLine | filed
    · exact places _ (isNeeded isLine)
    · exact isHeld filed ▸ places held List.mem_cons_self
  · have told : ∀ first ∈ [held, other], ∀ second ∈ [held, other],
        keptBits (first.digest sha1OfReceipt) = keptBits (second.digest sha1OfReceipt) →
          first.hashed = second.hashed := by
      decide +kernel
    intro lot listed other otherListed
    rcases List.mem_append.mp otherListed with isLine | filed
    · exact told _ (isNeeded isLine) _ (isNeeded listed)
    · rw [isHeld (named filed)]
      exact told _ List.mem_cons_self _ (isNeeded listed)

/-- Two cartons: the batch of the second goes on through the figures of the first. -/
def straddlingItems : List StockVoucherItem :=
  [batchLine 1 (some "A") (some "X|-1.000000|-1.000000|0001-01-01|Y"),
    batchLine 2 (some "A|-1.000000|-1.000000|0001-01-01|X") (some "Y")]

/-- Whatever the hash, the second carton gets no lot. -/
theorem straddlingReceipt_drops :
    (∃ first second : LotIdentity, first.hashed = second.hashed ∧ ¬first.Same second) ∧
    ∀ sha1 : ByteArray → BitVec 160, ∃ lots,
      resolveLots (serialMasters sha1) .empty (openingOf straddlingItems) 20600 = .ok lots ∧
      ¬∀ lot ∈ neededLots (serialMasters sha1) .empty (openingOf straddlingItems) 20600,
        OnFile lots lot.identity := by
  have hashed : LotIdentity.hashed ⟨31, 46, "A", -1, -1, -719162,
        "X|-1.000000|-1.000000|0001-01-01|Y", 0⟩ =
      LotIdentity.hashed ⟨31, 46, "A|-1.000000|-1.000000|0001-01-01|X", -1, -1, -719162, "Y", 0⟩ := by
    decide +kernel
  have different : ¬LotIdentity.Same ⟨31, 46, "A", -1, -1, -719162,
        "X|-1.000000|-1.000000|0001-01-01|Y", 0⟩
      ⟨31, 46, "A|-1.000000|-1.000000|0001-01-01|X", -1, -1, -719162, "Y", 0⟩ := by
    intro same
    exact absurd same.batch (by decide)
  refine ⟨⟨_, _, hashed, different⟩, ?_⟩
  intro sha1
  have unhashed : neededLots (serialMasters sha1) .empty (openingOf straddlingItems) 20600 =
      neededLots (serialMasters fun _ => 0) .empty (openingOf straddlingItems) 20600 := rfl
  have identities : (neededLots (serialMasters sha1) .empty (openingOf straddlingItems) 20600).map
        StockLot.identity =
      [⟨31, 46, "A", -1, -1, -719162, "X|-1.000000|-1.000000|0001-01-01|Y", 0⟩,
        ⟨31, 46, "A|-1.000000|-1.000000|0001-01-01|X", -1, -1, -719162, "Y", 0⟩] := by
    rw [unhashed]
    decide +kernel
  have checked : (neededLots (serialMasters sha1) .empty (openingOf straddlingItems) 20600).all
      ckSltPrices = true := by
    rw [unhashed]
    decide +kernel
  refine ⟨_, by rw [resolveLots_eq, if_pos checked], ?_⟩
  intro filed
  have minting : (serialMasters sha1).lotIdentityUuid = lotIdentityUuid sha1 := rfl
  obtain ⟨added, done⟩ := inserted_foldl minting
    (neededLots (serialMasters sha1) .empty (openingOf straddlingItems) 20600)
    StockTables.empty.lots
  have apart := done.allApart filed
  obtain ⟨first, firstListed, firstIs⟩ := List.mem_map.mp
    (identities ▸ List.mem_cons_self : _ ∈ List.map StockLot.identity _)
  obtain ⟨second, secondListed, secondIs⟩ := List.mem_map.mp
    (identities ▸ List.mem_cons_of_mem _ List.mem_cons_self : _ ∈ List.map StockLot.identity _)
  have unfiled (identity : LotIdentity) : ¬OnFile StockTables.empty.lots identity := by
    rintro ⟨lot, listed, -⟩
    cases listed
  have told := ((apart second secondListed).resolve_left (unfiled _)).2 first firstListed
  rw [firstIs, secondIs] at told
  exact told.resolve_left (unfiled _)
    ((LotIdentity.hashed_eq_iff.mp hashed).resolve_left different)

end ErpServer.Stock
