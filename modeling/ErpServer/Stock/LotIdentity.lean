import ErpServer.Lib.Rendering
import ErpServer.Stock.Lots

/-!
# The id of a lot

`slt_id` as a function of the lot's identity: the eight columns of `ux_slt_identity`, each in
its one spelling, joined by `|` and hashed.  Batch and serial are free text, and may hold the
separator themselves.  SHA-1 is the database's, and a parameter here.
-/

namespace ErpServer.Stock

open Lib Rendering
open Receipt (Decimal)

/-! ## The spelling of each column -/

/-- `id::text`, in groups of 8, 4, 4, 4 and 12. -/
def uuidText (id : Uuid) : List Char :=
  let hex := digits 16 32 id
  hex.take 8 ++ '-' :: ((hex.drop 8).take 4 ++ '-' :: ((hex.drop 12).take 4 ++ '-' ::
    ((hex.drop 16).take 4 ++ '-' :: hex.drop 20)))

/-- `value::numeric(18, 6)::text`. -/
def numericText (value : Decimal) : List Char := fixedPoint 6 ⌊round6 value * 1000000⌋

theorem uuidText_inj {left right : Uuid} (same : uuidText left = uuidText right) :
    left = right := by
  have undashed (id : Uuid) : (uuidText id).filter (· ≠ '-') = digits 16 32 id := by
    have plain : '-' ∉ digits 16 32 id := not_mem_digits (by decide) (by decide) (by decide)
    have kept : (digits 16 32 id).filter (· ≠ '-') = digits 16 32 id := by
      rw [List.filter_eq_self]
      intro char written
      simpa using fun minus : char = '-' => plain (minus ▸ written)
    have joined (skip size : ℕ) (text : List Char) :
        (text.drop skip).take size ++ text.drop (skip + size) = text.drop skip := by
      rw [← List.drop_drop, List.take_append_drop]
    calc (uuidText id).filter (· ≠ '-')
        = ((digits 16 32 id).take 8 ++ (((digits 16 32 id).drop 8).take 4 ++
            (((digits 16 32 id).drop 12).take 4 ++ (((digits 16 32 id).drop 16).take 4 ++
              (digits 16 32 id).drop 20)))).filter (· ≠ '-') := by
          simp [uuidText, List.filter_append]
      _ = (digits 16 32 id).filter (· ≠ '-') := by
          rw [joined 16 4, joined 12 4, joined 8 4, List.take_append_drop]
      _ = digits 16 32 id := kept
  have texts : digits 16 32 left = digits 16 32 right := by
    rw [← undashed left, same, undashed right]
  exact digits_inj (by decide) (by decide) texts

theorem bar_not_mem_uuidText (id : Uuid) : '|' ∉ uuidText id := by
  have plain : '|' ∉ digits 16 32 id := not_mem_digits (by decide) (by decide) (by decide)
  have take (n : ℕ) (text : List Char) : '|' ∈ text.take n → '|' ∈ text := List.mem_of_mem_take
  have drop (n : ℕ) (text : List Char) : '|' ∈ text.drop n → '|' ∈ text := List.mem_of_mem_drop
  simp only [uuidText, List.mem_append, List.mem_cons]
  grind

theorem bar_not_mem_numericText (value : Decimal) : '|' ∉ numericText value :=
  not_mem_fixedPoint (by decide) (by decide) (by decide)

theorem bar_not_mem_dateText (date : Date) : '|' ∉ dateText date :=
  not_mem_dateText (by decide) (by decide)

/-- A number is written with a point and a day without. -/
theorem numericText_ne_dateText (value : Decimal) (date : Date) :
    numericText value ≠ dateText date := by
  intro same
  have point : '.' ∈ dateText date := same ▸ point_mem_fixedPoint
  exact not_mem_dateText (by decide) (by decide) point

theorem numericText_inj {left right : Decimal} :
    numericText left = numericText right ↔ round6 left = round6 right := by
  have units (value : Decimal) : (⌊round6 value * 1000000⌋ : Decimal) = round6 value * 1000000 := by
    have placed : Grid.halfUp (1 / 1000000 : Decimal) value ∈ Grid.grid (1 / 1000000) :=
      Grid.halfUp_mem
    obtain ⟨count, equal⟩ := Grid.mem_grid_iff.mp placed
    have whole : round6 value * 1000000 = count := by
      rw [round6, equal]
      ring
    rw [whole, Int.floor_intCast]
  constructor
  · intro same
    have floors := fixedPoint_inj same
    have scaled : round6 left * 1000000 = round6 right * 1000000 := by
      rw [← units left, floors, units right]
    linarith
  · intro same
    rw [numericText, numericText, same]

/-! ## The text that is hashed -/

/-- The eight columns of `ux_slt_identity`. -/
structure LotIdentity where
  companyId : Uuid
  itemId : Uuid
  key : LotKey
  deriving DecidableEq

namespace LotIdentity

/-- The two prices and the expiry, which stand between the two free texts. -/
def figures (identity : LotIdentity) : List Char :=
  numericText identity.key.mrp ++ '|' :: (numericText identity.key.salePrice ++ '|' ::
    dateText identity.key.expiry)

/-- What `lotIdentityUuid` hashes after the namespace. -/
def hashed (identity : LotIdentity) : List Char :=
  uuidText identity.companyId ++ '|' :: (uuidText identity.itemId ++ '|' ::
    (identity.key.batch.toList ++ '|' :: (identity.figures ++ '|' ::
      (identity.key.serial.toList ++ '|' :: uuidText identity.key.supplier))))

/-- The eight components are equal, the prices at six places. -/
structure Same (first second : LotIdentity) : Prop where
  companyId : first.companyId = second.companyId
  itemId : first.itemId = second.itemId
  batch : first.key.batch = second.key.batch
  mrp : round6 first.key.mrp = round6 second.key.mrp
  salePrice : round6 first.key.salePrice = round6 second.key.salePrice
  expiry : first.key.expiry = second.key.expiry
  serial : first.key.serial = second.key.serial
  supplier : first.key.supplier = second.key.supplier

/-- The second's batch goes on through the first's own figures, and the first's serial
carries the second's: the same text, cut elsewhere. -/
structure Straddles (first second : LotIdentity) : Prop where
  companyId : first.companyId = second.companyId
  itemId : first.itemId = second.itemId
  supplier : first.key.supplier = second.key.supplier
  texts : ∃ more, second.key.batch.toList = first.key.batch.toList ++ '|' :: (first.figures ++ more) ∧
    '|' :: first.key.serial.toList = more ++ '|' :: (second.figures ++ '|' :: second.key.serial.toList)

/-- Two expiries in different eras that are written the same, and all else equal. -/
structure EraTwins (first second : LotIdentity) : Prop where
  companyId : first.companyId = second.companyId
  itemId : first.itemId = second.itemId
  batch : first.key.batch = second.key.batch
  mrp : round6 first.key.mrp = round6 second.key.mrp
  salePrice : round6 first.key.salePrice = round6 second.key.salePrice
  expiry : first.key.expiry ≠ second.key.expiry ∧
    dateText first.key.expiry = dateText second.key.expiry
  serial : first.key.serial = second.key.serial
  supplier : first.key.supplier = second.key.supplier

/-- Two identities the encoding cannot tell apart. -/
def Confusable (first second : LotIdentity) : Prop :=
  first.Straddles second ∨ second.Straddles first ∨ first.EraTwins second

variable {first second : LotIdentity}

theorem figures_inj : first.figures = second.figures ↔
      round6 first.key.mrp = round6 second.key.mrp ∧
      round6 first.key.salePrice = round6 second.key.salePrice ∧
      dateText first.key.expiry = dateText second.key.expiry := by
  rw [figures, figures, cut_inj (bar_not_mem_numericText _) (bar_not_mem_numericText _),
    cut_inj (bar_not_mem_numericText _) (bar_not_mem_numericText _), numericText_inj,
    numericText_inj]

/-- A batch that goes on past the first bar goes on past the figures. -/
theorem past_figures {firstSerial secondSerial more : List Char}
    (same : first.figures ++ '|' :: firstSerial =
      more ++ '|' :: (second.figures ++ '|' :: secondSerial)) :
    ∃ rest, more = first.figures ++ rest ∧
      '|' :: firstSerial = rest ++ '|' :: (second.figures ++ '|' :: secondSerial) := by
  simp only [figures, List.append_assoc, List.cons_append] at same ⊢
  -- the bars of the figures are reached one after the other
  obtain ⟨rfl, after⟩ | ⟨past, rfl, after⟩ := cut_plain_cases (bar_not_mem_numericText _) same
  · rw [cut_inj (bar_not_mem_numericText _) (bar_not_mem_numericText _)] at after
    obtain ⟨day, -⟩ :=
      (cut_inj (bar_not_mem_dateText _) (bar_not_mem_numericText _)).mp after.2
    exact (numericText_ne_dateText _ _ day.symm).elim
  · obtain ⟨rfl, tail⟩ | ⟨past, rfl, tail⟩ := cut_plain_cases (bar_not_mem_numericText _) after
    · obtain ⟨day, -⟩ :=
        (cut_inj (bar_not_mem_dateText _) (bar_not_mem_numericText _)).mp tail
      exact (numericText_ne_dateText _ _ day.symm).elim
    · obtain ⟨rfl, last⟩ | ⟨past, rfl, last⟩ := cut_plain_cases (bar_not_mem_dateText _) tail
      · exact ⟨[], by simp, by simp [last]⟩
      · exact ⟨'|' :: past, by simp, by simp [last]⟩

/-- The same text cut elsewhere. -/
theorem Straddles.hashed_eq (straddles : first.Straddles second) :
    first.hashed = second.hashed := by
  obtain ⟨more, batch, serial⟩ := straddles.texts
  rw [hashed, hashed, straddles.companyId, straddles.itemId, straddles.supplier, batch]
  have middle : first.figures ++ '|' :: (first.key.serial.toList ++
        '|' :: uuidText second.key.supplier) =
      (first.figures ++ more) ++ '|' :: (second.figures ++ '|' :: (second.key.serial.toList ++
        '|' :: uuidText second.key.supplier)) := by
    rw [← List.cons_append, serial]
    simp
  rw [middle]
  simp

theorem Straddles.batch_ne (straddles : first.Straddles second) :
    first.key.batch ≠ second.key.batch := by
  intro same
  obtain ⟨more, batch, -⟩ := straddles.texts
  have lengths := congrArg List.length batch
  rw [same, List.length_append, List.length_cons] at lengths
  omega

theorem hashed_inj (same : first.hashed = second.hashed) :
    first.companyId = second.companyId ∧ first.itemId = second.itemId ∧
      first.key.supplier = second.key.supplier ∧
      first.key.batch.toList ++ '|' :: (first.figures ++ '|' :: first.key.serial.toList) =
        second.key.batch.toList ++ '|' :: (second.figures ++ '|' :: second.key.serial.toList) := by
  have bar := bar_not_mem_uuidText
  obtain ⟨company, rest⟩ := (cut_inj (bar _) (bar _)).mp same
  obtain ⟨item, rest⟩ := (cut_inj (bar _) (bar _)).mp rest
  have joined (identity : LotIdentity) :
      identity.key.batch.toList ++ '|' :: (identity.figures ++ '|' ::
          (identity.key.serial.toList ++ '|' :: uuidText identity.key.supplier)) =
        (identity.key.batch.toList ++ '|' :: (identity.figures ++ '|' ::
          identity.key.serial.toList)) ++ '|' :: uuidText identity.key.supplier := by
    simp
  rw [joined, joined, cut_last_inj (bar _) (bar _)] at rest
  exact ⟨uuidText_inj company, uuidText_inj item, uuidText_inj rest.2, rest.1⟩

/-- One text is two identities exactly where a batch straddles the figures, or two eras are
written alike. -/
theorem hashed_eq_iff :
    first.hashed = second.hashed ↔ first.Same second ∨ first.Confusable second := by
  constructor
  · intro same
    obtain ⟨company, item, supplier, texts⟩ := hashed_inj same
    obtain ⟨batch, tail⟩ | ⟨more, batch, tail⟩ | ⟨more, batch, tail⟩ := cut_cases texts
    · have batch := String.toList_inj.mp batch
      have bars (identity : LotIdentity) (rest : List Char) : identity.figures ++ '|' :: rest =
          numericText identity.key.mrp ++ '|' :: (numericText identity.key.salePrice ++ '|' ::
            (dateText identity.key.expiry ++ '|' :: rest)) := by
        simp [figures]
      rw [bars, bars, cut_inj (bar_not_mem_numericText _) (bar_not_mem_numericText _),
        cut_inj (bar_not_mem_numericText _) (bar_not_mem_numericText _),
        cut_inj (bar_not_mem_dateText _) (bar_not_mem_dateText _), numericText_inj,
        numericText_inj] at tail
      obtain ⟨mrp, salePrice, day, serial⟩ := tail
      have serial := String.toList_inj.mp serial
      by_cases expiry : first.key.expiry = second.key.expiry
      · exact .inl ⟨company, item, batch, mrp, salePrice, expiry, serial, supplier⟩
      · exact .inr (.inr (.inr ⟨company, item, batch, mrp, salePrice, ⟨expiry, day⟩, serial,
          supplier⟩))
    · obtain ⟨rest, rfl, serial⟩ := past_figures tail
      exact .inr (.inl ⟨company, item, supplier, rest, batch, serial⟩)
    · obtain ⟨rest, rfl, serial⟩ := past_figures tail
      exact .inr (.inr (.inl ⟨company.symm, item.symm, supplier.symm, rest, batch, serial⟩))
  · have figured (left right : LotIdentity) (mrp : round6 left.key.mrp = round6 right.key.mrp)
        (salePrice : round6 left.key.salePrice = round6 right.key.salePrice)
        (day : dateText left.key.expiry = dateText right.key.expiry) :
        left.figures = right.figures :=
      figures_inj.mpr ⟨mrp, salePrice, day⟩
    rintro (same | straddles | straddles | twins)
    · rw [hashed, hashed, same.companyId, same.itemId, same.batch, same.serial, same.supplier,
        figured first second same.mrp same.salePrice (congrArg dateText same.expiry)]
    · exact straddles.hashed_eq
    · exact straddles.hashed_eq.symm
    · rw [hashed, hashed, twins.companyId, twins.itemId, twins.batch, twins.serial,
        twins.supplier, figured first second twins.mrp twins.salePrice twins.expiry.2]

theorem Same.not_confusable (same : first.Same second) : ¬first.Confusable second := by
  rintro (straddles | straddles | twins)
  · exact straddles.batch_ne same.batch
  · exact straddles.batch_ne same.batch.symm
  · exact twins.expiry.1 same.expiry

/-- The text tells an identity from every other it is not confusable with, and from no
other. -/
theorem hashed_apart_iff :
    (first.hashed = second.hashed → first.Same second) ↔ ¬first.Confusable second := by
  constructor
  · intro apart confusable
    exact (apart (hashed_eq_iff.mpr (.inr confusable))).not_confusable confusable
  · intro apart same
    exact (hashed_eq_iff.mp same).resolve_right apart

end LotIdentity

/-! ## The id -/

/-- The namespace, decoded from its hexadecimal. -/
def STOCK_LOT_ID_NAMESPACE : ByteArray :=
  ⟨#[0x2f, 0x0b, 0x7c, 0x1e, 0x5d, 0x3a, 0x4e, 0x8f, 0x9b, 0x61, 0x7c, 0x4d, 0x2a, 0x9e, 0x0f, 0x53]⟩

/-- What an id keeps of the hash: its first 32 hexadecimal digits, less digit 13 and the
upper half of digit 17. -/
def keptBits (hash : BitVec 160) : BitVec 128 :=
  hash.extractLsb' 32 128 &&& 0xffffffffffff0fff3fffffffffffffff#128

/-- Version 5 on digit 13, variant 10 on octet 8. -/
def versioned (hash : BitVec 160) : BitVec 128 :=
  keptBits hash ||| 0x00000000000050008000000000000000#128

theorem versioned_inj {first second : BitVec 160} :
    versioned first = versioned second ↔ keptBits first = keptBits second := by
  have masked (hash : BitVec 160) :
      versioned hash &&& 0xffffffffffff0fff3fffffffffffffff#128 = keptBits hash := by
    have apart : 0x00000000000050008000000000000000#128 &&&
        0xffffffffffff0fff3fffffffffffffff#128 = 0#128 := by
      decide
    rw [versioned, keptBits, BitVec.and_or_distrib_right, BitVec.and_assoc, BitVec.and_self,
      apart, BitVec.or_zero]
  constructor
  · intro same
    rw [← masked first, same, masked second]
  · intro same
    rw [versioned, same, versioned]

/-- An id minted by name, as against one minted from the clock. -/
def IsVersion5 (id : Uuid) : Prop := ∃ hash, id = (versioned hash).toNat

section Minting

variable (sha1 : ByteArray → BitVec 160)

def LotIdentity.digest (identity : LotIdentity) : BitVec 160 :=
  sha1 (STOCK_LOT_ID_NAMESPACE ++ (String.ofList identity.hashed).toUTF8)

def lotIdentityUuid (companyId itemId : Uuid) (key : LotKey) : Uuid :=
  (versioned (LotIdentity.digest sha1 ⟨companyId, itemId, key⟩)).toNat

def LotIdentity.sltId (identity : LotIdentity) : Uuid :=
  lotIdentityUuid sha1 identity.companyId identity.itemId identity.key

/-- The hash does not collide on the bits an id keeps of it. -/
def NoCollision (first second : LotIdentity) : Prop :=
  keptBits (first.digest sha1) = keptBits (second.digest sha1) → first.hashed = second.hashed

variable {sha1} {first second : LotIdentity}

theorem sltId_eq_iff (noCollision : NoCollision sha1 first second) :
    first.sltId sha1 = second.sltId sha1 ↔ first.hashed = second.hashed := by
  constructor
  · intro same
    exact noCollision (versioned_inj.mp (BitVec.eq_of_toNat_eq same))
  · intro same
    have digests : first.digest sha1 = second.digest sha1 := by
      rw [LotIdentity.digest, same, LotIdentity.digest]
    exact congrArg (fun hash => (versioned hash).toNat) digests

theorem sltId_isVersion5 : IsVersion5 (first.sltId sha1) := ⟨first.digest sha1, rfl⟩

end Minting

end ErpServer.Stock
