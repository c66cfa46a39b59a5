import Mathlib.Data.Nat.Basic
import ErpServer.Lib.Fold
import ErpServer.Lib.Text

/-!
# Voucher numbers

The scope a counter runs in, the counter kept for it, and the reference number printed
from a running number: the prefix, the number padded to its width, the suffix.
-/

namespace ErpServer.Sequence

abbrev Uuid := ℕ

/-! ## Refusals -/

inductive SequenceErrorCode where
  | FIELD_NOT_INTEGER
  | FIELD_EMPTY
  | FIELD_TOO_LONG
  | FIELD_BELOW_MIN
  | VOUCHER_TYPE_NOT_FOUND
  | COMPANY_NOT_FOUND
  | BRANCH_NOT_FOUND
  | INACTIVE
  | REFNO_TOO_LONG
  | NOT_FOUND
  | SCOPE_DUPLICATE
  deriving DecidableEq, Repr

structure SequenceErrorDetail where
  field : String
  code : SequenceErrorCode
  deriving DecidableEq, Repr

/-! ## The counter -/

inductive VoucherResetFreq where
  | NEVER
  | DAILY
  | MONTHLY
  | YEARLY
  deriving DecidableEq, Repr

/-- What a numbered document reads of its voucher type. -/
structure AccVoucherType where
  vchrTypeId : ℤ
  vchrNoPrefix : Option String
  vchrNoSuffix : Option String
  vchrNoWidth : ℕ
  vchrResetFreq : VoucherResetFreq
  deriving DecidableEq, Repr

/-- The six columns `uq_acc_voucher_seq_scope` holds unique. -/
structure SequenceScope where
  vchrTypeId : ℤ
  companyId : Uuid
  branchId : Uuid
  accYear : String
  deviceCode : String
  periodKey : String
  deriving DecidableEq, Repr

/-- The other grouping of the same rows, which the maintenance numbers by. -/
structure SequenceLastNoScope where
  companyId : Uuid
  branchId : Uuid
  accYear : String
  deviceId : Option Uuid
  deriving DecidableEq, Repr

/-- The counter of a scope. -/
structure AccVoucherSeq where
  id : ℕ
  scope : SequenceScope
  deviceId : Option Uuid
  lastNo : ℕ
  voucherPrefix : Option String
  voucherSuffix : Option String
  noWidth : ℕ
  lastRefno : Option String
  isActive : Bool
  isDeleted : Bool
  deriving DecidableEq, Repr

def AccVoucherSeq.lastNoScope (row : AccVoucherSeq) : SequenceLastNoScope :=
  ⟨row.scope.companyId, row.scope.branchId, row.scope.accYear, row.deviceId⟩

/-! ## Texts -/

/-- `text.trim()`. -/
def trim (text : String) : String :=
  String.ofList (Lib.Text.trim text.toList)

/-- `digits.padStart(width, '0')`. -/
def padStart (digits : String) (width : ℕ) : String :=
  String.ofList (List.replicate (width - digits.length) '0' ++ digits.toList)

def requireText (value field : String) : Except SequenceErrorDetail String :=
  if trim value = "" then .error ⟨field, .FIELD_EMPTY⟩ else .ok (trim value)

def normalizeRequiredString (value field : String) (maxLength : ℕ) :
    Except SequenceErrorDetail String :=
  if trim value = "" then .error ⟨field, .FIELD_EMPTY⟩
  else if maxLength < (trim value).length then .error ⟨field, .FIELD_TOO_LONG⟩
  else .ok (trim value)

/-- An empty text is not given; a given one is checked as a required one. -/
def normalizeOptionalString (value : Option String) (field : String) (maxLength : ℕ) :
    Except SequenceErrorDetail (Option String) :=
  match value with
  | none => .ok none
  | some text => if text = "" then .ok none else (normalizeRequiredString text field maxLength).map some

/-! ## The printed number -/

/-- The format a number is printed in. -/
structure RefnoFormat where
  voucherPrefix : Option String
  voucherSuffix : Option String
  noWidth : ℕ
  deriving DecidableEq, Repr

def AccVoucherSeq.format (row : AccVoucherSeq) : RefnoFormat :=
  ⟨row.voucherPrefix, row.voucherSuffix, row.noWidth⟩

def REFNO_MAX_LENGTH : ℕ := 100

/-- A number that outgrows its width keeps counting rather than truncating. -/
def RefnoFormat.print (format : RefnoFormat) (number : ℕ) : String :=
  let digits := number.repr
  let width := max format.noWidth digits.length
  trim (format.voucherPrefix.getD "") ++ padStart digits width ++
    trim (format.voucherSuffix.getD "")

def buildRefno (sequence : AccVoucherSeq) : Except SequenceErrorDetail String :=
  let refno := sequence.format.print sequence.lastNo
  if REFNO_MAX_LENGTH < refno.length then .error ⟨"vchrTypeId", .REFNO_TOO_LONG⟩ else .ok refno

/-- A padded number reads back as the number. -/
theorem ofDigitChars_padStart (number width : ℕ) :
    Nat.ofDigitChars 10 (padStart number.repr width).toList 0 = number := by
  rw [padStart, String.toList_ofList, Nat.toList_repr, Nat.ofDigitChars_append,
    Nat.ofDigitChars_replicate_zero, Nat.mul_zero, Nat.ofDigitChars_ten_toDigits]

/-- In one format, two numbers never print alike. -/
theorem RefnoFormat.print_injective (format : RefnoFormat) :
    Function.Injective format.print := by
  intro first second alike
  have lists := congrArg String.toList alike
  simp only [print, String.toList_append] at lists
  have tails := List.append_inj_left' lists rfl
  have padded := List.append_cancel_left tails
  have numbers := congrArg (fun digits => Nat.ofDigitChars 10 digits 0) padded
  simpa only [ofDigitChars_padStart] using numbers

/-! ## Reset periods -/

structure CalendarDate where
  year : ℕ
  month : ℕ
  day : ℕ
  deriving DecidableEq, Repr

/-- The bucket the counter resets in. -/
def buildPeriodKey (resetFreq : VoucherResetFreq) (accYear : String)
    (documentDate : Option CalendarDate) (now : CalendarDate) : String :=
  let reference := documentDate.getD now
  let year := reference.year.repr
  let month := padStart reference.month.repr 2
  let day := padStart reference.day.repr 2
  match resetFreq with
  | .NEVER => "ALL"
  | .DAILY => year ++ "-" ++ month ++ "-" ++ day
  | .MONTHLY => year ++ "-" ++ month
  | .YEARLY => accYear

/-! ## What an allocation and a maintenance of a counter compute

The scope a document is numbered in, the row its first number opens, and what the create
and the update of the sequence master write.  Which rows they read, and when, is left to
the transactions. -/

open Lib

/-- What both services check against: the voucher types, the companies in use, and the
branches in use with the company of each. -/
structure SequenceMasters where
  voucherTypes : List AccVoucherType
  companies : List Uuid
  branches : List (Uuid × Uuid)

def DEFAULT_DEVICE_CODE : String := "MAIN"

/-! ## The scope of a document -/

structure VoucherNumberScope where
  vchrTypeId : ℤ
  companyId : Uuid
  branchId : Uuid
  accYear : String
  deviceCode : Option String
  documentDate : Option CalendarDate
  now : CalendarDate
  deriving DecidableEq, Repr

/-- The voucher type, and the scope its reset period puts the document in. -/
def resolveScope (masters : SequenceMasters) (scope : VoucherNumberScope) :
    Except SequenceErrorDetail (AccVoucherType × SequenceScope) := do
  if scope.vchrTypeId ≤ 0 then .error ⟨"vchrTypeId", .FIELD_NOT_INTEGER⟩
  else
    let accYear ← requireText scope.accYear "accYear"
    let deviceCode := trim (scope.deviceCode.getD "")
    match masters.voucherTypes.find? fun type => type.vchrTypeId = scope.vchrTypeId with
    | none => .error ⟨"vchrTypeId", .VOUCHER_TYPE_NOT_FOUND⟩
    | some type =>
        .ok (type,
          { vchrTypeId := scope.vchrTypeId
            companyId := scope.companyId
            branchId := scope.branchId
            accYear
            deviceCode := if deviceCode = "" then DEFAULT_DEVICE_CODE else deviceCode
            periodKey := buildPeriodKey type.vchrResetFreq accYear scope.documentDate scope.now })

/-- The row a scope's first number opens, seeded with the format of the voucher type. -/
def openedSequence (masters : SequenceMasters) (scope : SequenceScope) (type : AccVoucherType)
    (id : ℕ) : Except SequenceErrorDetail AccVoucherSeq :=
  if scope.companyId ∉ masters.companies then .error ⟨"companyId", .COMPANY_NOT_FOUND⟩
  else if (scope.branchId, scope.companyId) ∉ masters.branches then
    .error ⟨"branchId", .BRANCH_NOT_FOUND⟩
  else
    .ok { id, scope
          deviceId := none
          lastNo := 0
          voucherPrefix := type.vchrNoPrefix
          voucherSuffix := type.vchrNoSuffix
          noWidth := type.vchrNoWidth
          lastRefno := none
          isActive := true
          isDeleted := false }

/-- The counter one further, with the number it prints. -/
def AccVoucherSeq.consumed (row : AccVoucherSeq) : Except SequenceErrorDetail (AccVoucherSeq × String) := do
  let consumed := { row with lastNo := row.lastNo + 1 }
  let refno ← buildRefno consumed
  return ({ consumed with lastRefno := some refno }, refno)

/-! ## Maintenance -/

/-- Of a field that may be left out, nulled or given. -/
abbrev Given (α : Type) := Option (Option α)

structure CreateSequenceDto where
  vchrTypeId : ℤ
  companyId : Uuid
  branchId : Uuid
  accYear : String
  deviceCode : Option String
  periodKey : String
  deviceId : Given Uuid
  noWidth : Option ℤ
  voucherPrefix : Given String
  voucherSuffix : Given String
  lastRefno : Given String
  isActive : Option Bool
  deriving DecidableEq, Repr

structure UpdateSequenceDto where
  vchrTypeId : Option ℤ
  companyId : Option Uuid
  branchId : Option Uuid
  accYear : Option String
  deviceCode : Option String
  periodKey : Option String
  deviceId : Given Uuid
  noWidth : Option ℤ
  voucherPrefix : Given String
  voucherSuffix : Given String
  lastRefno : Given String
  isActive : Option Bool
  deriving DecidableEq, Repr

/-- The columns an UPDATE sets; the rest of the row stays as it then is. -/
structure SequenceData where
  scope : SequenceScope → SequenceScope
  lastNo : Option ℕ
  deviceId : Given Uuid
  noWidth : Option ℕ
  voucherPrefix : Given String
  voucherSuffix : Given String
  lastRefno : Given String
  isActive : Option Bool
  isDeleted : Option Bool

def SequenceData.set (data : SequenceData) (row : AccVoucherSeq) : AccVoucherSeq where
  id := row.id
  scope := data.scope row.scope
  lastNo := data.lastNo.getD row.lastNo
  deviceId := data.deviceId.getD row.deviceId
  noWidth := data.noWidth.getD row.noWidth
  voucherPrefix := data.voucherPrefix.getD row.voucherPrefix
  voucherSuffix := data.voucherSuffix.getD row.voucherSuffix
  lastRefno := data.lastRefno.getD row.lastRefno
  isActive := data.isActive.getD row.isActive
  isDeleted := data.isDeleted.getD row.isDeleted

def normalizeRequiredInteger (value : ℤ) (field : String) : Except SequenceErrorDetail ℕ :=
  if value < 1 then .error ⟨field, .FIELD_BELOW_MIN⟩ else .ok value.toNat

/-- A null or an empty text nulls the column. -/
def normalizeNullableString (value : Given String) (field : String) (maxLength : ℕ) :
    Except SequenceErrorDetail (Given String) :=
  match value with
  | none => .ok none
  | some none => .ok (some none)
  | some (some text) =>
      if text = "" then .ok (some none)
      else (normalizeRequiredString text field maxLength).map fun text => some (some text)

def normalizeOptional {α β : Type} (value : Option α)
    (normalize : α → Except SequenceErrorDetail β) : Except SequenceErrorDetail (Option β) :=
  match value with
  | none => .ok none
  | some value => (normalize value).map some

/-- `ensureReferencesExist`. -/
def ensureReferencesExist (masters : SequenceMasters) (scope : SequenceScope) :
    Except SequenceErrorDetail Unit :=
  if masters.voucherTypes.all fun type => type.vchrTypeId ≠ scope.vchrTypeId then
    .error ⟨"vchrTypeId", .VOUCHER_TYPE_NOT_FOUND⟩
  else if scope.companyId ∉ masters.companies then .error ⟨"companyId", .COMPANY_NOT_FOUND⟩
  else if (scope.branchId, scope.companyId) ∉ masters.branches then
    .error ⟨"branchId", .BRANCH_NOT_FOUND⟩
  else .ok ()

/-- The highest counter of the group, one further; read over the rows that are seen,
whichever scope they number. -/
def getNextLastNo (seen : List AccVoucherSeq) (group : SequenceLastNoScope) (excludeId : Option ℕ) : ℕ :=
  let rows := seen.filter fun row => row.lastNoScope = group && excludeId ≠ some row.id
  ((rows.map (·.lastNo)).max?).getD 0 + 1

section Create

variable (dto : CreateSequenceDto)

def buildCreateScope : Except SequenceErrorDetail SequenceScope := do
  let vchrTypeId ← normalizeRequiredInteger dto.vchrTypeId "vchrTypeId"
  let accYear ← normalizeRequiredString dto.accYear "accYear" 9
  let deviceCode ← normalizeOptionalString dto.deviceCode "deviceCode" 20
  let periodKey ← normalizeRequiredString dto.periodKey "periodKey" 20
  return { vchrTypeId
           companyId := dto.companyId
           branchId := dto.branchId
           accYear
           deviceCode := deviceCode.getD DEFAULT_DEVICE_CODE
           periodKey }

def createLastNoScope (scope : SequenceScope) : SequenceLastNoScope :=
  ⟨scope.companyId, scope.branchId, scope.accYear, dto.deviceId.getD none⟩

/-- What the row of a scope that exists is given: the next number of the group, as an
absolute value. -/
def buildDuplicateScopeUpdateData (lastNo : ℕ) : Except SequenceErrorDetail SequenceData := do
  let noWidth ← normalizeOptional dto.noWidth fun width => normalizeRequiredInteger width "noWidth"
  let voucherPrefix ← normalizeNullableString dto.voucherPrefix "voucherPrefix" 20
  let voucherSuffix ← normalizeNullableString dto.voucherSuffix "voucherSuffix" 20
  let lastRefno ← normalizeNullableString dto.lastRefno "lastRefno" 100
  return { scope := id
           lastNo := some lastNo
           deviceId := dto.deviceId
           noWidth
           voucherPrefix
           voucherSuffix
           lastRefno
           isActive := some (dto.isActive.getD true)
           isDeleted := some false }

theorem buildDuplicateScopeUpdateData_ok {dto : CreateSequenceDto} {lastNo : ℕ} {data : SequenceData}
    (built : buildDuplicateScopeUpdateData dto lastNo = .ok data) :
    data.scope = id ∧ data.lastNo = some lastNo := by
  simp only [buildDuplicateScopeUpdateData, Fold.bind_ok_iff] at built
  obtain ⟨noWidth, _, voucherPrefix, _, voucherSuffix, _, lastRefno, _, same⟩ := built
  cases same
  exact ⟨rfl, rfl⟩

def DEFAULT_NO_WIDTH : ℕ := 5

/-- The row a create opens. -/
def createdSequence (scope : SequenceScope) (lastNo id : ℕ) :
    Except SequenceErrorDetail AccVoucherSeq := do
  let noWidth ← normalizeOptional dto.noWidth fun width => normalizeRequiredInteger width "noWidth"
  let voucherPrefix ← normalizeNullableString dto.voucherPrefix "voucherPrefix" 20
  let voucherSuffix ← normalizeNullableString dto.voucherSuffix "voucherSuffix" 20
  let lastRefno ← normalizeNullableString dto.lastRefno "lastRefno" 100
  return { id, scope
           deviceId := dto.deviceId.getD none
           lastNo
           voucherPrefix := voucherPrefix.getD none
           voucherSuffix := voucherSuffix.getD none
           noWidth := noWidth.getD DEFAULT_NO_WIDTH
           lastRefno := lastRefno.getD none
           isActive := dto.isActive.getD true
           isDeleted := false }

theorem createdSequence_ok {dto : CreateSequenceDto} {scope : SequenceScope} {lastNo id : ℕ}
    {row : AccVoucherSeq} (created : createdSequence dto scope lastNo id = .ok row) :
    row.id = id ∧ row.scope = scope := by
  simp only [createdSequence, Fold.bind_ok_iff] at created
  obtain ⟨noWidth, _, voucherPrefix, _, voucherSuffix, _, lastRefno, _, same⟩ := created
  cases same
  exact ⟨rfl, rfl⟩

end Create

section Update

variable (dto : UpdateSequenceDto)

/-- The scope columns the update names, checked. -/
def scopeData : Except SequenceErrorDetail (SequenceScope → SequenceScope) := do
  let vchrTypeId ← normalizeOptional dto.vchrTypeId fun type =>
    normalizeRequiredInteger type "vchrTypeId"
  let accYear ← normalizeOptional dto.accYear fun year => normalizeRequiredString year "accYear" 9
  let deviceCode ← normalizeOptional dto.deviceCode fun code =>
    normalizeRequiredString code "deviceCode" 20
  let periodKey ← normalizeOptional dto.periodKey fun key =>
    normalizeRequiredString key "periodKey" 20
  return fun scope =>
    { vchrTypeId := (vchrTypeId.map Int.ofNat).getD scope.vchrTypeId
      companyId := dto.companyId.getD scope.companyId
      branchId := dto.branchId.getD scope.branchId
      accYear := accYear.getD scope.accYear
      deviceCode := deviceCode.getD scope.deviceCode
      periodKey := periodKey.getD scope.periodKey }

def buildUpdateData (lastNo : Option ℕ) : Except SequenceErrorDetail SequenceData := do
  let scope ← scopeData dto
  let noWidth ← normalizeOptional dto.noWidth fun width => normalizeRequiredInteger width "noWidth"
  let voucherPrefix ← normalizeNullableString dto.voucherPrefix "voucherPrefix" 20
  let voucherSuffix ← normalizeNullableString dto.voucherSuffix "voucherSuffix" 20
  let lastRefno ← normalizeNullableString dto.lastRefno "lastRefno" 100
  return { scope, lastNo
           deviceId := dto.deviceId
           noWidth
           voucherPrefix
           voucherSuffix
           lastRefno
           isActive := dto.isActive
           isDeleted := none }

theorem buildUpdateData_ok {dto : UpdateSequenceDto} {lastNo : Option ℕ} {data : SequenceData}
    (built : buildUpdateData dto lastNo = .ok data) :
    scopeData dto = .ok data.scope ∧ data.lastNo = lastNo := by
  simp only [buildUpdateData, Fold.bind_ok_iff] at built
  obtain ⟨scope, given, noWidth, _, voucherPrefix, _, voucherSuffix, _, lastRefno, _, same⟩ := built
  cases same
  exact ⟨given, rfl⟩

/-- The group the row belongs to once updated. -/
def resolveLastNoScope (existing : AccVoucherSeq) (scope : SequenceScope) : SequenceLastNoScope :=
  ⟨scope.companyId, scope.branchId, scope.accYear, dto.deviceId.getD existing.deviceId⟩

end Update

/-- `softDelete`. -/
def deletedData : SequenceData where
  scope := id
  lastNo := none
  deviceId := none
  noWidth := none
  voucherPrefix := none
  voucherSuffix := none
  lastRefno := none
  isActive := some false
  isDeleted := some true

end ErpServer.Sequence
