import Mathlib.Data.Nat.Digits.Defs
import Mathlib.Data.List.Basic
import Mathlib.Tactic.IntervalCases

/-!
# Numbers and days written out

Numbers in a base, padded with zeros; decimals at a fixed number of places; days of the
calendar.  Each can be read back, and each is written in digits and a few signs, so that a
separator that is none of these stands where it seems to stand.
-/

namespace Lib.Rendering

/-! ## Separators -/

section Separators

variable {α : Type} {sep : α}

variable {left leftRest right rightRest : List α}

/-- Two ways to cut one list at a separator: they agree, or one field goes on past the other. -/
theorem cut_cases (same : left ++ sep :: leftRest = right ++ sep :: rightRest) :
    left = right ∧ leftRest = rightRest ∨
      (∃ more, right = left ++ sep :: more ∧ leftRest = more ++ sep :: rightRest) ∨
      ∃ more, left = right ++ sep :: more ∧ rightRest = more ++ sep :: leftRest := by
  rw [List.append_eq_append_iff] at same
  cases same with
  | inl past =>
      obtain ⟨more, longer, tail⟩ := past
      cases more with
      | nil => exact .inl ⟨by simpa using longer.symm, by simpa using tail⟩
      | cons first more =>
          rw [List.cons_append, List.cons.injEq] at tail
          obtain ⟨rfl, tail⟩ := tail
          exact .inr (.inl ⟨more, longer, tail⟩)
  | inr past =>
      obtain ⟨more, longer, tail⟩ := past
      cases more with
      | nil => exact .inl ⟨by simpa using longer, by simpa using tail.symm⟩
      | cons first more =>
          rw [List.cons_append, List.cons.injEq] at tail
          obtain ⟨rfl, tail⟩ := tail
          exact .inr (.inr ⟨more, longer, tail⟩)

/-- A field without the separator in it ends the other, or the other goes on past it. -/
theorem cut_plain_cases (plain : sep ∉ left)
    (same : left ++ sep :: leftRest = right ++ sep :: rightRest) :
    right = left ∧ leftRest = rightRest ∨
      ∃ more, right = left ++ sep :: more ∧ leftRest = more ++ sep :: rightRest := by
  obtain agree | past | ⟨more, rfl, -⟩ := cut_cases same
  · exact .inl ⟨agree.1.symm, agree.2⟩
  · exact .inr past
  · simp at plain

theorem cut_inj (leftPlain : sep ∉ left) (rightPlain : sep ∉ right) :
    left ++ sep :: leftRest = right ++ sep :: rightRest ↔ left = right ∧ leftRest = rightRest := by
  constructor
  · intro same
    obtain agree | ⟨more, rfl, -⟩ | ⟨more, rfl, -⟩ := cut_cases same
    · exact agree
    · simp at rightPlain
    · simp at leftPlain
  · rintro ⟨rfl, rfl⟩
    rfl

/-- Cut at its last separator. -/
theorem cut_last_inj (leftPlain : sep ∉ leftRest) (rightPlain : sep ∉ rightRest) :
    left ++ sep :: leftRest = right ++ sep :: rightRest ↔ left = right ∧ leftRest = rightRest := by
  constructor
  · intro same
    obtain agree | ⟨more, -, rfl⟩ | ⟨more, -, rfl⟩ := cut_cases same
    · exact agree
    · simp at leftPlain
    · simp at rightPlain
  · rintro ⟨rfl, rfl⟩
    rfl

/-- Fields without the separator are told by the text that joins them. -/
theorem intercalate_inj {separator : Char} {left right : List String}
    (leftPlain : ∀ field ∈ left, separator ∉ field.toList)
    (rightPlain : ∀ field ∈ right, separator ∉ field.toList)
    (leftNonempty : left ≠ []) (rightNonempty : right ≠ [])
    (same : (String.singleton separator).intercalate left =
      (String.singleton separator).intercalate right) : left = right := by
  have chars (fields : List String) (plain : ∀ field ∈ fields, separator ∉ field.toList)
      (nonempty : fields ≠ []) :
      ((String.singleton separator).intercalate fields).toList.splitOn separator =
        fields.map String.toList := by
    rw [String.toList_intercalate, String.toList_singleton]
    apply List.splitOn_intercalate
    · intro chars member
      obtain ⟨field, inside, rfl⟩ := List.mem_map.mp member
      exact plain field inside
    · exact fun none => nonempty (List.map_eq_nil_iff.mp none)
  have split := congrArg (fun text : String => text.toList.splitOn separator) same
  rw [chars left leftPlain leftNonempty, chars right rightPlain rightNonempty] at split
  exact List.map_injective_iff.mpr (fun _ _ => String.toList_inj.mp) split

end Separators

/-! ## Digits -/

/-- A number in a base, most significant digit first, padded with zeros to a width. -/
def digits (base width n : ℕ) : List Char :=
  ((Nat.digits base n).rightpad width 0).reverse.map Nat.digitChar

/-- The digit a character stands for. -/
def digitValue (char : Char) : ℕ :=
  ((List.range 16).find? fun digit => digit.digitChar = char).getD 0

theorem digitValue_digitChar {digit : ℕ} (small : digit < 16) :
    digitValue digit.digitChar = digit := by
  interval_cases digit <;> decide

variable {base n places width : ℕ} {char : Char} {units : ℤ}

theorem padded_lt (proper : 1 < base) (small : base ≤ 16) :
    ∀ digit ∈ (Nat.digits base n).rightpad width 0, digit < 16 := by
  intro digit listed
  rw [List.rightpad, List.mem_append] at listed
  cases listed with
  | inl written => exact lt_of_lt_of_le (Nat.digits_lt_base proper written) small
  | inr zero => simp [(List.mem_replicate.mp zero).2]

/-- What is written reads back, whatever it is padded to. -/
theorem ofDigits_written {base width : ℕ} (proper : 1 < base) (small : base ≤ 16) (n : ℕ) :
    Nat.ofDigits base (((digits base width n).map digitValue).reverse) = n := by
  have values : ((Nat.digits base n).rightpad width 0).map (digitValue ∘ Nat.digitChar) =
      (Nat.digits base n).rightpad width 0 := by
    conv_rhs => rw [← List.map_id ((Nat.digits base n).rightpad width 0)]
    apply List.map_congr_left
    intro digit listed
    exact digitValue_digitChar (padded_lt proper small digit listed)
  rw [digits, List.map_map, List.map_reverse, List.reverse_reverse, values, List.rightpad,
    Nat.ofDigits_append_replicate_zero, Nat.ofDigits_digits]

theorem digits_inj (proper : 1 < base) (small : base ≤ 16) {m : ℕ}
    (same : digits base width m = digits base width n) : m = n := by
  rw [← @ofDigits_written base width proper small m, same, ofDigits_written proper small n]

theorem length_digits (base width n : ℕ) :
    (digits base width n).length = max width (Nat.digits base n).length := by
  rw [digits, List.length_map, List.length_reverse, List.rightpad, List.length_append,
    List.length_replicate]
  omega

/-- What is written is digits of the base. -/
theorem mem_digits (proper : 1 < base) (written : char ∈ digits base width n) :
    ∃ digit < base, digit.digitChar = char := by
  rw [digits, List.mem_map] at written
  obtain ⟨digit, listed, same⟩ := written
  rw [List.mem_reverse, List.rightpad, List.mem_append] at listed
  refine ⟨digit, ?_, same⟩
  cases listed with
  | inl inNumber => exact Nat.digits_lt_base proper inNumber
  | inr padding => rw [(List.mem_replicate.mp padding).2]; omega

theorem not_mem_digits (proper : 1 < base) (small : base ≤ 16)
    (other : ∀ digit < 16, digit.digitChar ≠ char) : char ∉ digits base width n := by
  intro written
  rw [digits, List.mem_map] at written
  obtain ⟨digit, listed, same⟩ := written
  exact other digit (padded_lt proper small digit (List.mem_reverse.mp listed)) same

/-- The number some figures stand for. -/
def numeral (figures : List Char) : ℕ := Nat.ofDigits 10 (figures.map digitValue).reverse

theorem numeral_append (left right : List Char) :
    numeral (left ++ right) = numeral left * 10 ^ right.length + numeral right := by
  rw [numeral, List.map_append, List.reverse_append, Nat.ofDigits_append, List.length_reverse,
    List.length_map, ← numeral, ← numeral]
  ring

theorem numeral_zeros (count : ℕ) (figures : List Char) :
    numeral (List.replicate count '0' ++ figures) = numeral figures := by
  have zero : digitValue '0' = 0 := by decide
  have zeros : numeral (List.replicate count '0') = 0 := by
    rw [numeral, List.map_replicate, List.reverse_replicate, zero]
    exact Nat.ofDigits_replicate_zero
  rw [numeral_append, zeros, Nat.zero_mul, Nat.zero_add]

theorem numeral_digits (width n : ℕ) : numeral (digits 10 width n) = n :=
  ofDigits_written (by decide) (by decide) n

theorem digits_ne_nil (wide : 0 < width) (n : ℕ) : digits base width n ≠ [] := by
  intro empty
  have length := length_digits base width n
  rw [empty, List.length_nil] at length
  omega

theorem isDigit_digits : ∀ char ∈ digits 10 width n, char.isDigit = true := by
  intro char written
  obtain ⟨digit, small, rfl⟩ := mem_digits (by decide) written
  interval_cases digit <;> decide

/-! ## Decimals -/

/-- So many units of the last place, with every place written. -/
def fixedPoint (places : ℕ) (units : ℤ) : List Char :=
  (if units < 0 then ['-'] else []) ++ digits 10 1 (units.natAbs / 10 ^ places) ++
    '.' :: digits 10 places (units.natAbs % 10 ^ places)

theorem minus_mem_fixedPoint : '-' ∈ fixedPoint places units ↔ units < 0 := by
  have plain (width n : ℕ) : '-' ∉ digits 10 width n :=
    not_mem_digits (by decide) (by decide) (by decide)
  rw [fixedPoint]
  split <;> simp_all

theorem not_mem_fixedPoint (other : ∀ digit < 16, digit.digitChar ≠ char) (minus : char ≠ '-')
    (point : char ≠ '.') : char ∉ fixedPoint places units := by
  have plain (width n : ℕ) : char ∉ digits 10 width n :=
    not_mem_digits (by decide) (by decide) other
  rw [fixedPoint]
  split <;> simp [plain, minus, point]

theorem point_mem_fixedPoint : '.' ∈ fixedPoint places units := by
  simp [fixedPoint]

theorem fixedPoint_inj {left right : ℤ} (same : fixedPoint places left = fixedPoint places right) :
    left = right := by
  have plain (width n : ℕ) : '.' ∉ digits 10 width n :=
    not_mem_digits (by decide) (by decide) (by decide)
  have signs : left < 0 ↔ right < 0 := by
    constructor
    · intro negative
      exact minus_mem_fixedPoint.mp (same ▸ minus_mem_fixedPoint.mpr negative)
    · intro negative
      exact minus_mem_fixedPoint.mp (same ▸ minus_mem_fixedPoint.mpr negative)
  have magnitudes : digits 10 1 (left.natAbs / 10 ^ places) ++
        '.' :: digits 10 places (left.natAbs % 10 ^ places) =
      digits 10 1 (right.natAbs / 10 ^ places) ++
        '.' :: digits 10 places (right.natAbs % 10 ^ places) := by
    rw [fixedPoint, fixedPoint, List.append_assoc, List.append_assoc, if_congr signs rfl rfl] at same
    exact List.append_cancel_left same
  obtain ⟨whole, part⟩ := (cut_inj (plain _ _) (plain _ _)).mp magnitudes
  have whole := digits_inj (by decide) (by decide) whole
  have part := digits_inj (by decide) (by decide) part
  have sizes : left.natAbs = right.natAbs := by
    rw [← Nat.div_add_mod left.natAbs (10 ^ places), whole, part, Nat.div_add_mod]
  omega

/-! ## Days -/

/-- The year, month and day of a day counted from 1 January 1970, in the Gregorian calendar
run backwards for ever.  The years counted inside it begin in March. -/
def civil (date : ℤ) : ℤ × ℤ × ℤ :=
  let ofEra := (date + 719468) % 146097
  let century := min 3 (ofEra / 36524)
  let ofCentury := ofEra - 36524 * century
  let leap := ofCentury / 1461
  let ofLeap := ofCentury - 1461 * leap
  let year := min 3 (ofLeap / 365)
  let ofYear := ofLeap - 365 * year
  let month := (5 * ofYear + 2) / 153
  ((date + 719468) / 146097 * 400 + century * 100 + leap * 4 + year +
      (if month < 10 then 0 else 1),
    (if month < 10 then month + 3 else month - 9),
    ofYear - (153 * month + 2) / 5 + 1)

/-- `to_char(date, 'YYYY-MM-DD')`: a year before the first is written as it is counted
backwards, without its era. -/
def dateText (date : ℤ) : List Char :=
  digits 10 4 (if 0 < (civil date).1 then (civil date).1 else 1 - (civil date).1).toNat ++
    '-' :: (digits 10 2 (civil date).2.1.toNat ++ '-' :: digits 10 2 (civil date).2.2.toNat)

theorem not_mem_dateText {date : ℤ} (other : ∀ digit < 16, digit.digitChar ≠ char)
    (minus : char ≠ '-') : char ∉ dateText date := by
  have plain (width n : ℕ) : char ∉ digits 10 width n :=
    not_mem_digits (by decide) (by decide) other
  simp [dateText, plain, minus]

end Lib.Rendering
