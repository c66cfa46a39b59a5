import ErpServer.Print.WordsRead
import Mathlib.Data.List.TakeWhile

/-!
# Reading an amount back

The voiced amount is the one rounded half away from zero, paise and rupees apart.  The sign is
said of the amount before it is rounded, so one that rounds to nothing from below is voiced as
a negative nothing.
-/

namespace ErpServer.Print

open Lib Lib.Text Lib.Grid NumberWord
open Receipt (Decimal)

/-! ## The reader -/

/-- What the words of an amount say. -/
structure SpokenAmount where
  minus : Bool
  rupees : ℕ
  /-- The paise, if they are voiced. -/
  paise : Option ℕ
  deriving DecidableEq, Repr

def SpokenAmount.value (spoken : SpokenAmount) : Decimal :=
  let magnitude : Decimal := spoken.rupees + (spoken.paise.getD 0 : ℕ) / 100
  if spoken.minus then -magnitude else magnitude

def readSpoken (words : List NumberWord) : SpokenAmount where
  minus := decide (minus ∈ words)
  rupees := readNumber (words.takeWhile (· ≠ paise))
  paise :=
    if paise ∈ words then some (readNumber ((words.dropWhile (· ≠ paise)).drop 1)) else none

/-- The amount a text says, if it says one. -/
def readAmount (text : Text) : Option SpokenAmount := (readWords text).map readSpoken

/-- The words of an amount read back to it rounded, and the sign is that of the rounded one. -/
def VoicedAsRounded (value : Decimal) : Prop :=
  ∃ spoken, readAmount (numberToIndianWords (some value) {}) = some spoken ∧
    spoken.value = halfUp (1 / 100) value ∧
    (∀ voiced ∈ spoken.paise, 1 ≤ voiced ∧ voiced ≤ 99) ∧
    (spoken.minus = true ↔ halfUp (1 / 100) value < 0)

/-! ## The words of an amount -/

/-- The words with the sign, the rupees and the paise given. -/
def amountWords (negative : Bool) (whole fraction : ℕ) : List NumberWord :=
  (if negative then [minus] else []) ++ [rupees] ++ indianWords whole ++
    (if 0 < fraction then [andWord, paise] ++ indianWords fraction else []) ++ [only]

/-- The paise of an amount, rounded half away from zero. -/
def cents (value : Decimal) : ℕ := ⌊|value| * 100 + 1 / 2⌋.toNat

theorem cents_cast (value : Decimal) :
    ((cents value : ℕ) : Decimal) = ⌊|value| * 100 + 1 / 2⌋ := by
  have nonneg : 0 ≤ ⌊|value| * 100 + 1 / 2⌋ := by
    apply Int.floor_nonneg.2
    positivity
  have cast : ((cents value : ℕ) : ℤ) = ⌊|value| * 100 + 1 / 2⌋ := Int.toNat_of_nonneg nonneg
  exact_mod_cast cast

theorem halfUp_cents (value : Decimal) :
    halfUp (1 / 100) value = if value < 0 then -(cents value / 100 : Decimal)
      else cents value / 100 := by
  rw [cents_cast]
  by_cases negative : value < 0
  · rw [if_pos negative, halfUp, if_neg (not_le.2 negative), abs_of_neg negative,
      div_div_eq_mul_div, div_one]
    ring
  · rw [if_neg negative, halfUp, if_pos (not_lt.1 negative), abs_of_nonneg (not_lt.1 negative),
      div_div_eq_mul_div, div_one]
    ring

private theorem floor_hundredths (count : ℕ) : ⌊(count / 100 : Decimal)⌋ = (count / 100 : ℕ) := by
  have cast : ((100 : ℕ) : Decimal) = 100 := rfl
  rw [← cast, Rat.floor_natCast_div_natCast]
  rfl

/-- The voiced amount is the one in paise. -/
theorem numberToIndianWords_written (value : Decimal) :
    numberToIndianWords (some value) {} =
      written (amountWords (value < 0) (cents value / 100) (cents value % 100)) := by
  have rounded : (⌊|value| * 10 ^ 2 + 1 / 2⌋ : Decimal) / 10 ^ 2 = cents value / 100 := by
    rw [cents_cast]
    norm_num
  have whole : ⌊(cents value / 100 : Decimal)⌋ = (cents value / 100 : ℕ) :=
    floor_hundredths (cents value)
  have fraction : ⌊((cents value / 100 : Decimal) - (cents value / 100 : ℕ)) * 10 ^ 2 + 1 / 2⌋ =
      (cents value % 100 : ℕ) := by
    have parts : ((cents value : ℕ) : Decimal) =
        100 * (cents value / 100 : ℕ) + (cents value % 100 : ℕ) := by
      exact_mod_cast (Nat.div_add_mod (cents value) 100).symm
    have exact : ((cents value / 100 : Decimal) - (cents value / 100 : ℕ)) * 10 ^ 2 =
        (cents value % 100 : ℕ) := by
      rw [parts]
      ring
    rw [exact, Int.floor_eq_iff, Int.cast_natCast]
    constructor <;> linarith
  have someParts : ∀ part ∈ (if value < 0 then [[minus]] else []) ++ [[rupees]] ++
      [indianWords (cents value / 100)] ++
      (if 0 < cents value % 100 then [[andWord], [paise], indianWords (cents value % 100)]
        else []) ++ [[only]], part ≠ [] := by
    intro part member
    simp only [List.mem_append, List.mem_ite_nil_right, List.mem_cons, List.not_mem_nil,
      or_false] at member
    rcases member with (((⟨-, rfl⟩ | rfl) | rfl) | ⟨-, rfl | rfl | rfl⟩) | rfl
    · exact List.cons_ne_nil _ _
    · exact List.cons_ne_nil _ _
    · exact indianWords_ne_nil _
    · exact List.cons_ne_nil _ _
    · exact List.cons_ne_nil _ _
    · exact indianWords_ne_nil _
    · exact List.cons_ne_nil _ _
  have joined := phrase_written someParts
  have flat : ((if value < 0 then [[minus]] else []) ++ [[rupees]] ++
      [indianWords (cents value / 100)] ++
      (if 0 < cents value % 100 then [[andWord], [paise], indianWords (cents value % 100)]
        else []) ++ [[only]]).flatten =
      amountWords (value < 0) (cents value / 100) (cents value % 100) := by
    unfold amountWords
    by_cases negative : value < 0 <;> by_cases voiced : 0 < cents value % 100 <;>
      simp [negative, voiced]
  rw [flat] at joined
  rw [← joined]
  unfold numberToIndianWords
  simp only [rounded, whole, Int.cast_natCast, fraction, Int.toNat_natCast, Nat.cast_pos,
    integerToIndianWords_written]
  by_cases negative : value < 0 <;> by_cases voiced : 0 < cents value % 100 <;>
    simp [negative, voiced, written_singleton] <;> rfl

/-! ## Reading it -/

private theorem numeral_ne {word : NumberWord} (numeral : word ∈ numerals) :
    word ≠ minus ∧ word ≠ paise := by
  revert word
  decide

theorem amountWords_ne_nil (negative : Bool) (whole fraction : ℕ) :
    amountWords negative whole fraction ≠ [] := by
  simp [amountWords]

theorem amountWords_known (negative : Bool) (whole fraction : ℕ) :
    ∀ word ∈ amountWords negative whole fraction, word ∈ vocabulary := by
  intro word member
  simp only [amountWords, List.mem_append, List.mem_ite_nil_right, List.mem_cons,
    List.not_mem_nil, or_false] at member
  rcases member with (((⟨-, rfl⟩ | rfl) | number) | ⟨-, (rfl | rfl) | number⟩) | rfl
  · decide
  · decide
  · exact numeral_known (indianWords_numerals whole word number)
  · decide
  · decide
  · exact numeral_known (indianWords_numerals fraction word number)
  · decide

/-- The sign and the currency before a number, and a conjunction after it, count nothing. -/
theorem readNumber_framed (negative : Bool) (whole : ℕ) {closing : NumberWord}
    (silent : closing = andWord ∨ closing = only) :
    readNumber ((if negative then [minus] else []) ++ [rupees] ++ indianWords whole ++ [closing]) =
      whole := by
  have opening : readFrom ⟨0, 0⟩ ((if negative then [minus] else []) ++ [rupees]) = ⟨0, 0⟩ := by
    cases negative <;> rfl
  have number := readNumber_indianWords whole
  rw [readNumber, readFrom_append, readFrom_append, opening]
  rcases silent with rfl | rfl <;> exact number

/-- The words of an amount say it. -/
theorem readSpoken_amountWords (negative : Bool) (whole fraction : ℕ) :
    readSpoken (amountWords negative whole fraction) =
      ⟨negative, whole, if 0 < fraction then some fraction else none⟩ := by
  have wholeMinus : minus ∉ indianWords whole := fun member =>
    (numeral_ne (indianWords_numerals whole _ member)).1 rfl
  have fractionMinus : minus ∉ indianWords fraction := fun member =>
    (numeral_ne (indianWords_numerals fraction _ member)).1 rfl
  have wholePaise : ∀ word ∈ indianWords whole, word ≠ paise := fun word member =>
    (numeral_ne (indianWords_numerals whole word member)).2
  have before : ∀ word ∈ (if negative then [minus] else []) ++ [rupees] ++ indianWords whole,
      word ≠ paise := by
    intro word member
    simp only [List.mem_append, List.mem_ite_nil_right, List.mem_singleton] at member
    rcases member with (⟨-, rfl⟩ | rfl) | number
    · decide
    · decide
    · exact wholePaise word number
  have sign : decide (minus ∈ amountWords negative whole fraction) = negative := by
    cases negative <;> by_cases voiced : 0 < fraction <;>
      simp [amountWords, voiced, wholeMinus, fractionMinus]
  rw [readSpoken, sign]
  by_cases voiced : 0 < fraction
  · have shape : amountWords negative whole fraction =
        ((if negative then [minus] else []) ++ [rupees] ++ indianWords whole ++ [andWord]) ++
          paise :: (indianWords fraction ++ [only]) := by
      simp [amountWords, voiced]
    have untilPaise : ∀ word ∈ (if negative then [minus] else []) ++ [rupees] ++
        indianWords whole ++ [andWord], decide (word ≠ paise) = true := by
      intro word member
      rcases List.mem_append.1 member with first | last
      · exact decide_eq_true (before word first)
      · rw [List.mem_singleton.1 last]
        decide
    have taken : (amountWords negative whole fraction).takeWhile (· ≠ paise) =
        (if negative then [minus] else []) ++ [rupees] ++ indianWords whole ++ [andWord] := by
      rw [shape, List.takeWhile_append_of_pos untilPaise, List.takeWhile_cons_of_neg (by decide),
        List.append_nil]
    have dropped : (amountWords negative whole fraction).dropWhile (· ≠ paise) =
        paise :: (indianWords fraction ++ [only]) := by
      rw [shape, List.dropWhile_append_of_pos untilPaise, List.dropWhile_cons_of_neg (by decide)]
    have said : paise ∈ amountWords negative whole fraction := by
      rw [shape]
      exact List.mem_append_right _ List.mem_cons_self
    have paiseRead : readNumber (indianWords fraction ++ [only]) = fraction := by
      have number := readNumber_indianWords fraction
      rw [readNumber, readFrom_append]
      exact number
    rw [taken, dropped, if_pos said, if_pos voiced, readNumber_framed _ _ (Or.inl rfl),
      List.drop_one, List.tail_cons, paiseRead]
  · have shape : amountWords negative whole fraction =
        (if negative then [minus] else []) ++ [rupees] ++ indianWords whole ++ [only] := by
      simp [amountWords, voiced]
    have untilEnd : ∀ word ∈ amountWords negative whole fraction, word ≠ paise := by
      rw [shape]
      intro word member
      rcases List.mem_append.1 member with first | last
      · exact before word first
      · rw [List.mem_singleton.1 last]
        decide
    have unsaid : paise ∉ amountWords negative whole fraction := fun said =>
      untilEnd paise said rfl
    have taken : (amountWords negative whole fraction).takeWhile (· ≠ paise) =
        amountWords negative whole fraction := by
      rw [List.takeWhile_eq_self_iff]
      exact fun word member => decide_eq_true (untilEnd word member)
    rw [taken, if_neg unsaid, if_neg voiced, shape, readNumber_framed _ _ (Or.inr rfl)]

/-- The reader of the words of a natural number. -/
def readInteger (text : Text) : Option ℕ := (readWords text).map readNumber

theorem readInteger_words (whole : ℕ) :
    readInteger (integerToIndianWords whole) = some whole := by
  rw [readInteger, integerToIndianWords_written,
    readWords_written (indianWords_ne_nil whole) fun word member =>
      numeral_known (indianWords_numerals whole word member),
    Option.map_some, readNumber_indianWords]

theorem readAmount_words (value : Decimal) :
    readAmount (numberToIndianWords (some value) {}) =
      some ⟨value < 0, cents value / 100,
        if 0 < cents value % 100 then some (cents value % 100) else none⟩ := by
  rw [readAmount, numberToIndianWords_written,
    readWords_written (amountWords_ne_nil _ _ _) (amountWords_known _ _ _), Option.map_some,
    readSpoken_amountWords]

/-- What is said comes to the amount rounded. -/
theorem spoken_value (value : Decimal) :
    (SpokenAmount.mk (value < 0) (cents value / 100)
      (if 0 < cents value % 100 then some (cents value % 100) else none)).value =
        halfUp (1 / 100) value := by
  have paiseSaid : ((if 0 < cents value % 100 then some (cents value % 100) else none).getD 0) =
      cents value % 100 := by
    split
    · rfl
    next none => rw [Nat.eq_zero_of_not_pos none, Option.getD_none]
  have magnitude : ((cents value / 100 : ℕ) : Decimal) + (cents value % 100 : ℕ) / 100 =
      cents value / 100 := by
    have parts : ((cents value : ℕ) : Decimal) =
        100 * (cents value / 100 : ℕ) + (cents value % 100 : ℕ) := by
      exact_mod_cast (Nat.div_add_mod (cents value) 100).symm
    rw [parts]
    ring
  rw [halfUp_cents]
  simp only [SpokenAmount.value, paiseSaid, decide_eq_true_eq, magnitude]

/-- From half a paisa down an amount below nothing stays below it. -/
theorem rounds_negative {value : Decimal} (negative : value < 0) :
    halfUp (1 / 100) value < 0 ↔ value ≤ -(1 / 200) := by
  rw [halfUp_cents, if_pos negative, neg_lt_zero, cents_cast, abs_of_neg negative]
  constructor
  · intro positive
    by_contra small
    have none : ⌊-value * 100 + 1 / 2⌋ = 0 := by
      rw [Int.floor_eq_iff]
      push_cast
      constructor <;> linarith
    rw [none] at positive
    norm_num at positive
  · intro large
    have one : 1 ≤ ⌊-value * 100 + 1 / 2⌋ := by
      rw [Int.le_floor]
      push_cast
      linarith
    have oneCast : (1 : Decimal) ≤ ⌊-value * 100 + 1 / 2⌋ := by
      exact_mod_cast one
    linarith

theorem rounds_nonneg {value : Decimal} (nonneg : 0 ≤ value) : 0 ≤ halfUp (1 / 100) value := by
  rw [halfUp_cents, if_neg (not_lt.2 nonneg)]
  positivity

/-- The words of every natural number read back to it; those of an amount to it rounded, with
its sign, unless it rounds to nothing from below. -/
theorem words_read_back (whole : ℕ) (value : Decimal) :
    (readInteger (integerToIndianWords whole) = some whole ∧ VoicedAsRounded value) ↔
      ¬(-(1 / 200) < value ∧ value < 0) := by
  constructor
  · rintro ⟨-, spoken, read, -, -, sign⟩ ⟨small, negative⟩
    rw [readAmount_words] at read
    cases read
    have rounds := sign.1 (decide_eq_true negative)
    exact absurd ((rounds_negative negative).1 rounds) (not_le.2 small)
  · intro large
    refine ⟨readInteger_words whole, _, readAmount_words value, spoken_value value, ?_, ?_⟩
    · intro voiced said
      simp only [Option.mem_def, Option.ite_none_right_eq_some, Option.some.injEq] at said
      omega
    · rw [decide_eq_true_eq]
      constructor
      · intro negative
        rw [rounds_negative negative]
        by_contra small
        exact large ⟨not_le.1 small, negative⟩
      · intro rounds
        by_contra positive
        exact absurd rounds (not_lt.2 (rounds_nonneg (not_lt.1 positive)))

/-- A thousandth below nothing is voiced as a negative nothing. -/
theorem negative_nothing_voiced : ¬VoicedAsRounded (-(1 / 1000)) := by
  rintro ⟨spoken, read, -, -, sign⟩
  rw [readAmount_words] at read
  cases read
  have negative : (-(1 / 1000) : Decimal) < 0 := by norm_num
  have rounds := (rounds_negative negative).1 (sign.1 (decide_eq_true negative))
  norm_num at rounds

end ErpServer.Print
