import Mathlib.Tactic.IntervalCases
import ErpServer.Lib.Text
import ErpServer.Receipt.Types

/-!
# A number in Indian words

Crore, lakh, thousand and hundreds, each group that is not empty with its name; a count of
crore above 999 is itself in Indian words.  An invoice has the rupees and the paise of an
amount rounded first.
-/

namespace ErpServer.Print

open Lib Lib.Text
open Receipt (Decimal)

/-! ## Whole numbers -/

def ONES : List Text :=
  ["".toList, "One".toList, "Two".toList, "Three".toList, "Four".toList, "Five".toList,
    "Six".toList, "Seven".toList, "Eight".toList, "Nine".toList, "Ten".toList,
    "Eleven".toList, "Twelve".toList, "Thirteen".toList, "Fourteen".toList,
    "Fifteen".toList, "Sixteen".toList, "Seventeen".toList, "Eighteen".toList,
    "Nineteen".toList]

def TENS : List Text :=
  ["".toList, "".toList, "Twenty".toList, "Thirty".toList, "Forty".toList, "Fifty".toList,
    "Sixty".toList, "Seventy".toList, "Eighty".toList, "Ninety".toList]

/-- 0-99 in words. -/
def twoDigitsToWords (value : ℕ) : Text :=
  if value < 20 then ONES.getD value []
  else
    let tens := TENS.getD (value / 10) []
    let ones := ONES.getD (value % 10) []
    if ones ≠ [] then tens ++ " ".toList ++ ones else tens

/-- 0-999 in words. -/
def threeDigitsToWords (value : ℕ) : Text :=
  let hundreds := value / 100
  let remainder := value % 100
  phrase
    ((if 0 < hundreds then [ONES.getD hundreds [] ++ " Hundred".toList] else []) ++
      if 0 < remainder then
        [if 0 < hundreds then "and ".toList ++ twoDigitsToWords remainder
          else twoDigitsToWords remainder]
      else [])

/-- A natural number in words, with no currency around it. -/
def integerToIndianWords (whole : ℕ) : Text :=
  if whole = 0 then "Zero".toList
  else
    let crore := whole / 10000000
    let lakh := whole % 10000000 / 100000
    let thousand := whole % 100000 / 1000
    let rest := whole % 1000
    trim (collapse (phrase
      ((if 0 < crore then
          -- Above 999 crore the convention keeps counting crore.
          [(if 999 < crore then integerToIndianWords crore else threeDigitsToWords crore) ++
            " Crore".toList]
        else []) ++
        (if 0 < lakh then [twoDigitsToWords lakh ++ " Lakh".toList] else []) ++
        (if 0 < thousand then [twoDigitsToWords thousand ++ " Thousand".toList] else []) ++
        if 0 < rest then [threeDigitsToWords rest] else [])))
termination_by whole
decreasing_by omega

/-! ## Amounts -/

structure NumToWordsOptions where
  /-- Name of the whole part; an empty one is left out. -/
  currency : Text := "Rupees".toList
  subCurrency : Text := "Paise".toList
  only : Bool := true
  decimals : ℕ := 2

/-- The invoice-ready form; what is no finite number has none. -/
def numberToIndianWords (value : Option Decimal) (options : NumToWordsOptions) : Text :=
  match value with
  | none => []
  | some numeric =>
      let negative := numeric < 0
      let magnitude := |numeric|
      let scale : Decimal := 10 ^ options.decimals
      let rounded := ⌊magnitude * scale + 1 / 2⌋ / scale
      let whole := ⌊rounded⌋
      let fraction := ⌊(rounded - whole) * scale + 1 / 2⌋
      phrase
        ((if negative then ["Minus".toList] else []) ++
          (if options.currency ≠ [] then [options.currency] else []) ++
          [integerToIndianWords whole.toNat] ++
          (if 0 < fraction then
            ["and".toList] ++
              (if options.subCurrency ≠ [] then [options.subCurrency] else []) ++
              [integerToIndianWords fraction.toNat]
          else []) ++
          if options.only then ["Only".toList] else [])

/-! ## Reading the words back

Every text of the words is a phrase over one vocabulary, so cutting it at the blanks gives
the words again.  Read from the left, a group's name closes the group and a Crore counts all
that stands before it, whatever the size of the number. -/

/-! ## The vocabulary -/

inductive NumberWord where
  /-- Zero to nineteen, or a multiple of ten below a hundred. -/
  | amount (value : ℕ)
  | hundred
  | andWord
  | thousand
  | lakh
  | crore
  | minus
  | rupees
  | paise
  | only
  deriving DecidableEq, Repr

namespace NumberWord

def spelledAmount (value : ℕ) : Text :=
  if value = 0 then "Zero".toList
  else if value < 20 then ONES.getD value []
  else TENS.getD (value / 10) []

def spelled : NumberWord → Text
  | amount value => spelledAmount value
  | hundred => "Hundred".toList
  | andWord => "and".toList
  | thousand => "Thousand".toList
  | lakh => "Lakh".toList
  | crore => "Crore".toList
  | minus => "Minus".toList
  | rupees => "Rupees".toList
  | paise => "Paise".toList
  | only => "Only".toList

/-- The words of a number. -/
def numerals : List NumberWord :=
  (List.range 20).map amount ++ [20, 30, 40, 50, 60, 70, 80, 90].map amount ++
    [hundred, andWord, thousand, lakh, crore]

def vocabulary : List NumberWord := numerals ++ [minus, rupees, paise, only]

variable {word : NumberWord}

theorem numeral_known (numeral : word ∈ numerals) : word ∈ vocabulary :=
  List.mem_append_left _ numeral

/-- The word a text spells. -/
def ofText (text : Text) : Option NumberWord :=
  vocabulary.find? fun word => word.spelled = text

theorem spelled_isWord (known : word ∈ vocabulary) : IsWord word.spelled := by
  revert word
  decide +kernel

theorem ofText_spelled (known : word ∈ vocabulary) : ofText word.spelled = some word := by
  revert word
  decide +kernel

end NumberWord

open NumberWord

/-- The words a text spells, if it spells nothing else. -/
def readWords (text : Text) : Option (List NumberWord) := (wordsOf text).mapM ofText

/-- Words as they are written. -/
def written (words : List NumberWord) : Text := phrase (words.map spelled)

theorem readWords_written {words : List NumberWord} (someWords : words ≠ [])
    (known : ∀ word ∈ words, word ∈ vocabulary) : readWords (written words) = some words := by
  have areWords : ∀ text ∈ words.map spelled, IsWord text := by
    intro text member
    obtain ⟨word, wordMem, rfl⟩ := List.mem_map.1 member
    exact spelled_isWord (known word wordMem)
  have cut : wordsOf (written words) = words.map spelled :=
    wordsOf_phrase (by simpa using someWords) areWords
  rw [readWords, cut]
  clear cut areWords someWords
  induction words with
  | nil => rfl
  | cons word rest ih =>
      have ⟨wordKnown, restKnown⟩ := List.forall_mem_cons.1 known
      rw [List.map_cons, List.mapM_cons, ofText_spelled wordKnown, ih restKnown]
      rfl

/-! ## Reading a number -/

/-- The groups closed so far, and the one that is open. -/
structure NumberReader where
  total : ℕ
  group : ℕ

def NumberReader.read (reader : NumberReader) : NumberWord → NumberReader
  | amount value => ⟨reader.total, reader.group + value⟩
  | hundred => ⟨reader.total, reader.group * 100⟩
  | thousand => ⟨reader.total + reader.group * 1000, 0⟩
  | lakh => ⟨reader.total + reader.group * 100000, 0⟩
  | crore => ⟨(reader.total + reader.group) * 10000000, 0⟩
  | _ => reader

def readFrom (reader : NumberReader) (words : List NumberWord) : NumberReader :=
  words.foldl NumberReader.read reader

def NumberReader.number (reader : NumberReader) : ℕ := reader.total + reader.group

def readNumber (words : List NumberWord) : ℕ := (readFrom ⟨0, 0⟩ words).number

theorem readFrom_append (reader : NumberReader) (left right : List NumberWord) :
    readFrom reader (left ++ right) = readFrom (readFrom reader left) right :=
  List.foldl_append

/-- A Crore counts all that is said before it. -/
theorem readFrom_crore (words : List NumberWord) :
    readFrom ⟨0, 0⟩ (words ++ [crore]) = ⟨readNumber words * 10000000, 0⟩ := by
  rw [readFrom_append]
  rfl

/-! ## The words of a number -/

def twoDigitWords (value : ℕ) : List NumberWord :=
  if value < 20 ∨ value % 10 = 0 then [amount value]
  else [amount (value / 10 * 10), amount (value % 10)]

def threeDigitWords (value : ℕ) : List NumberWord :=
  (if 0 < value / 100 then [amount (value / 100), hundred] else []) ++
    if 0 < value % 100 then
      (if 0 < value / 100 then [andWord] else []) ++ twoDigitWords (value % 100)
    else []

def indianWords (whole : ℕ) : List NumberWord :=
  if whole = 0 then [amount 0]
  else
    (if 0 < whole / 10000000 then indianWords (whole / 10000000) ++ [crore] else []) ++
      (if 0 < whole % 10000000 / 100000 then
        twoDigitWords (whole % 10000000 / 100000) ++ [lakh] else []) ++
      (if 0 < whole % 100000 / 1000 then
        twoDigitWords (whole % 100000 / 1000) ++ [thousand] else []) ++
      threeDigitWords (whole % 1000)
termination_by whole
decreasing_by omega

theorem twoDigitWords_ne_nil (value : ℕ) : twoDigitWords value ≠ [] := by
  unfold twoDigitWords
  split <;> exact List.cons_ne_nil _ _

variable {value whole : ℕ}

theorem twoDigitWords_numerals (below : value < 100) :
    ∀ word ∈ twoDigitWords value, word ∈ numerals := by
  revert value
  decide +kernel

theorem twoDigitsToWords_written (positive : 0 < value) (below : value < 100) :
    twoDigitsToWords value = written (twoDigitWords value) := by
  have all : ∀ value < 100, 0 < value →
      twoDigitsToWords value = written (twoDigitWords value) := by
    decide +kernel
  exact all value below positive

theorem readFrom_twoDigits (reader : NumberReader) (value : ℕ) :
    readFrom reader (twoDigitWords value) = ⟨reader.total, reader.group + value⟩ := by
  unfold twoDigitWords
  split
  · rfl
  · simp only [readFrom, List.foldl_cons, List.foldl_nil, NumberReader.read, NumberReader.mk.injEq,
      true_and]
    omega

theorem threeDigitWords_ne_nil (positive : 0 < value) : threeDigitWords value ≠ [] := by
  unfold threeDigitWords
  by_cases hundreds : 0 < value / 100
  · rw [if_pos hundreds]
    exact List.cons_ne_nil _ _
  · rw [if_neg hundreds, if_pos (by omega), if_neg hundreds]
    exact twoDigitWords_ne_nil _

theorem threeDigitWords_numerals (below : value < 1000) :
    ∀ word ∈ threeDigitWords value, word ∈ numerals := by
  have digits : ∀ digit < 10, amount digit ∈ numerals := by
    decide
  intro word member
  simp only [threeDigitWords, List.mem_append, List.mem_ite_nil_right, List.mem_cons,
    List.not_mem_nil, or_false] at member
  rcases member with ⟨-, rfl | rfl⟩ | ⟨-, ⟨-, rfl⟩ | two⟩
  · exact digits _ (by omega)
  · decide
  · decide
  · exact twoDigitWords_numerals (Nat.mod_lt _ (by norm_num)) word two

theorem written_append {left right : List NumberWord} (leftSome : left ≠ [])
    (rightSome : right ≠ []) :
    written (left ++ right) = written left ++ ' ' :: written right := by
  rw [written, List.map_append]
  exact phrase_append (by simpa using leftSome) (by simpa using rightSome)

theorem written_singleton (word : NumberWord) : written [word] = word.spelled := by
  rw [written, List.map_singleton, phrase_singleton]

theorem ones_spelled {digit : ℕ} (positive : 0 < digit) (below : digit < 20) :
    ONES.getD digit [] = (amount digit).spelled := by
  show ONES.getD digit [] = spelledAmount digit
  rw [spelledAmount, if_neg positive.ne', if_pos below]

theorem threeDigitsToWords_written (below : value < 1000) :
    threeDigitsToWords value = written (threeDigitWords value) := by
  unfold threeDigitsToWords threeDigitWords
  simp only
  have two : 0 < value % 100 →
      twoDigitsToWords (value % 100) = written (twoDigitWords (value % 100)) := fun positive =>
    twoDigitsToWords_written positive (Nat.mod_lt _ (by norm_num))
  by_cases hundreds : 0 < value / 100
  · have named : ONES.getD (value / 100) [] ++ " Hundred".toList =
        written [amount (value / 100), hundred] := by
      rw [ones_spelled hundreds (by omega), ← written_singleton]
      exact (written_append (List.cons_ne_nil (amount (value / 100)) [])
        (List.cons_ne_nil hundred [])).symm
    by_cases remainder : 0 < value % 100
    · have joined : "and ".toList ++ twoDigitsToWords (value % 100) =
          written (andWord :: twoDigitWords (value % 100)) := by
        rw [two remainder]
        exact (written_append (List.cons_ne_nil andWord []) (twoDigitWords_ne_nil _)).symm
      simp only [if_pos hundreds, if_pos remainder, named, joined]
      rw [List.singleton_append, phrase_cons_cons, phrase_singleton]
      exact (written_append (List.cons_ne_nil _ _) (List.cons_ne_nil _ _)).symm
    · simp only [if_pos hundreds, if_neg remainder, named, List.append_nil, phrase_singleton]
  · by_cases remainder : 0 < value % 100
    · simp only [if_neg hundreds, if_pos remainder, List.nil_append, phrase_singleton]
      exact two remainder
    · simp only [if_neg hundreds, if_neg remainder, List.append_nil]
      rfl

theorem readFrom_threeDigits (total value : ℕ) :
    readFrom ⟨total, 0⟩ (threeDigitWords value) = ⟨total, value⟩ := by
  unfold threeDigitWords
  rw [readFrom_append]
  have hundreds : readFrom ⟨total, 0⟩
      (if 0 < value / 100 then [amount (value / 100), hundred] else []) =
        ⟨total, value / 100 * 100⟩ := by
    split
    · simp [readFrom, NumberReader.read]
    · simp only [readFrom, List.foldl_nil, NumberReader.mk.injEq, true_and]
      omega
  rw [hundreds]
  split
  · rw [readFrom_append]
    have skipped : readFrom ⟨total, value / 100 * 100⟩ (if 0 < value / 100 then [andWord] else []) =
        ⟨total, value / 100 * 100⟩ := by
      split <;> rfl
    rw [skipped, readFrom_twoDigits]
    simp only [NumberReader.mk.injEq, true_and]
    omega
  · simp only [readFrom, List.foldl_nil, NumberReader.mk.injEq, true_and]
    omega

/-! ## Any natural number -/

/-- A group of its own name, when there is one. -/
theorem two_group (positive : 0 < value) (below : value < 100) (name : NumberWord) :
    twoDigitsToWords value ++ ' ' :: name.spelled = written (twoDigitWords value ++ [name]) := by
  rw [written_append (twoDigitWords_ne_nil _) (List.cons_ne_nil _ _), written_singleton,
    twoDigitsToWords_written positive below]

theorem indianWords_of_pos (positive : 0 < whole) : indianWords whole =
      (if 0 < whole / 10000000 then indianWords (whole / 10000000) ++ [crore] else []) ++
        (if 0 < whole % 10000000 / 100000 then
          twoDigitWords (whole % 10000000 / 100000) ++ [lakh] else []) ++
        (if 0 < whole % 100000 / 1000 then
          twoDigitWords (whole % 100000 / 1000) ++ [thousand] else []) ++
        threeDigitWords (whole % 1000) := by
  rw [indianWords, if_neg positive.ne']

/-- Up to 999 a number has no group but the last. -/
theorem indianWords_of_below (positive : 0 < whole) (below : whole < 1000) :
    indianWords whole = threeDigitWords whole := by
  rw [indianWords_of_pos positive, if_neg (by omega), if_neg (by omega), if_neg (by omega),
    Nat.mod_eq_of_lt below]
  rfl

theorem indianWords_ne_nil (whole : ℕ) : indianWords whole ≠ [] := by
  rcases Nat.eq_zero_or_pos whole with rfl | positive
  · rw [indianWords, if_pos rfl]
    exact List.cons_ne_nil _ _
  · rw [indianWords_of_pos positive]
    intro none
    simp only [List.append_eq_nil_iff, ite_eq_right_iff] at none
    obtain ⟨⟨⟨noCrore, noLakh⟩, noThousand⟩, noRest⟩ := none
    by_cases rest : 0 < whole % 1000
    · exact threeDigitWords_ne_nil rest noRest
    · by_cases thousands : 0 < whole % 100000 / 1000
      · exact List.cons_ne_nil _ _ (noThousand thousands).2
      · by_cases lakhs : 0 < whole % 10000000 / 100000
        · exact List.cons_ne_nil _ _ (noLakh lakhs).2
        · exact List.cons_ne_nil _ _ (noCrore (by omega)).2

theorem indianWords_numerals (whole : ℕ) : ∀ word ∈ indianWords whole, word ∈ numerals := by
  induction whole using Nat.strong_induction_on with
  | h whole ih =>
      rcases Nat.eq_zero_or_pos whole with rfl | positive
      · rw [indianWords, if_pos rfl]
        decide
      · intro word member
        rw [indianWords_of_pos positive] at member
        simp only [List.mem_append, List.mem_ite_nil_right, List.mem_singleton] at member
        rcases member with ((⟨-, high | rfl⟩ | ⟨-, two | rfl⟩) | ⟨-, two | rfl⟩) | low
        · exact ih _ (by omega) word high
        · decide
        · exact twoDigitWords_numerals (by omega) word two
        · decide
        · exact twoDigitWords_numerals (by omega) word two
        · decide
        · exact threeDigitWords_numerals (Nat.mod_lt _ (by norm_num)) word low

/-- Tidying the white space of written words changes nothing. -/
theorem tidied_written {words : List NumberWord} (known : ∀ word ∈ words, word ∈ vocabulary) :
    trim (collapse (written words)) = written words := by
  have areWords : ∀ text ∈ words.map spelled, IsWord text := by
    intro text member
    obtain ⟨word, wordMem, rfl⟩ := List.mem_map.1 member
    exact spelled_isWord (known word wordMem)
  rw [written, collapse_phrase areWords, trim_phrase areWords]

/-- The texts of some parts, those that are there, joined. -/
theorem phrase_written {parts : List (List NumberWord)} (someParts : ∀ part ∈ parts, part ≠ []) :
    phrase (parts.map written) = written parts.flatten := by
  have flat := @phrase_flatten (parts.map (List.map spelled)) (by simpa using someParts)
  rw [List.map_map] at flat
  rw [written, List.map_flatten]
  exact flat

/-- The groups of a number that are not empty, each with its name. -/
def groupsOf (whole : ℕ) : List (List NumberWord) :=
  (if 0 < whole / 10000000 then [indianWords (whole / 10000000) ++ [crore]] else []) ++
    (if 0 < whole % 10000000 / 100000 then
      [twoDigitWords (whole % 10000000 / 100000) ++ [lakh]] else []) ++
    (if 0 < whole % 100000 / 1000 then
      [twoDigitWords (whole % 100000 / 1000) ++ [thousand]] else []) ++
    if 0 < whole % 1000 then [threeDigitWords (whole % 1000)] else []

theorem groupsOf_flatten (positive : 0 < whole) : (groupsOf whole).flatten = indianWords whole := by
  have low : (if 0 < whole % 1000 then [threeDigitWords (whole % 1000)] else []).flatten =
      threeDigitWords (whole % 1000) := by
    split
    · exact List.flatten_singleton
    next zero =>
      have rest : whole % 1000 = 0 := by omega
      rw [rest]
      rfl
  rw [indianWords_of_pos positive, groupsOf, List.flatten_append, List.flatten_append,
    List.flatten_append, low]
  simp only [apply_ite List.flatten, List.flatten_singleton, List.flatten_nil]

theorem groupsOf_ne_nil (whole : ℕ) : ∀ part ∈ groupsOf whole, part ≠ [] := by
  intro part member
  simp only [groupsOf, List.mem_append, List.mem_ite_nil_right, List.mem_singleton] at member
  rcases member with ((⟨-, rfl⟩ | ⟨-, rfl⟩) | ⟨-, rfl⟩) | ⟨rest, rfl⟩
  · simp
  · simp
  · simp
  · exact threeDigitWords_ne_nil rest

/-- The text of a natural number is its words. -/
theorem integerToIndianWords_written (whole : ℕ) :
    integerToIndianWords whole = written (indianWords whole) := by
  induction whole using Nat.strong_induction_on with
  | h whole ih =>
      rcases Nat.eq_zero_or_pos whole with rfl | positive
      · rw [integerToIndianWords, indianWords, if_pos rfl, if_pos rfl]
        rfl
      · have crores : 0 < whole / 10000000 →
            (if 999 < whole / 10000000 then integerToIndianWords (whole / 10000000)
              else threeDigitsToWords (whole / 10000000)) ++ " Crore".toList =
              written (indianWords (whole / 10000000) ++ [crore]) := by
          intro some
          rw [written_append (indianWords_ne_nil _) (List.cons_ne_nil _ _), written_singleton]
          split
          · rw [ih _ (by omega)]
            rfl
          · rw [threeDigitsToWords_written (by omega), ← indianWords_of_below some (by omega)]
            rfl
        have lakhs : 0 < whole % 10000000 / 100000 →
            twoDigitsToWords (whole % 10000000 / 100000) ++ " Lakh".toList =
              written (twoDigitWords (whole % 10000000 / 100000) ++ [lakh]) :=
          fun some => two_group some (by omega) lakh
        have thousands : 0 < whole % 100000 / 1000 →
            twoDigitsToWords (whole % 100000 / 1000) ++ " Thousand".toList =
              written (twoDigitWords (whole % 100000 / 1000) ++ [thousand]) :=
          fun some => two_group some (by omega) thousand
        have parts : (groupsOf whole).map written =
            (if 0 < whole / 10000000 then
                [(if 999 < whole / 10000000 then integerToIndianWords (whole / 10000000)
                  else threeDigitsToWords (whole / 10000000)) ++ " Crore".toList] else []) ++
              (if 0 < whole % 10000000 / 100000 then
                [twoDigitsToWords (whole % 10000000 / 100000) ++ " Lakh".toList] else []) ++
              (if 0 < whole % 100000 / 1000 then
                [twoDigitsToWords (whole % 100000 / 1000) ++ " Thousand".toList] else []) ++
              if 0 < whole % 1000 then [threeDigitsToWords (whole % 1000)] else [] := by
          have low : threeDigitsToWords (whole % 1000) = written (threeDigitWords (whole % 1000)) :=
            threeDigitsToWords_written (Nat.mod_lt _ (by norm_num))
          rw [groupsOf, List.map_append, List.map_append, List.map_append, low]
          congr 1
          · congr 1
            · congr 1
              · split
                next some => rw [List.map_singleton, crores some]
                next => rfl
              · split
                next some => rw [List.map_singleton, lakhs some]
                next => rfl
            · split
              next some => rw [List.map_singleton, thousands some]
              next => rfl
          · split <;> rfl
        rw [integerToIndianWords, if_neg positive.ne']
        simp only
        rw [← parts, phrase_written (groupsOf_ne_nil whole), groupsOf_flatten positive]
        exact tidied_written fun word member =>
          numeral_known (indianWords_numerals whole word member)

/-- Read from nothing, the words of a number come to it. -/
theorem readNumber_indianWords (whole : ℕ) : readNumber (indianWords whole) = whole := by
  induction whole using Nat.strong_induction_on with
  | h whole ih =>
      rcases Nat.eq_zero_or_pos whole with rfl | positive
      · rw [indianWords, if_pos rfl]
        rfl
      · have crores : readFrom ⟨0, 0⟩ (if 0 < whole / 10000000 then
            indianWords (whole / 10000000) ++ [crore] else []) =
              ⟨whole / 10000000 * 10000000, 0⟩ := by
          split
          · rw [readFrom_crore, ih _ (by omega)]
          next none =>
            rw [Nat.eq_zero_of_not_pos none]
            rfl
        have named : ∀ (total value : ℕ), readFrom ⟨total, 0⟩ (if 0 < value then
            twoDigitWords value ++ [lakh] else []) = ⟨total + value * 100000, 0⟩ := by
          intro total value
          split
          · rw [readFrom_append, readFrom_twoDigits, Nat.zero_add]
            rfl
          next none =>
            rw [Nat.eq_zero_of_not_pos none, Nat.zero_mul]
            rfl
        have thousands : ∀ (total value : ℕ), readFrom ⟨total, 0⟩ (if 0 < value then
            twoDigitWords value ++ [thousand] else []) = ⟨total + value * 1000, 0⟩ := by
          intro total value
          split
          · rw [readFrom_append, readFrom_twoDigits, Nat.zero_add]
            rfl
          next none =>
            rw [Nat.eq_zero_of_not_pos none, Nat.zero_mul]
            rfl
        rw [readNumber, indianWords_of_pos positive, readFrom_append, readFrom_append,
          readFrom_append, crores, named, thousands, readFrom_threeDigits]
        show whole / 10000000 * 10000000 + whole % 10000000 / 100000 * 100000 +
          whole % 100000 / 1000 * 1000 + whole % 1000 = whole
        omega

end ErpServer.Print
