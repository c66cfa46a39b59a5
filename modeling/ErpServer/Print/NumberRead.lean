import Mathlib.Data.List.TakeWhile
import Mathlib.Data.Nat.Digits.Lemmas
import ErpServer.Lib.Text
import ErpServer.Lib.Rendering
import ErpServer.Receipt.Types

/-!
# Figures as they are printed and read back

A figure is printed by a pattern of `#`, `0`, a comma and a point, in groups of the Indian kind,
and a second pattern after a `;` prints what is negative.  A total reads the printed figures
back, without their commas, and takes one in brackets for negative.
-/

namespace ErpServer.Print

open Lib
open Receipt (Decimal)

/-! ## What the runtime writes -/

/-- The runtime refuses more than a hundred decimals. -/
inductive RangeError where
  | fractionDigits
  deriving DecidableEq, Repr

/-- How the runtime writes a number from 10^21 on: with an exponent.  Which figures come before
it is its own. -/
structure LargeText where
  write : Decimal → Text
  form : ∀ number, 10 ^ 21 ≤ number → ∃ lead fraction exponent,
    lead.isDigit = true ∧ lead ≠ '0' ∧ (∀ char ∈ fraction, char.isDigit = true) ∧
      (∀ char ∈ exponent, char.isDigit = true) ∧ exponent ≠ [] ∧
      write number =
        lead :: (if fraction = [] then [] else '.' :: fraction) ++ 'e' :: '+' :: exponent

/-- So many units of the last place. -/
def fixedDigits (decimals units : ℕ) : Text :=
  Rendering.digits 10 1 (units / 10 ^ decimals) ++
    if decimals = 0 then [] else '.' :: Rendering.digits 10 decimals (units % 10 ^ decimals)

/-- The nearest number of units, the larger of two that are as near. -/
def nearestUnits (decimals : ℕ) (magnitude : Decimal) : ℕ :=
  ⌊magnitude * 10 ^ decimals + 1 / 2⌋.toNat

/-- `Number.prototype.toFixed`: a number below zero keeps its sign where it rounds to nothing. -/
def toFixed (large : LargeText) (value : Decimal) (decimals : ℕ) : Except RangeError Text :=
  if 100 < decimals then .error .fractionDigits
  else
    .ok ((if value < 0 then ['-'] else []) ++
      if 10 ^ 21 ≤ abs value then large.write (abs value)
      else fixedDigits decimals (nearestUnits decimals (abs value)))

/-- A text that reads as minus zero. -/
def isMinusZero (fixed : Text) : Bool :=
  fixed.head? = some '-' ∧ fixed.tail.all fun char => char = '0' ∨ char = '.'

/-! ## Grouping -/

def isWordChar (char : Char) : Bool := char.isAlphanum || char = '_'

/-- A comma wherever a word goes on with whole groups of figures up to their end. -/
def insertCommas (size : ℕ) : Option Char → Text → Text
  | _, [] => []
  | previous, char :: rest =>
      let run := ((char :: rest).takeWhile Char.isDigit).length
      if previous.any isWordChar ∧ 0 < run ∧ run % size = 0 then
        ',' :: char :: insertCommas size (some char) rest
      else char :: insertCommas size (some char) rest

/-- Insert Indian digit grouping: 12,34,56,789. -/
def groupIndian (wholeDigits : Text) : Text :=
  let negative := wholeDigits.head? = some '-'
  let digits := if negative then wholeDigits.tail else wholeDigits
  let sign := if negative then ['-'] else []
  if digits.length ≤ 3 then sign ++ digits
  else
    let lastThree := digits.drop (digits.length - 3)
    let rest := digits.take (digits.length - 3)
    sign ++ insertCommas 2 none rest ++ ',' :: lastThree

/-! ## Patterns -/

structure ParsedNumberPattern where
  decimals : ℕ
  grouped : Bool
  /-- As many as there are noughts before the point. -/
  minIntegerDigits : ℕ
  deriving DecidableEq, Repr

/-- What is before the first of a sign and between it and the next, as a text is split by it. -/
def splitAtSign (sign : Char) (text : Text) : Text × Option Text :=
  (text.takeWhile fun char => char ≠ sign,
    match text.dropWhile fun char => char ≠ sign with
    | [] => none
    | _ :: rest => some (rest.takeWhile fun char => char ≠ sign))

def parseNumberPattern (pattern : Text) : ParsedNumberPattern :=
  let parts := splitAtSign '.' pattern
  { decimals := (parts.2.getD []).countP fun char => char = '0' ∨ char = '#'
    grouped := ',' ∈ parts.1
    minIntegerDigits := parts.1.count '0' }

/-- Fixed figures laid out: padded with noughts and grouped. -/
def layUnsigned (parsed : ParsedNumberPattern) (group : Text → Text) (unsigned : Text) : Text :=
  let parts := splitAtSign '.' unsigned
  let padded := List.replicate (max parsed.minIntegerDigits 1 - parts.1.length) '0' ++ parts.1
  let wholeOut := if parsed.grouped then group padded else padded
  let fraction := parts.2.getD []
  if fraction ≠ [] then wholeOut ++ '.' :: fraction else wholeOut

def layNumber (parsed : ParsedNumberPattern) (group : Text → Text) (normalised : Text) : Text :=
  if normalised.head? = some '-' then '-' :: layUnsigned parsed group normalised.tail
  else layUnsigned parsed group normalised

/-- A number by one pattern. -/
def applyNumberPattern (large : LargeText) (value : Decimal) (pattern : Text)
    (group : Text → Text) : Except RangeError Text := do
  let parsed := parseNumberPattern pattern
  let fixed ← toFixed large value parsed.decimals
  -- Minus zero, which a small negative rounds to, is written as zero.
  let normalised ← if isMinusZero fixed then toFixed large 0 parsed.decimals else .ok fixed
  return layNumber parsed group normalised

/-- The signs a pattern's figures are put for. -/
def isPatternSign (char : Char) : Bool := char ∈ ['#', '0', '.', ',']

/-- The first run of a pattern's signs replaced by the figures. -/
def putFigures (pattern figures : Text) : Text :=
  match pattern.dropWhile fun char => !isPatternSign char with
  | [] => pattern
  | run => (pattern.takeWhile fun char => !isPatternSign char) ++ figures ++
      run.dropWhile isPatternSign

/-- A number by a pattern that may carry a second one for what is negative; a value that is no
number is printed as nothing. -/
def formatNumber (large : LargeText) (value : Option Decimal) (pattern : Text)
    (group : Text → Text) : Except RangeError Text :=
  match value with
  | none => .ok []
  | some numeric =>
      let parts := splitAtSign ';' pattern
      let negativePattern := parts.2.getD []
      if numeric < 0 ∧ negativePattern ≠ [] then
        (applyNumberPattern large (abs numeric) negativePattern group).map
          (putFigures negativePattern)
      else applyNumberPattern large numeric parts.1 group

/-! ## Reading back -/

/-- What an expression comes to: a number, where it is finite, or a text. -/
inductive Evaluated where
  | number (value : Option Decimal)
  | text (text : Text)

/-- Figures with a fraction only where figures follow the point. -/
def readFigures (text : Text) : Decimal :=
  let whole := text.takeWhile Char.isDigit
  let fraction :=
    match text.dropWhile Char.isDigit with
    | '.' :: rest => rest.takeWhile Char.isDigit
    | _ => []
  Rendering.numeral whole + Rendering.numeral fraction / 10 ^ fraction.length

/-- The first figures of a text, with a minus right before them. -/
def firstNumber : Text → Option Decimal
  | [] => none
  | char :: rest =>
      if char = '-' ∧ rest.head?.any Char.isDigit then some (-readFigures rest)
      else if char.isDigit then some (readFigures (char :: rest))
      else firstNumber rest

/-- The ends of a line. -/
def isLineEnd (char : Char) : Bool := char.toNat ∈ [0xA, 0xD, 0x2028, 0x2029]

def isParenthesised (text : Text) : Bool :=
  2 ≤ text.length ∧ text.head? = some '(' ∧ text.getLast? = some ')' ∧
    text.all fun char => !isLineEnd char

/-- The number a text stands for, 0 where it stands for none. -/
def evaluateNumber : Evaluated → Decimal
  | .number value => value.getD 0
  | .text value =>
      let text := Text.trim value
      match firstNumber (text.filter fun char => char ≠ ',') with
      | none => 0
      | some numeric => if isParenthesised text then -abs numeric else numeric

/-! ## Printed figures are read back

Grouping puts commas between groups of two figures before a last one of three and changes
nothing else.  Figures printed by a pattern read back as the number rounded to the pattern's
decimals, as long as the runtime writes it without an exponent. -/

/-! ## Grouping -/

/-- Figures in groups: the first of one or two, the last of three, two in each between. -/
inductive Grouped : Text → Text → Prop where
  | few {digits : Text} (few : digits.length ≤ 3) : Grouped digits digits
  | groups {first last : Text} {pairs : List Text} (start : first.length = 1 ∨ first.length = 2)
      (middle : ∀ pair ∈ pairs, pair.length = 2) (three : last.length = 3) :
      Grouped (first ++ pairs.flatten ++ last) ([','].intercalate (first :: (pairs ++ [last])))

variable {char sign : Char} {digits : Text}

theorem isWordChar_digit (digit : char.isDigit = true) : isWordChar char = true := by
  simp [isWordChar, Char.isAlphanum, digit]

/-- In a run of figures the run from a place on is what is left. -/
theorem run_length (all : ∀ char ∈ digits, char.isDigit = true) :
    (digits.takeWhile Char.isDigit).length = digits.length := by
  rw [List.takeWhile_eq_self_iff.2 all]

/-- After a word an even run of figures is pairs, each after a comma. -/
theorem insertCommas_even (previous : Char) (word : isWordChar previous = true) :
    ∀ digits : Text, (∀ char ∈ digits, char.isDigit = true) → digits.length % 2 = 0 →
      ∃ pairs : List Text, (∀ pair ∈ pairs, pair.length = 2) ∧ digits = pairs.flatten ∧
        insertCommas 2 (some previous) digits = pairs.flatMap (',' :: ·)
  | [], _, _ => ⟨[], by simp, rfl, rfl⟩
  | [_], _, even => by simp at even
  | first :: second :: rest, all, even => by
      have firstDigit := all first List.mem_cons_self
      have secondDigit := all second (List.mem_cons_of_mem _ List.mem_cons_self)
      have restDigits : ∀ char ∈ rest, char.isDigit = true := fun char member =>
        all char (List.mem_cons_of_mem _ (List.mem_cons_of_mem _ member))
      have restEven : rest.length % 2 = 0 := by
        simp only [List.length_cons] at even
        omega
      obtain ⟨pairs, twos, flat, written⟩ :=
        insertCommas_even second (isWordChar_digit secondDigit) rest restDigits restEven
      have whole := run_length all
      have later := run_length fun char member => all char (List.mem_cons_of_mem first member)
      refine ⟨[first, second] :: pairs, ?_, by simp [flat], ?_⟩
      · intro pair member
        cases List.mem_cons.1 member with
        | inl head => rw [head]; rfl
        | inr tail => exact twos pair tail
      · rw [insertCommas, if_pos, insertCommas, if_neg, written]
        · rfl
        · rw [later]
          simp only [List.length_cons] at even ⊢
          omega
        · rw [whole]
          simp only [List.length_cons] at even ⊢
          exact ⟨word, by omega, even⟩

/-- A run of figures of its own is one or two of them and then pairs. -/
theorem insertCommas_start (all : ∀ char ∈ digits, char.isDigit = true) (some : digits ≠ []) :
    ∃ (first : Text) (pairs : List Text), (first.length = 1 ∨ first.length = 2) ∧
      (∀ pair ∈ pairs, pair.length = 2) ∧ digits = first ++ pairs.flatten ∧
        insertCommas 2 none digits = first ++ pairs.flatMap (',' :: ·) := by
  cases digits with
  | nil => exact (some rfl).elim
  | cons lead rest =>
      have leadWord := isWordChar_digit (all lead List.mem_cons_self)
      have restDigits : ∀ char ∈ rest, char.isDigit = true := fun char member =>
        all char (List.mem_cons_of_mem _ member)
      have start : insertCommas 2 none (lead :: rest) =
          lead :: insertCommas 2 (.some lead) rest := by
        rw [insertCommas, if_neg]
        simp
      by_cases even : rest.length % 2 = 0
      · obtain ⟨pairs, twos, flat, written⟩ :=
          insertCommas_even lead leadWord rest restDigits even
        exact ⟨[lead], pairs, .inl rfl, twos, by simp [flat], by rw [start, written]; rfl⟩
      · cases rest with
        | nil => exact (even rfl).elim
        | cons second rest =>
            have secondWord := isWordChar_digit (restDigits second List.mem_cons_self)
            have odd : rest.length % 2 = 0 := by
              simp only [List.length_cons] at even
              omega
            obtain ⟨pairs, twos, flat, written⟩ := insertCommas_even second secondWord rest
              (fun char member => restDigits char (List.mem_cons_of_mem _ member)) odd
            refine ⟨[lead, second], pairs, .inr rfl, twos, by simp [flat], ?_⟩
            rw [start, insertCommas, if_neg, written]
            · rfl
            · rw [run_length restDigits]
              exact fun both => even both.2.2

theorem intercalate_flatMap (first : Text) (others : List Text) :
    [','].intercalate (first :: others) = first ++ others.flatMap (',' :: ·) := by
  induction others generalizing first with
  | nil => simp
  | cons second others ih =>
      rw [List.intercalate_cons_cons, ih]
      simp

theorem digit_ne (digit : char.isDigit = true) (other : sign.isDigit = false) : char ≠ sign := by
  rintro rfl
  rw [digit] at other
  cases other

/-- Figures are grouped in hundreds but for the last three. -/
theorem groupIndian_grouped (all : ∀ char ∈ digits, char.isDigit = true) :
    Grouped digits (groupIndian digits) := by
  have unsigned : digits.head? ≠ some '-' := by
    intro minus
    exact absurd (all '-' (List.mem_of_head? minus)) (by decide)
  rw [groupIndian]
  simp only [unsigned, if_false, List.nil_append]
  split
  next small => exact .few small
  next long =>
    have front : digits.take (digits.length - 3) ≠ [] := by
      rw [ne_eq, List.take_eq_nil_iff]
      rintro (zero | empty)
      · omega
      · rw [empty] at long
        exact long (by simp)
    obtain ⟨first, pairs, start, twos, flat, written⟩ := insertCommas_start
      (fun char member => all char (List.mem_of_mem_take member)) front
    have three : (digits.drop (digits.length - 3)).length = 3 := by
      rw [List.length_drop]
      omega
    have grouped := Grouped.groups start twos three
    rw [← flat, List.take_append_drop, intercalate_flatMap, List.flatMap_append] at grouped
    rw [written, List.append_assoc]
    simpa using grouped

/-- Grouping adds commas only. -/
theorem insertCommas_filter (size : ℕ) (previous : Option Char) (text : Text) :
    (insertCommas size previous text).filter (· ≠ ',') = text.filter (· ≠ ',') := by
  induction text generalizing previous with
  | nil => rfl
  | cons char rest ih =>
      rw [insertCommas]
      split
      · rw [List.filter_cons_of_neg (by decide), List.filter_cons, List.filter_cons, ih]
      · rw [List.filter_cons, List.filter_cons, ih]

theorem groupIndian_filter (text : Text) :
    (groupIndian text).filter (· ≠ ',') = text.filter (· ≠ ',') := by
  rw [groupIndian]
  have whole : (if text.head? = some '-' then ['-'] else []) ++
      (if text.head? = some '-' then text.tail else text) = text := by
    split
    next minus =>
      obtain ⟨rest, rfl⟩ := List.head?_eq_some_iff.1 minus
      rfl
    next => rfl
  generalize (if text.head? = some '-' then ['-'] else []) = sign at whole ⊢
  generalize (if text.head? = some '-' then text.tail else text) = digits at whole ⊢
  simp only
  subst whole
  split
  · rfl
  · rw [List.filter_append, List.filter_append, insertCommas_filter, List.append_assoc,
      List.filter_append, List.filter_cons_of_neg (by decide), ← List.filter_append,
      List.take_append_drop]

/-! ## Figures -/

/-- Whole figures, a fraction where there is one, and what follows. -/
def figuresText (whole fraction tail : Text) : Text :=
  whole ++ (if fraction = [] then [] else '.' :: fraction) ++ tail

/-- The number of whole figures and a fraction. -/
def figuresValue (whole fraction : Text) : Decimal :=
  Rendering.numeral whole + Rendering.numeral fraction / 10 ^ fraction.length

/-- What follows figures is none of theirs. -/
def Stops (tail : Text) : Prop :=
  tail.head?.any Char.isDigit = false ∧ tail.head? ≠ some '.'

theorem run_of_stops {tail : Text} (all : ∀ char ∈ digits, char.isDigit = true)
    (stops : tail.head?.any Char.isDigit = false) :
    (digits ++ tail).takeWhile Char.isDigit = digits ∧
      (digits ++ tail).dropWhile Char.isDigit = tail := by
  rw [List.takeWhile_append_of_pos all, List.dropWhile_append_of_pos all]
  cases tail with
  | nil => simp
  | cons next tail =>
      have other : next.isDigit = false := by simpa using stops
      simp [other]

theorem readFigures_text {whole fraction tail : Text}
    (wholeDigits : ∀ char ∈ whole, char.isDigit = true)
    (fractionDigits : ∀ char ∈ fraction, char.isDigit = true) (stops : Stops tail) :
    readFigures (figuresText whole fraction tail) = figuresValue whole fraction := by
  rw [readFigures, figuresText, figuresValue, List.append_assoc]
  by_cases none : fraction = []
  · have run := run_of_stops wholeDigits stops.1
    subst none
    simp only [if_true, List.nil_append, run.1, run.2]
    cases tail with
    | nil => rfl
    | cons next tail =>
        have other : next ≠ '.' := by simpa using stops.2
        split
        next same => exact (other (List.cons.inj same).1).elim
        next => rfl
  · have point : ('.' :: (fraction ++ tail)).head?.any Char.isDigit = false := rfl
    have run := run_of_stops wholeDigits point
    have later := run_of_stops fractionDigits stops.1
    simp only [none, if_false, List.cons_append, run.1, run.2, later.1]

theorem firstNumber_text {whole fraction tail : Text} (some : whole ≠ [])
    (wholeDigits : ∀ char ∈ whole, char.isDigit = true)
    (fractionDigits : ∀ char ∈ fraction, char.isDigit = true) (stops : Stops tail) :
    firstNumber (figuresText whole fraction tail) = .some (figuresValue whole fraction) ∧
      firstNumber ('-' :: figuresText whole fraction tail) =
        .some (-figuresValue whole fraction) := by
  have read := readFigures_text wholeDigits fractionDigits stops
  cases whole with
  | nil => exact (some rfl).elim
  | cons lead whole =>
      have digit := wholeDigits lead List.mem_cons_self
      have begins : figuresText (lead :: whole) fraction tail =
          lead :: figuresText whole fraction tail := rfl
      constructor
      · rw [begins, firstNumber, if_neg fun both => digit_ne digit (by decide) both.1,
          if_pos digit, ← begins, read]
      · rw [firstNumber, if_pos, read]
        exact ⟨rfl, by rw [begins, List.head?_cons, Option.any_some, digit]⟩

/-- What printed figures are made of. -/
def isFigureSign (char : Char) : Bool := char.isDigit || char ∈ ['-', '.', ',', 'e', '+']

theorem isFigureSign_solid (figure : isFigureSign char = true) :
    Text.isSpace char = false ∧ isLineEnd char = false ∧ char ≠ '(' := by
  rw [isFigureSign, Bool.or_eq_true] at figure
  cases figure with
  | inl digit =>
      have bounds : 48 ≤ char.toNat ∧ char.toNat ≤ 57 := by
        simpa [Char.isDigit, UInt32.le_iff_toNat_le] using digit
      refine ⟨?_, ?_, digit_ne digit (by decide)⟩
      · simp [Text.isSpace]
        omega
      · simp [isLineEnd]
        omega
  | inr sign =>
      simp only [decide_eq_true_eq, List.mem_cons, List.not_mem_nil, or_false] at sign
      rcases sign with rfl | rfl | rfl | rfl | rfl <;> decide

/-! ## One pattern -/

theorem splitAtSign_none {text : Text} (absent : sign ∉ text) :
    splitAtSign sign text = (text, none) := by
  have all : ∀ char ∈ text, decide (char ≠ sign) = true := by
    intro char member
    rw [decide_eq_true_eq]
    rintro rfl
    exact absent member
  rw [splitAtSign, List.takeWhile_eq_self_iff.2 all, List.dropWhile_eq_nil_iff.2 all]

theorem splitAtSign_some {front rest : Text} (inFront : sign ∉ front) (inRest : sign ∉ rest) :
    splitAtSign sign (front ++ sign :: rest) = (front, some rest) := by
  have plain {text : Text} (absent : sign ∉ text) : ∀ char ∈ text, decide (char ≠ sign) = true := by
    intro char member
    rw [decide_eq_true_eq]
    rintro rfl
    exact absent member
  rw [splitAtSign, List.takeWhile_append_of_pos (plain inFront),
    List.dropWhile_append_of_pos (plain inFront)]
  have stop : decide (sign ≠ sign) = false := by simp
  simp only [List.takeWhile_cons, List.dropWhile_cons, stop, Bool.false_eq_true, if_false,
    List.append_nil, List.takeWhile_eq_self_iff.2 (plain inRest)]

/-- The parts the runtime's figures split into at the point. -/
theorem splitAtSign_figures {whole fraction tail : Text} (inWhole : '.' ∉ whole)
    (inFraction : '.' ∉ fraction) (inTail : '.' ∉ tail) :
    splitAtSign '.' (figuresText whole fraction tail) =
      if fraction = [] then (whole ++ tail, none) else (whole, some (fraction ++ tail)) := by
  rw [figuresText]
  split
  next empty =>
    rw [List.append_nil]
    exact splitAtSign_none (by simp [inWhole, inTail])
  next =>
    rw [List.append_assoc, List.cons_append]
    exact splitAtSign_some inWhole (by simp [inFraction, inTail])

/-- Figures as the runtime writes them without a sign. -/
structure RuntimeFigures (whole fraction tail : Text) : Prop where
  nonempty : whole ≠ []
  wholeDigits : ∀ char ∈ whole, char.isDigit = true
  fractionDigits : ∀ char ∈ fraction, char.isDigit = true
  tailSigns : ∀ char ∈ tail, char.isDigit = true ∨ char = 'e' ∨ char = '+'
  stops : Stops tail

variable {whole fraction tail : Text}

theorem RuntimeFigures.signs (figures : RuntimeFigures whole fraction tail) :
    ∀ char ∈ figuresText whole fraction tail, isFigureSign char = true ∧ char ≠ ',' ∧
      char ≠ '-' := by
  have digit {char : Char} (isDigit : char.isDigit = true) :
      isFigureSign char = true ∧ char ≠ ',' ∧ char ≠ '-' := by
    rw [isFigureSign, isDigit]
    exact ⟨rfl, digit_ne isDigit (by decide), digit_ne isDigit (by decide)⟩
  intro char member
  rw [figuresText, List.mem_append, List.mem_append] at member
  rcases member with (inWhole | inFraction) | inTail
  · exact digit (figures.wholeDigits char inWhole)
  · split at inFraction
    · cases inFraction
    · cases List.mem_cons.1 inFraction with
      | inl point => rw [point]; decide
      | inr later => exact digit (figures.fractionDigits char later)
  · rcases figures.tailSigns char inTail with isDigit | rfl | rfl
    · exact digit isDigit
    · decide
    · decide

theorem RuntimeFigures.noPoint (figures : RuntimeFigures whole fraction tail) :
    '.' ∉ whole ∧ '.' ∉ fraction ∧ '.' ∉ tail := by
  refine ⟨?_, ?_, ?_⟩
  · intro member
    exact absurd (figures.wholeDigits '.' member) (by decide)
  · intro member
    exact absurd (figures.fractionDigits '.' member) (by decide)
  · intro member
    rcases figures.tailSigns '.' member with isDigit | same | same
    · cases isDigit
    · cases same
    · cases same

theorem fixedDigits_figures (decimals units : ℕ) :
    RuntimeFigures (Rendering.digits 10 1 (units / 10 ^ decimals))
        (if decimals = 0 then [] else Rendering.digits 10 decimals (units % 10 ^ decimals)) [] ∧
      fixedDigits decimals units = figuresText (Rendering.digits 10 1 (units / 10 ^ decimals))
        (if decimals = 0 then [] else Rendering.digits 10 decimals (units % 10 ^ decimals)) [] := by
  constructor
  · exact
      { nonempty := Rendering.digits_ne_nil Nat.one_pos _
        wholeDigits := Rendering.isDigit_digits
        fractionDigits := by
          split
          · simp
          · exact Rendering.isDigit_digits
        tailSigns := by simp
        stops := by simp [Stops] }
  · rw [fixedDigits, figuresText, List.append_nil]
    by_cases zero : decimals = 0
    · simp [zero]
    · simp only [zero, if_false]
      rw [if_neg (Rendering.digits_ne_nil (by omega) _)]

/-- The units are what the figures come to. -/
theorem fixedDigits_value (decimals units : ℕ) :
    figuresValue (Rendering.digits 10 1 (units / 10 ^ decimals))
        (if decimals = 0 then [] else Rendering.digits 10 decimals (units % 10 ^ decimals)) =
      units / 10 ^ decimals := by
  rw [figuresValue, Rendering.numeral_digits]
  by_cases zero : decimals = 0
  · simp [zero, Rendering.numeral]
  · have small : (Nat.digits 10 (units % 10 ^ decimals)).length ≤ decimals :=
      (Nat.digits_length_le_iff (by norm_num) _).2 (Nat.mod_lt _ (by positivity))
    simp only [zero, if_false]
    rw [Rendering.numeral_digits, Rendering.length_digits, max_eq_left small]
    have split : (units : Decimal) =
        (units / 10 ^ decimals : ℕ) * 10 ^ decimals + (units % 10 ^ decimals : ℕ) := by
      exact_mod_cast (Nat.div_add_mod' units (10 ^ decimals)).symm
    rw [split]
    field_simp

/-- A sign before figures, where they are negative. -/
def signText (negative : Bool) : Text := if negative then ['-'] else []

theorem mem_of_filter {out text : Text} (bare : out.filter (· ≠ ',') = text) (member : char ∈ out) :
    char = ',' ∨ char ∈ text := by
  by_cases comma : char = ','
  · exact .inl comma
  · right
    rw [← bare, List.mem_filter]
    exact ⟨member, by simpa using comma⟩

/-- Without its commas a number laid out is its figures, padded with noughts. -/
theorem layUnsigned_bare (parsed : ParsedNumberPattern)
    (figures : RuntimeFigures whole fraction tail) :
    ∃ count, (layUnsigned parsed groupIndian (figuresText whole fraction tail)).filter (· ≠ ',') =
      figuresText (List.replicate count '0' ++ whole) fraction tail := by
  obtain ⟨inWhole, inFraction, inTail⟩ := figures.noPoint
  have bare {text : Text} (inside : ∀ char ∈ text, char ∈ figuresText whole fraction tail) :
      text.filter (· ≠ ',') = text := by
    rw [List.filter_eq_self]
    intro char member
    simpa using (figures.signs char (inside char member)).2.1
  have padded (count : ℕ) {text : Text} (bareText : text.filter (· ≠ ',') = text) :
      (if parsed.grouped then groupIndian (List.replicate count '0' ++ text)
        else List.replicate count '0' ++ text).filter (· ≠ ',') =
          List.replicate count '0' ++ text := by
    have zeros : (List.replicate count '0' ++ text).filter (· ≠ ',') =
        List.replicate count '0' ++ text := by
      rw [List.filter_append, bareText, List.filter_replicate_of_pos (by decide)]
    split
    · rw [groupIndian_filter, zeros]
    · exact zeros
  rw [layUnsigned, splitAtSign_figures inWhole inFraction inTail]
  by_cases empty : fraction = []
  · subst empty
    refine ⟨max parsed.minIntegerDigits 1 - (whole ++ tail).length, ?_⟩
    simp only [if_true, Option.getD_none, ne_eq, not_true_eq_false, if_false]
    rw [padded _ (bare fun char member => by simpa [figuresText] using member)]
    simp [figuresText]
  · refine ⟨max parsed.minIntegerDigits 1 - whole.length, ?_⟩
    have later : fraction ++ tail ≠ [] := fun both => empty (List.append_eq_nil_iff.1 both).1
    simp only [empty, if_false, Option.getD_some, ne_eq, later, not_false_eq_true, if_true]
    rw [List.filter_append,
      padded _ (bare fun char member => by simp [figuresText, member]),
      bare fun char member => by simp only [figuresText, empty, if_false]; simp_all]
    simp [figuresText, empty]

theorem layNumber_bare (parsed : ParsedNumberPattern)
    (figures : RuntimeFigures whole fraction tail) (negative : Bool) :
    ∃ count, (layNumber parsed groupIndian
        (signText negative ++ figuresText whole fraction tail)).filter (· ≠ ',') =
      signText negative ++ figuresText (List.replicate count '0' ++ whole) fraction tail := by
  obtain ⟨count, bare⟩ := layUnsigned_bare parsed figures
  refine ⟨count, ?_⟩
  rw [layNumber]
  cases negative with
  | true =>
      have minus : (signText true ++ figuresText whole fraction tail).head? = some '-' := rfl
      rw [if_pos minus]
      exact (List.filter_cons_of_pos (by decide)).trans (congrArg ('-' :: ·) bare)
  | false =>
      have unsigned : (figuresText whole fraction tail).head? ≠ some '-' := by
        intro minus
        exact (figures.signs '-' (List.mem_of_head? minus)).2.2 rfl
      have noSign : signText false = [] := rfl
      rw [noSign, List.nil_append, if_neg unsigned, bare, List.nil_append]

/-- What figures read as with something after them. -/
def signed (negative : Bool) (magnitude : Decimal) : Decimal :=
  if negative then -magnitude else magnitude

/-- Printed figures read as what they were written for, whatever they are padded with and
wherever commas stand. -/
theorem firstNumber_bare (figures : RuntimeFigures whole fraction tail) (negative : Bool)
    (count : ℕ) {after : Text} (stops : Stops after) :
    firstNumber (signText negative ++
        figuresText (List.replicate count '0' ++ whole) fraction tail ++ after) =
      some (signed negative (figuresValue whole fraction)) := by
  have zeroDigit : ('0' : Char).isDigit = true := by decide
  have wholeDigits : ∀ char ∈ List.replicate count '0' ++ whole, char.isDigit = true := by
    intro char member
    cases List.mem_append.1 member with
    | inl zero => rw [(List.mem_replicate.1 zero).2, zeroDigit]
    | inr inWhole => exact figures.wholeDigits char inWhole
  have nonempty : List.replicate count '0' ++ whole ≠ [] :=
    fun both => figures.nonempty (List.append_eq_nil_iff.1 both).2
  have later : Stops (tail ++ after) := by
    cases tail with
    | nil => exact stops
    | cons => exact figures.stops
  have value : figuresValue (List.replicate count '0' ++ whole) fraction =
      figuresValue whole fraction := by
    rw [figuresValue, Rendering.numeral_zeros, figuresValue]
  have moved : figuresText (List.replicate count '0' ++ whole) fraction tail ++ after =
      figuresText (List.replicate count '0' ++ whole) fraction (tail ++ after) := by
    rw [figuresText, figuresText, List.append_assoc]
  have read := firstNumber_text nonempty wholeDigits figures.fractionDigits later
  rw [List.append_assoc, moved]
  cases negative with
  | true => exact read.2.trans (by rw [value]; rfl)
  | false => exact read.1.trans (by rw [value]; rfl)

/-! ## Rounding -/

/-- A number to so many decimals, halves away from zero. -/
def rounded (decimals : ℕ) (value : Decimal) : Decimal :=
  signed (value < 0) (nearestUnits decimals (abs value) / 10 ^ decimals)

theorem nearestUnits_zero (decimals : ℕ) : nearestUnits decimals 0 = 0 := by
  rw [nearestUnits, zero_mul, zero_add]
  norm_num

theorem signed_zero (negative : Bool) : signed negative 0 = 0 := by
  cases negative <;> simp [signed]

theorem abs_signed (negative : Bool) (magnitude : Decimal) :
    abs (signed negative magnitude) = abs magnitude := by
  cases negative <;> simp [signed]

/-- From 10^21 on a number does not round to less. -/
theorem large_le_rounded {decimals : ℕ} {value : Decimal} (large : 10 ^ 21 ≤ abs value) :
    10 ^ 21 ≤ abs (rounded decimals value) := by
  have units : (10 ^ 21 * 10 ^ decimals : ℕ) ≤ nearestUnits decimals (abs value) := by
    rw [nearestUnits, Int.le_toNat, Int.le_floor]
    · push_cast
      have scaled : 10 ^ 21 * 10 ^ decimals ≤ abs value * 10 ^ decimals := by gcongr
      linarith
    · have scaled : 0 ≤ abs value * 10 ^ decimals := by positivity
      exact Int.floor_nonneg.2 (by linarith)
  rw [rounded, abs_signed, abs_of_nonneg (by positivity), le_div_iff₀ (by positivity)]
  exact_mod_cast units

theorem digitValue_lt (digit : char.isDigit = true) : Rendering.digitValue char < 10 := by
  have bounds : 48 ≤ char.toNat ∧ char.toNat ≤ 57 := by
    simpa [Char.isDigit, UInt32.le_iff_toNat_le] using digit
  obtain ⟨lower, upper⟩ := bounds
  rw [← Char.ofNat_toNat char]
  interval_cases char.toNat <;> decide

theorem numeral_lt {figures : Text} (all : ∀ char ∈ figures, char.isDigit = true) :
    Rendering.numeral figures < 10 ^ figures.length := by
  have bound := Nat.ofDigits_lt_base_pow_length (b := 10)
    (l := (figures.map Rendering.digitValue).reverse) (by norm_num) (by
      intro digit member
      rw [List.mem_reverse, List.mem_map] at member
      obtain ⟨char, inside, rfl⟩ := member
      exact digitValue_lt (all char inside))
  rwa [List.length_reverse, List.length_map] at bound

/-- One figure and a fraction are less than ten. -/
theorem figuresValue_lt {lead : Char} (leadDigit : lead.isDigit = true)
    (all : ∀ char ∈ fraction, char.isDigit = true) :
    0 ≤ figuresValue [lead] fraction ∧ figuresValue [lead] fraction < 10 := by
  have whole : Rendering.numeral [lead] ≤ 9 := by
    have bound := @numeral_lt [lead] (by simpa using leadDigit)
    simp only [List.length_singleton, pow_one] at bound
    omega
  have wholeBound : (Rendering.numeral [lead] : Decimal) ≤ 9 := by exact_mod_cast whole
  have part : (Rendering.numeral fraction : Decimal) / 10 ^ fraction.length < 1 := by
    rw [div_lt_one (by positivity)]
    exact_mod_cast numeral_lt all
  rw [figuresValue]
  exact ⟨by positivity, by linarith⟩

/-- Figures that are all noughts come to nothing. -/
theorem numeral_allZero {figures : Text} (zeros : ∀ char ∈ figures, char = '0') :
    Rendering.numeral figures = 0 := by
  have replicated := List.eq_replicate_iff.2 ⟨rfl, zeros⟩
  have read := Rendering.numeral_zeros figures.length []
  rw [List.append_nil, ← replicated] at read
  exact read

theorem figuresValue_minusZero (figures : RuntimeFigures whole fraction tail) {negative : Bool}
    (zero : isMinusZero (signText negative ++ figuresText whole fraction tail) = true) :
    figuresValue whole fraction = 0 := by
  rw [isMinusZero, decide_eq_true_eq] at zero
  obtain ⟨minus, zeros⟩ := zero
  cases negative with
  | false =>
      exact ((figures.signs '-' (List.mem_of_head? minus)).2.2 rfl).elim
  | true =>
      rw [List.all_eq_true] at zeros
      have allZero {char : Char} (member : char ∈ figuresText whole fraction tail)
          (digit : char.isDigit = true) : char = '0' := by
        have found := zeros char member
        rw [decide_eq_true_eq] at found
        exact found.resolve_right (digit_ne digit (by decide))
      have wholeZero := numeral_allZero fun char member =>
        allZero (by simp [figuresText, member]) (figures.wholeDigits char member)
      have fractionZero : Rendering.numeral fraction = 0 := by
        apply numeral_allZero
        intro char member
        refine allZero ?_ (figures.fractionDigits char member)
        have nonempty := List.ne_nil_of_mem member
        simp [figuresText, nonempty, member]
      rw [figuresValue, wholeZero, fractionZero]
      simp

/-! ## What a pattern prints -/

/-- A text of figures that reads as a number, whatever is after it. -/
structure Prints (out : Text) (number : Decimal) : Prop where
  nonempty : out ≠ []
  signs : ∀ char ∈ out, isFigureSign char = true
  reads : ∀ after, Stops after → firstNumber (out.filter (· ≠ ',') ++ after) = some number

theorem layNumber_prints (parsed : ParsedNumberPattern)
    (figures : RuntimeFigures whole fraction tail) (negative : Bool) :
    Prints (layNumber parsed groupIndian (signText negative ++ figuresText whole fraction tail))
      (signed negative (figuresValue whole fraction)) := by
  obtain ⟨count, bare⟩ := layNumber_bare parsed figures negative
  have reads (after : Text) (stops : Stops after) :
      firstNumber ((layNumber parsed groupIndian
        (signText negative ++ figuresText whole fraction tail)).filter (· ≠ ',') ++ after) =
          some (signed negative (figuresValue whole fraction)) := by
    rw [bare]
    exact firstNumber_bare figures negative count stops
  refine ⟨?_, ?_, reads⟩
  · intro empty
    have none := reads [] (by simp [Stops])
    rw [empty] at none
    cases none
  · intro char member
    rcases mem_of_filter bare member with rfl | inBare
    · decide
    · rw [List.mem_append] at inBare
      cases inBare with
      | inl sign =>
          cases negative with
          | true => rw [List.mem_singleton.1 sign]; decide
          | false => cases sign
      | inr inFigures =>
          rw [figuresText, List.append_assoc, List.append_assoc, List.mem_append] at inFigures
          cases inFigures with
          | inl zero => rw [(List.mem_replicate.1 zero).2]; decide
          | inr rest =>
              refine (figures.signs char ?_).1
              rw [figuresText, List.append_assoc]
              exact rest

end ErpServer.Print
