import ErpServer.Print.NumberRead

/-!
# A printed figure can be totalled

What a pattern prints, alone or with brackets for what is negative, is read back as the number
rounded to the pattern's decimals: exactly where the runtime writes that many decimals and needs
no exponent.
-/

namespace ErpServer.Print

open Lib
open Receipt (Decimal)

section Patterns

variable (large : LargeText)

/-- What the runtime writes of a number in fixed figures. -/
theorem toFixed_figures {value : Decimal} {decimals : ℕ} (few : decimals ≤ 100) :
    ∃ whole fraction tail, RuntimeFigures whole fraction tail ∧
      toFixed large value decimals =
        .ok (signText (value < 0) ++ figuresText whole fraction tail) ∧
      (abs value < 10 ^ 21 → figuresValue whole fraction =
        nearestUnits decimals (abs value) / 10 ^ decimals) ∧
      (10 ^ 21 ≤ abs value → 0 ≤ figuresValue whole fraction ∧
        figuresValue whole fraction < 10) := by
  have written : toFixed large value decimals = .ok (signText (value < 0) ++
      if 10 ^ 21 ≤ abs value then large.write (abs value)
      else fixedDigits decimals (nearestUnits decimals (abs value))) := by
    rw [toFixed, if_neg (by omega), signText]
    simp only [decide_eq_true_eq]
  by_cases big : 10 ^ 21 ≤ abs value
  · obtain ⟨lead, fraction, exponent, leadDigit, -, fractionDigits, exponentDigits, -, form⟩ :=
      large.form (abs value) big
    refine ⟨[lead], fraction, 'e' :: '+' :: exponent, ?_, ?_, fun small => ?_, fun _ => ?_⟩
    · exact
        { nonempty := List.cons_ne_nil _ _
          wholeDigits := by simpa using leadDigit
          fractionDigits := fractionDigits
          tailSigns := by
            intro char member
            rcases List.mem_cons.1 member with rfl | member
            · exact .inr (.inl rfl)
            rcases List.mem_cons.1 member with rfl | member
            · exact .inr (.inr rfl)
            exact .inl (exponentDigits char member)
          stops := by simp [Stops] }
    · rw [written, if_pos big, form, figuresText]
      rfl
    · exact (not_lt.2 big small).elim
    · exact figuresValue_lt leadDigit fractionDigits
  · obtain ⟨figures, text⟩ := fixedDigits_figures decimals (nearestUnits decimals (abs value))
    refine ⟨_, _, [], figures, ?_, fun _ => fixedDigits_value _ _, fun large => (big large).elim⟩
    rw [written, if_neg big, text]

/-- One pattern prints a number so that it reads back rounded, or, where the runtime wrote an
exponent, as less than ten. -/
theorem applyNumberPattern_prints (value : Decimal) (pattern : Text)
    (few : (parseNumberPattern pattern).decimals ≤ 100) :
    ∃ out number, applyNumberPattern large value pattern groupIndian = .ok out ∧
      Prints out number ∧
      (abs value < 10 ^ 21 → number = rounded (parseNumberPattern pattern).decimals value) ∧
      (10 ^ 21 ≤ abs value → abs number < 10) := by
  obtain ⟨whole, fraction, tail, figures, written, small, big⟩ :=
    @toFixed_figures large value _ few
  obtain ⟨zeroWhole, zeroFraction, zeroTail, zeroFigures, zeroWritten, zeroSmall, -⟩ :=
    @toFixed_figures large 0 _ few
  by_cases zero : isMinusZero (signText (value < 0) ++ figuresText whole fraction tail) = true
  · have nothing := figuresValue_minusZero figures zero
    have zeroValue : figuresValue zeroWhole zeroFraction = 0 := by
      rw [zeroSmall (by norm_num), abs_zero, nearestUnits_zero]
      simp
    have printed := layNumber_prints (parseNumberPattern pattern) zeroFigures
      (decide ((0 : Decimal) < 0))
    rw [zeroValue, signed_zero] at printed
    refine ⟨_, 0, ?_, printed, fun isSmall => ?_, fun _ => by norm_num⟩
    · simp only [applyNumberPattern, written, zeroWritten]
      show (do
        let normalised ← if isMinusZero _ then Except.ok _ else Except.ok _
        pure (layNumber _ _ normalised)) = _
      rw [if_pos zero]
      rfl
    · rw [rounded, ← small isSmall, nothing, signed_zero]
  · refine ⟨_, _, ?_, layNumber_prints (parseNumberPattern pattern) figures (value < 0),
      fun isSmall => ?_, fun isBig => ?_⟩
    · simp only [applyNumberPattern, written, zeroWritten]
      show (do
        let normalised ← if isMinusZero _ then Except.ok _ else Except.ok _
        pure (layNumber _ _ normalised)) = _
      rw [if_neg zero]
      rfl
    · rw [rounded, ← small isSmall]
    · rw [abs_signed, abs_of_nonneg (big isBig).1]
      exact (big isBig).2

end Patterns

/-! ## Reading it back -/

theorem trim_solid {text : Text} (solid : ∀ char ∈ text, Text.isSpace char = false) :
    Text.trim text = text :=
  Text.trim_of_solid (fun char first => solid char (List.mem_of_head? first))
    fun char last => solid char (List.mem_of_getLast? last)

variable {number : Decimal} {out : Text}

/-- Figures of their own read as their number. -/
theorem Prints.evaluate (prints : Prints out number) : evaluateNumber (.text out) = number := by
  have read := prints.reads [] (by simp [Stops])
  rw [List.append_nil] at read
  have plain : isParenthesised out = false := by
    rw [isParenthesised, decide_eq_false_iff_not]
    rintro ⟨-, bracket, -⟩
    exact (isFigureSign_solid (prints.signs '(' (List.mem_of_head? bracket))).2.2 rfl
  rw [evaluateNumber,
    trim_solid fun char member => (isFigureSign_solid (prints.signs char member)).1]
  simp only [read, plain, Bool.false_eq_true, if_false]

/-- In brackets they read as negative. -/
theorem Prints.evaluate_brackets (prints : Prints out number) :
    evaluateNumber (.text ('(' :: out ++ [')'])) = -abs number := by
  have read := prints.reads [')'] (by simp [Stops])
  have solid : ∀ char ∈ '(' :: out ++ [')'],
      Text.isSpace char = false ∧ isLineEnd char = false := by
    intro char member
    rw [List.cons_append, List.mem_cons, List.mem_append, List.mem_singleton] at member
    rcases member with rfl | inside | rfl
    · decide
    · have signs := isFigureSign_solid (prints.signs char inside)
      exact ⟨signs.1, signs.2.1⟩
    · decide
  have brackets : isParenthesised ('(' :: out ++ [')']) = true := by
    rw [isParenthesised, decide_eq_true_eq]
    refine ⟨by simp, rfl, List.getLast?_concat, ?_⟩
    rw [List.all_eq_true]
    intro char member
    rw [(solid char member).2]
    rfl
  have bare : ('(' :: out ++ [')']).filter (· ≠ ',') = '(' :: (out.filter (· ≠ ',') ++ [')']) := by
    simp
  have first : firstNumber ('(' :: (out.filter (· ≠ ',') ++ [')'])) = some number := by
    rw [firstNumber, if_neg (by simp), if_neg (by decide), read]
  rw [evaluateNumber, trim_solid fun char member => (solid char member).1]
  simp only [bare, first, brackets, if_true]

/-! ## Patterns and their brackets -/

/-- A run of a pattern's signs with at most one point. -/
structure IsRun (run : Text) : Prop where
  nonempty : run ≠ []
  signs : ∀ char ∈ run, isPatternSign char = true
  point : run.count '.' ≤ 1

/-- A pattern alone, or with one in brackets for what is negative. -/
inductive PatternForm where
  | plain
  | accounting
  deriving DecidableEq, Repr

def PatternForm.pattern (run : Text) : PatternForm → Text
  | plain => run
  | accounting => run ++ ';' :: ('(' :: run ++ [')'])

/-- The decimals a pattern has. -/
def patternDecimals (run : Text) : ℕ := (parseNumberPattern run).decimals

variable {run : Text}

theorem IsRun.absent (isRun : IsRun run) {sign : Char} (other : isPatternSign sign = false) :
    sign ∉ run := by
  intro member
  rw [isRun.signs sign member] at other
  cases other

/-- Brackets around a pattern do not change its decimals. -/
theorem decimals_brackets (isRun : IsRun run) :
    (parseNumberPattern ('(' :: run ++ [')'])).decimals = patternDecimals run := by
  rw [patternDecimals, parseNumberPattern, parseNumberPattern]
  by_cases pointed : '.' ∈ run
  · obtain ⟨front, rest, rfl, inFront⟩ := List.eq_append_cons_of_mem pointed
    have inRest : '.' ∉ rest := by
      have once := isRun.point
      rw [List.count_append, List.count_cons_self] at once
      rw [← List.count_eq_zero]
      omega
    have outer : '(' :: (front ++ '.' :: rest) ++ [')'] =
        ('(' :: front) ++ '.' :: (rest ++ [')']) := by simp
    rw [outer, splitAtSign_some (by simp [inFront]) (by simp [inRest]),
      splitAtSign_some inFront inRest]
    simp
  · rw [splitAtSign_none (by simp [pointed]), splitAtSign_none pointed]

theorem putFigures_brackets (isRun : IsRun run) (figures : Text) :
    putFigures ('(' :: run ++ [')']) figures = '(' :: figures ++ [')'] := by
  have bracket : isPatternSign '(' = false := by decide
  have close : isPatternSign ')' = false := by decide
  obtain ⟨lead, rest, rfl⟩ := List.exists_cons_of_ne_nil isRun.nonempty
  have leadSign := isRun.signs lead List.mem_cons_self
  have run : ((lead :: rest) ++ [')']).dropWhile isPatternSign = [')'] := by
    rw [List.dropWhile_append_of_pos isRun.signs, List.dropWhile_cons_of_neg (by simp [close])]
  rw [putFigures]
  simp only [List.cons_append, List.dropWhile_cons, List.takeWhile_cons, bracket, leadSign,
    Bool.not_false, Bool.not_true, if_true, Bool.false_eq_true, if_false]
  simp only [List.cons_append, List.dropWhile_cons, leadSign, if_true] at run
  simp [run]

/-! ## The round trip -/

/-- A formatted figure reads back as the number to the pattern's decimals. -/
def ReadsBack (large : LargeText) (value : Decimal) (run : Text) (form : PatternForm) : Prop :=
  ∃ out, formatNumber large (some value) (form.pattern run) groupIndian = .ok out ∧
    evaluateNumber (.text out) = rounded (patternDecimals run) value

/-- A formatted figure is what one pattern prints, in brackets where the second one is used. -/
theorem formatNumber_form (large : LargeText) (value : Decimal) (isRun : IsRun run)
    (form : PatternForm) : formatNumber large (some value) (form.pattern run) groupIndian =
      if value < 0 ∧ form = .accounting then
        (applyNumberPattern large (abs value) ('(' :: run ++ [')']) groupIndian).map
          fun out => '(' :: out ++ [')']
      else applyNumberPattern large value run groupIndian := by
  have noSplit : ';' ∉ run := isRun.absent (by decide)
  rw [formatNumber]
  cases form with
  | plain =>
      rw [PatternForm.pattern, splitAtSign_none noSplit]
      simp
  | accounting =>
      have inBrackets : ';' ∉ '(' :: run ++ [')'] := by simp [noSplit]
      rw [PatternForm.pattern, splitAtSign_some noSplit inBrackets]
      by_cases negative : value < 0
      · have put : putFigures ('(' :: run ++ [')']) = fun out => '(' :: out ++ [')'] :=
          funext (putFigures_brackets isRun)
        simp only [negative, Option.getD_some, ne_eq, true_and, and_true, if_true, put]
        rw [if_pos (by simp)]
      · simp [negative]

theorem applyNumberPattern_fails (large : LargeText) (value : Decimal) {pattern : Text}
    (many : 100 < (parseNumberPattern pattern).decimals) :
    applyNumberPattern large value pattern groupIndian = .error .fractionDigits := by
  simp only [applyNumberPattern, toFixed, many, if_true]
  rfl

/-- Negative figures round as their size does. -/
theorem rounded_negative {decimals : ℕ} {value : Decimal} (negative : value < 0) :
    rounded decimals value = -abs (rounded decimals (abs value)) := by
  have units : (0 : Decimal) ≤ nearestUnits decimals (abs value) / 10 ^ decimals := by positivity
  rw [rounded, rounded, abs_signed, abs_abs, abs_of_nonneg units]
  simp [signed, negative]

/-- What is printed reads as a number that is the rounded one or less than ten. -/
theorem formatNumber_reads (large : LargeText) (value : Decimal) (isRun : IsRun run)
    (form : PatternForm) (few : patternDecimals run ≤ 100) :
    ∃ out, formatNumber large (some value) (form.pattern run) groupIndian = .ok out ∧
      (abs value < 10 ^ 21 →
        evaluateNumber (.text out) = rounded (patternDecimals run) value) ∧
      (10 ^ 21 ≤ abs value → abs (evaluateNumber (.text out)) < 10) := by
  rw [formatNumber_form large value isRun form]
  by_cases bracketed : value < 0 ∧ form = .accounting
  · have fewInside : (parseNumberPattern ('(' :: run ++ [')'])).decimals ≤ 100 := by
      rw [decimals_brackets isRun]
      exact few
    obtain ⟨out, number, printed, prints, small, big⟩ :=
      applyNumberPattern_prints large (abs value) _ fewInside
    rw [abs_abs, decimals_brackets isRun] at small
    rw [abs_abs] at big
    refine ⟨'(' :: out ++ [')'], ?_, fun isSmall => ?_, fun isBig => ?_⟩
    · rw [if_pos bracketed, printed]
      rfl
    · rw [prints.evaluate_brackets, small isSmall, rounded_negative bracketed.1]
    · rw [prints.evaluate_brackets, abs_neg, abs_abs]
      exact big isBig
  · obtain ⟨out, number, printed, prints, small, big⟩ :=
      applyNumberPattern_prints large value run few
    refine ⟨out, by rw [if_neg bracketed, printed], fun isSmall => ?_, fun isBig => ?_⟩
    · rw [prints.evaluate, small isSmall]
      rfl
    · rw [prints.evaluate]
      exact big isBig

/-- Grouping is Indian and adds commas only; and a figure formatted by a run of `#`, `0`, commas
and a point, alone or with the run in brackets for negatives, reads back as the number to the
run's decimals exactly where the run has at most a hundred of them and the number is less than
10^21 in size. -/
theorem figures_read_back (large : LargeText) (value : Decimal) {run : Text} (isRun : IsRun run)
    (form : PatternForm) :
    (∀ digits : Text, (∀ char ∈ digits, char.isDigit = true) →
      Grouped digits (groupIndian digits) ∧
        (groupIndian digits).filter (· ≠ ',') = digits) ∧
    (ReadsBack large value run form ↔ patternDecimals run ≤ 100 ∧ abs value < 10 ^ 21) := by
  constructor
  · intro digits all
    refine ⟨groupIndian_grouped all, ?_⟩
    rw [groupIndian_filter, List.filter_eq_self]
    intro char member
    have other : char ≠ ',' := digit_ne (all char member) (by decide)
    simpa using other
  · constructor
    · rintro ⟨out, printed, read⟩
      have few : patternDecimals run ≤ 100 := by
        by_contra many
        rw [formatNumber_form large value isRun form] at printed
        split at printed
        · rw [applyNumberPattern_fails large (abs value)] at printed
          · cases printed
          · rw [decimals_brackets isRun]
            omega
        · rw [applyNumberPattern_fails large value (not_le.1 many)] at printed
          cases printed
      refine ⟨few, ?_⟩
      by_contra isBig
      obtain ⟨other, otherPrinted, -, big⟩ := formatNumber_reads large value isRun form few
      rw [printed] at otherPrinted
      cases otherPrinted
      have below := big (not_lt.1 isBig)
      rw [read] at below
      have above := @large_le_rounded (patternDecimals run) value (not_lt.1 isBig)
      linarith
    · rintro ⟨few, isSmall⟩
      obtain ⟨out, printed, small, -⟩ := formatNumber_reads large value isRun form few
      exact ⟨out, printed, small isSmall⟩

private theorem power_form (number : Decimal) : 10 ^ 21 ≤ number →
    ∃ lead fraction exponent, lead.isDigit = true ∧ lead ≠ '0' ∧
      (∀ char ∈ fraction, char.isDigit = true) ∧ (∀ char ∈ exponent, char.isDigit = true) ∧
      exponent ≠ [] ∧ "1e+21".toList =
        lead :: (if fraction = [] then [] else '.' :: fraction) ++ 'e' :: '+' :: exponent :=
  fun _ => ⟨'1', [], ['2', '1'], by decide, by decide, by simp, List.all_eq_true.mp (by decide),
    by decide, by decide⟩

/-- A runtime as far as 10^21 itself is concerned. -/
def powerText : LargeText where
  write := fun _ => "1e+21".toList
  form := power_form

theorem grouped_isRun : IsRun "#,##0.00".toList where
  nonempty := by decide
  signs := List.all_eq_true.mp (by decide)
  point := by decide

/-- Four digits with paise, printed in groups and in brackets, and read back. -/
theorem bracketed_reads_back :
    IsRun "#,##0.00".toList ∧
      (ReadsBack powerText (-1234.5) "#,##0.00".toList .accounting ↔
        patternDecimals "#,##0.00".toList ≤ 100 ∧ abs (-1234.5 : Decimal) < 10 ^ 21) :=
  ⟨grouped_isRun, (figures_read_back powerText (-1234.5) grouped_isRun .accounting).2⟩

/-- 10^21 is written with an exponent, of which the first figure alone is read back. -/
theorem power_lost :
    formatNumber powerText (some (10 ^ 21)) "0.00".toList groupIndian = .ok "1e+21".toList ∧
      evaluateNumber (.text "1e+21".toList) = 1 ∧
      ¬ ReadsBack powerText (10 ^ 21) "0.00".toList .plain := by
  have written : formatNumber powerText (some (10 ^ 21)) "0.00".toList groupIndian =
      .ok "1e+21".toList := by decide +kernel
  have readAs : evaluateNumber (.text "1e+21".toList) = 1 := by decide +kernel
  refine ⟨written, readAs, ?_⟩
  rintro ⟨out, printed, read⟩
  rw [PatternForm.pattern, written] at printed
  cases printed
  rw [readAs] at read
  exact absurd read (by decide +kernel)

end ErpServer.Print
