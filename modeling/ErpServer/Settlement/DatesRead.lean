import ErpServer.Settlement.Dates
import Mathlib.Data.Nat.Digits.Lemmas

/-!
# What a provider's date reads as

A text is read exactly when it can be cut into pieces its format's items stand for, and it
names an instant exactly when the parts read are a date and a time of day.  The instant then
has the fields read, so that texts read by one format as one instant agree in every field.
-/

namespace ErpServer.Settlement

open Lib Lib.Calendar Lib.Rendering

/-! ## Cutting a text -/

/-- The text in pieces, one for each item, and the numbers of its tokens. -/
inductive Cut : List FormatItem → Text → Reading → Prop where
  | nil : Cut [] [] []
  | cons {item : FormatItem} {rest : List FormatItem} {piece text : Text} {reading : Reading}
      (takes : item.takes piece = true) (cut : Cut rest text reading) :
      Cut (item :: rest) (piece ++ text) (item.reads piece ++ reading)

variable {items : List FormatItem} {reading : Reading} {back text : Text} {format : Option Text}

theorem readItems_cut (read : readItems items text = some reading) : Cut items text reading := by
  induction items generalizing text reading with
  | nil =>
      unfold readItems at read
      split at read
      next empty =>
        cases read
        rw [empty]
        exact .nil
      next => cases read
  | cons item rest ih =>
      unfold readItems at read
      obtain ⟨length, -, found⟩ := List.exists_of_findSome?_eq_some read
      split at found
      next takes =>
        obtain ⟨later, laterRead, rfl⟩ := Option.map_eq_some_iff.1 found
        have cut := Cut.cons takes (ih laterRead)
        rw [List.take_append_drop] at cut
        exact cut
      next => cases found

/-- A piece the item stands for has one of the lengths that are tried. -/
theorem FormatItem.length_mem {item : FormatItem} {piece : Text} (takes : item.takes piece = true)
    (text : Text) : piece.length ∈ item.lengths (piece ++ text) := by
  cases item with
  | token which =>
      simp only [FormatItem.takes, decide_eq_true_eq] at takes
      exact takes.1
  | separator =>
      simp only [FormatItem.takes, decide_eq_true_eq] at takes
      have positive := List.length_pos_of_ne_nil takes.1
      rw [FormatItem.lengths, List.mem_map]
      refine ⟨piece.length - 1, ?_, by omega⟩
      rw [List.mem_reverse, List.mem_range, List.length_append]
      omega
  | literal chars =>
      simp only [FormatItem.takes, decide_eq_true_eq] at takes
      rw [FormatItem.lengths, takes.1]
      exact List.mem_singleton.2 rfl

theorem Cut.read (cut : Cut items text reading) : (readItems items text).isSome = true := by
  induction cut with
  | nil => rfl
  | @cons item rest piece text reading takes cut ih =>
      obtain ⟨later, laterRead⟩ := Option.isSome_iff_exists.1 ih
      unfold readItems
      rw [List.findSome?_isSome_iff]
      refine ⟨piece.length, item.length_mem takes text, ?_⟩
      rw [List.take_left, List.drop_left, if_pos takes, laterRead]
      rfl

/-! ## The fields read -/

inductive DateField where
  | year
  | month
  | day
  | hour
  | minute
  | second
  deriving DecidableEq, Repr

def DateToken.field : DateToken → DateField
  | YYYY | YY => .year
  | MM | M => .month
  | DD | D => .day
  | HH => .hour
  | mm => .minute
  | ss => .second

def FormatItem.token? : FormatItem → Option DateToken
  | token which => some which
  | separator | literal _ => none

/-- The tokens of a format, in their order. -/
def tokensOf (items : List FormatItem) : List DateToken := items.filterMap FormatItem.token?

/-- No field has two tokens. -/
def OneTokenAField (items : List FormatItem) : Prop :=
  ((tokensOf items).map DateToken.field).Nodup

/-- The field of an instant a token is for, in India. -/
def fieldAt (instant : ℤ) (token : DateToken) : ℤ :=
  let ofDay := (instant + IST_OFFSET_MS) % DAY_MS
  match token with
  | .YYYY => (civil (istDay instant)).1
  | .YY => (civil (istDay instant)).1 % 100
  | .MM | .M => (civil (istDay instant)).2.1
  | .DD | .D => (civil (istDay instant)).2.2
  | .HH => ofDay / 3600000
  | .mm => ofDay / 60000 % 60
  | .ss => ofDay / 1000 % 60

theorem numberOf_lt (piece : Text) (digits : piece.all isDigit = true) :
    numberOf piece < 10 ^ piece.length := by
  have run : ∀ (piece : Text) (value : ℕ), piece.all isDigit = true →
      piece.foldl (fun value char => value * 10 + (char.toNat - '0'.toNat)) value <
        (value + 1) * 10 ^ piece.length := by
    intro piece
    induction piece with
    | nil => intro value _; simp
    | cons char rest ih =>
        intro value allDigits
        rw [List.all_cons, Bool.and_eq_true] at allDigits
        have digit : char.toNat - '0'.toNat ≤ 9 := by
          have isNine : char ≤ '9' := by
            have both := allDigits.1
            simp only [isDigit, decide_eq_true_eq] at both
            exact both.2
          have bound : char.toNat ≤ '9'.toNat := isNine
          have nine : '9'.toNat = 57 := by decide
          have zero : '0'.toNat = 48 := by decide
          omega
        rw [List.foldl_cons, List.length_cons, pow_succ]
        calc rest.foldl (fun value char => value * 10 + (char.toNat - '0'.toNat))
                (value * 10 + (char.toNat - '0'.toNat))
            < (value * 10 + (char.toNat - '0'.toNat) + 1) * 10 ^ rest.length :=
              ih _ allDigits.2
          _ ≤ ((value + 1) * 10) * 10 ^ rest.length := by
              apply Nat.mul_le_mul_right
              omega
          _ = (value + 1) * (10 ^ rest.length * 10) := by ring
  have whole := run piece 0 digits
  rw [Nat.zero_add, Nat.one_mul] at whole
  exact whole

/-- What is read are the format's tokens, a two-digit year below a hundred. -/
theorem Cut.tokens (cut : Cut items text reading) :
    reading.map (·.1) = tokensOf items ∧ ∀ number, (DateToken.YY, number) ∈ reading →
      number < 100 := by
  induction cut with
  | nil => exact ⟨rfl, by simp⟩
  | @cons item rest piece text reading takes cut ih =>
      cases item with
      | token which =>
          constructor
          · rw [FormatItem.reads, List.singleton_append, List.map_cons, ih.1]
            rfl
          · intro number member
            rcases List.mem_append.1 member with own | later
            · rw [FormatItem.reads, List.mem_singleton, Prod.mk.injEq] at own
              simp only [FormatItem.takes, decide_eq_true_eq] at takes
              rw [← own.1] at takes
              have two : piece.length = 2 := List.mem_singleton.1 takes.1
              have small := numberOf_lt piece takes.2
              rw [two] at small
              rw [own.2]
              exact small
            · exact ih.2 number later
      | separator => exact ih
      | literal chars => exact ih

variable {token : DateToken} {date day month year : ℤ} {d hh m mi ss y : ℕ} {front : Text}

theorem Reading.got_of_mem (nodup : (reading.map (·.1)).Nodup) {number : ℕ}
    (member : (token, number) ∈ reading) : reading.got token = some number := by
  unfold Reading.got
  cases found : reading.reverse.find? fun entry => entry.1 = token with
  | none =>
      have absent := List.find?_eq_none.1 found _ (List.mem_reverse.2 member)
      simp at absent
  | some entry =>
      have isToken : entry.1 = token := by simpa using List.find?_some found
      have listed := List.mem_reverse.1 (List.mem_of_find?_eq_some found)
      have same := List.inj_on_of_nodup_map nodup listed member isToken
      rw [same]
      rfl

theorem Reading.got_none (absent : token ∉ reading.map (·.1)) : reading.got token = none := by
  unfold Reading.got
  rw [Option.map_eq_none_iff, List.find?_eq_none]
  intro entry member isToken
  simp only [decide_eq_true_eq] at isToken
  exact absent (List.mem_map.2 ⟨entry, List.mem_reverse.1 member, isToken⟩)

/-! ## The instant -/

private theorem ten_base : 1 < 10 ∧ 10 ≤ 16 := by
  decide

/-- A year written in four places is written plainly exactly from 1000 on. -/
theorem digits_unpadded (n k : ℕ) : digits 10 4 n = digits 10 1 k ↔ n = k ∧ 1000 ≤ k := by
  constructor
  · intro same
    have equal : n = k := by
      rw [← @ofDigits_written 10 4 ten_base.1 ten_base.2 n, same,
        ofDigits_written ten_base.1 ten_base.2 k]
    refine ⟨equal, ?_⟩
    by_contra small
    have short := (Nat.digits_length_le_iff (b := 10) (by norm_num) k).2
      (show k < 10 ^ 3 by norm_num; omega)
    have lengths := congrArg List.length same
    rw [length_digits, length_digits, equal] at lengths
    omega
  · rintro ⟨rfl, large⟩
    have long : 4 ≤ (Nat.digits 10 n).length := by
      by_contra short
      have small := (Nat.digits_length_le_iff (b := 10) (by norm_num) n).1
        (show (Nat.digits 10 n).length ≤ 3 by omega)
      norm_num at small
      omega
    rw [digits, digits, List.rightpad, List.rightpad, Nat.sub_eq_zero_of_le long,
      Nat.sub_eq_zero_of_le (by omega)]

theorem dateText_of_civil (reads : civil date = (year, month, day)) (ours : 0 < year) :
    dateText date = digits 10 4 year.toNat ++
      '-' :: (digits 10 2 month.toNat ++ '-' :: digits 10 2 day.toNat) := by
  rw [dateText, reads]
  simp only [if_pos ours]

theorem dateText_eq_plain (reads : civil date = (year, month, day)) (ours : 0 < year) (y m d : ℕ) :
    dateText date = plainDate y m d ↔
      (year.toNat = y ∧ 1000 ≤ y) ∧ month.toNat = m ∧ day.toNat = d := by
  have plain (width n : ℕ) : '-' ∉ digits 10 width n :=
    not_mem_digits (by decide) (by decide) (by decide)
  rw [dateText_of_civil reads ours, plainDate, cut_inj (plain _ _) (plain _ _),
    cut_inj (plain _ _) (plain _ _), digits_unpadded]
  apply and_congr_right
  intro _
  constructor
  · rintro ⟨months, days⟩
    exact ⟨digits_inj ten_base.1 ten_base.2 months, digits_inj ten_base.1 ten_base.2 days⟩
  · rintro ⟨rfl, rfl⟩
    exact ⟨rfl, rfl⟩

/-- A date and a time of day. -/
structure IsInstant (y m d hh mi ss : ℕ) : Prop where
  year : 1000 ≤ y
  date : IsDate y m d
  time : hh ≤ 23 ∧ mi ≤ 59 ∧ ss ≤ 59

theorem istDay_dateUtc (time : hh ≤ 23 ∧ mi ≤ 59 ∧ ss ≤ 59) :
    istDay (dateUtc y m d hh mi ss - IST_OFFSET_MS) =
      makeDay (if y ≤ 99 then 1900 + y else y) m d := by
  unfold istDay dateUtc DAY_MS
  rw [sub_add_cancel]
  omega

/-- Only a date that is one reads back. -/
theorem istDate_plain (month : 1 ≤ m ∧ m ≤ 12) (day : 1 ≤ d ∧ d ≤ 31)
    (time : hh ≤ 23 ∧ mi ≤ 59 ∧ ss ≤ 59) :
    istDate (dateUtc y m d hh mi ss - IST_OFFSET_MS) = plainDate y m d ↔
      1000 ≤ y ∧ IsDate y m d := by
  rw [istDate, istDay_dateUtc time]
  have inYear : (1 : ℤ) ≤ m ∧ (m : ℤ) ≤ 12 := by omega
  by_cases century : y ≤ 99
  · rw [if_pos century]
    constructor
    · intro same
      by_cases past : daysInMonth (1900 + y) m < d
      · have reads := civil_makeDay_past inYear (by omega) past
        have parts := (dateText_eq_plain reads (by omega) y m d).1 same
        omega
      · have date : IsDate (1900 + y) m d := ⟨inYear, by omega, not_lt.1 past⟩
        have reads := civil_makeDay date
        have parts := (dateText_eq_plain reads (by omega) y m d).1 same
        omega
    · rintro ⟨large, -⟩
      omega
  · rw [if_neg century]
    by_cases past : daysInMonth y m < d
    · have reads := civil_makeDay_past inYear (by omega) past
      constructor
      · intro same
        have parts := (dateText_eq_plain reads (by omega) y m d).1 same
        omega
      · rintro ⟨-, date⟩
        exact absurd date.inMonth.2 (not_le.2 past)
    · have date : IsDate y m d := ⟨inYear, by omega, not_lt.1 past⟩
      rw [dateText_eq_plain (civil_makeDay date) (by omega)]
      constructor
      · intro parts
        exact ⟨parts.1.2, date⟩
      · rintro ⟨large, -⟩
        exact ⟨⟨by omega, large⟩, by omega, by omega⟩

/-- The parts name an instant exactly when they are a date and a time of day. -/
theorem instant_iff (parts : DateParts) (instant : ℤ) :
    parts.instant = some instant ↔
      ∃ y m d, parts.y = some y ∧ parts.m = some m ∧ parts.d = some d ∧
        IsInstant y m d parts.hh parts.mi parts.ss ∧
        instant = dateUtc y m d parts.hh parts.mi parts.ss - IST_OFFSET_MS := by
  unfold DateParts.instant
  constructor
  · intro found
    split at found
    next y m d year month day =>
      split at found
      · cases found
      next inside =>
        split at found
        · cases found
        next onClock =>
          simp only at found
          split at found
          next same =>
            have calendar := (istDate_plain (by omega) (by omega) (by omega)).1 same
            refine ⟨y, m, d, year, month, day, ⟨calendar.1, calendar.2, by omega⟩, ?_⟩
            exact (Option.some.inj found).symm
          next => cases found
    next => cases found
  · rintro ⟨y, m, d, year, month, day, exact, rfl⟩
    rw [year, month, day]
    have inYear := exact.date.inYear
    have inMonth := exact.date.inMonth
    have short : daysInMonth y m ≤ 31 := by
      unfold daysInMonth
      split
      · split <;> omega
      · split <;> omega
    have time := exact.time
    simp only
    rw [if_neg (by omega), if_neg (by omega), if_pos]
    exact (istDate_plain (by omega) (by omega) time).2 ⟨exact.year, exact.date⟩

/-! ## The date part of a format -/

/-- Characters that are no white space, found before some that begin with it, end there. -/
theorem straddle (ends : ∀ char ∈ back.head?, Text.isSpace char = true) (token : Text)
    (solid : (token.all fun char => !Text.isSpace char) = true)
    (absent : ∀ more, front = token ++ more → False) :
    ∀ more, front ++ back = token ++ more → False := by
  intro more same
  rcases List.append_eq_append_iff.1 same with ⟨beyond, longer, tail⟩ | ⟨left, shorter, -⟩
  · cases beyond with
    | nil =>
        apply absent []
        simp [longer]
    | cons char others =>
        have space := ends char (by rw [tail]; rfl)
        have solidChar := List.all_eq_true.mp solid char (by rw [longer]; simp)
        rw [space] at solidChar
        cases solidChar
  · exact absent left shorter

/-- A character no token begins with stays one whatever white space follows. -/
theorem plain_beyond {char : Char} {rest : Text}
    (ends : ∀ char ∈ back.head?, Text.isSpace char = true) (inRun : Bool)
    (yyyy : ∀ more, char = 'Y' → rest = 'Y' :: 'Y' :: 'Y' :: more → False)
    (yy : ∀ more, char = 'Y' → rest = 'Y' :: more → False)
    (mm : ∀ more, char = 'M' → rest = 'M' :: more → False) (m : char = 'M' → False)
    (dd : ∀ more, char = 'D' → rest = 'D' :: more → False) (d : char = 'D' → False)
    (hh : ∀ more, char = 'H' → rest = 'H' :: more → False)
    (min : ∀ more, char = 'm' → rest = 'm' :: more → False)
    (sec : ∀ more, char = 's' → rest = 's' :: more → False) :
    itemsFrom inRun (char :: (rest ++ back)) =
      if isLetter char then .literal [char] :: itemsFrom false (rest ++ back)
      else if inRun then itemsFrom true (rest ++ back)
      else .separator :: itemsFrom true (rest ++ back) := by
  have beyond (letter : Char) (token : Text) (solid : (token.all fun char => !Text.isSpace char) = true)
      (absent : ∀ more, char = letter → rest = token ++ more → False) :
      ∀ more, char = letter → rest ++ back = token ++ more → False :=
    fun more same => straddle ends token solid (fun left => absent left same) more
  rw [itemsFrom]
  · exact beyond 'Y' ['Y', 'Y', 'Y'] rfl yyyy
  · exact beyond 'Y' ['Y'] rfl yy
  · exact beyond 'M' ['M'] rfl mm
  · exact m
  · exact beyond 'D' ['D'] rfl dd
  · exact d
  · exact beyond 'H' ['H'] rfl hh
  · exact beyond 'm' ['m'] rfl min
  · exact beyond 's' ['s'] rfl sec

/-- The tokens of a format up to some white space come first. -/
theorem tokens_prefix (inRun : Bool) (ends : ∀ char ∈ back.head?, Text.isSpace char = true) :
    tokensOf (itemsFrom inRun front) <+: tokensOf (itemsFrom inRun (front ++ back)) := by
  have next (token : DateToken) {front : Text}
      (ih : tokensOf (itemsFrom false front) <+: tokensOf (itemsFrom false (front ++ back))) :
      tokensOf (.token token :: itemsFrom false front) <+:
        tokensOf (.token token :: itemsFrom false (front ++ back)) :=
    List.prefix_cons_inj _ |>.2 ih
  fun_induction itemsFrom inRun front with
  | case1 inRun rest ih =>
      simp only [List.cons_append]
      rw [itemsFrom]
      exact next .YYYY ih
  | case2 inRun rest twice ih =>
      simp only [List.cons_append]
      rw [itemsFrom]
      · exact next .YY ih
      · exact straddle ends ['Y', 'Y'] rfl twice
  | case3 inRun rest ih =>
      simp only [List.cons_append]
      rw [itemsFrom]
      exact next .MM ih
  | case4 inRun rest twice ih =>
      simp only [List.cons_append]
      rw [itemsFrom]
      · exact next .M ih
      · exact straddle ends ['M'] rfl twice
  | case5 inRun rest ih =>
      simp only [List.cons_append]
      rw [itemsFrom]
      exact next .DD ih
  | case6 inRun rest twice ih =>
      simp only [List.cons_append]
      rw [itemsFrom]
      · exact next .D ih
      · exact straddle ends ['D'] rfl twice
  | case7 inRun rest ih =>
      simp only [List.cons_append]
      rw [itemsFrom]
      exact next .HH ih
  | case8 inRun rest ih =>
      simp only [List.cons_append]
      rw [itemsFrom]
      exact next .mm ih
  | case9 inRun rest ih =>
      simp only [List.cons_append]
      rw [itemsFrom]
      exact next .ss ih
  | case10 inRun char rest yyyy yy mm m dd d hh min sec letter ih =>
      rw [List.cons_append, plain_beyond ends inRun yyyy yy mm m dd d hh min sec, if_pos letter]
      exact ih
  | case11 char rest yyyy yy mm m dd d hh min sec letter ih =>
      rw [List.cons_append, plain_beyond ends true yyyy yy mm m dd d hh min sec, if_neg letter,
        if_pos rfl]
      exact ih
  | case12 inRun char rest yyyy yy mm m dd d hh min sec letter run ih =>
      rw [List.cons_append, plain_beyond ends inRun yyyy yy mm m dd d hh min sec, if_neg letter,
        if_neg run]
      exact ih
  | case13 inRun => exact List.nil_prefix

theorem datePart_oneToken {format : Text} (single : OneTokenAField (itemsOf format)) :
    OneTokenAField (itemsOf (datePart format)) := by
  have ends : ∀ char ∈ (format.dropWhile fun char => !Text.isSpace char).head?,
      Text.isSpace char = true := by
    intro char first
    have stops := List.head?_dropWhile_not (fun char => !Text.isSpace char) format
    rw [Option.mem_def.1 first] at stops
    simpa using stops
  have before : tokensOf (itemsOf (datePart format)) <+: _ := tokens_prefix false ends
  rw [datePart, List.takeWhile_append_dropWhile] at before
  exact (List.Sublist.map _ before.sublist).nodup single

/-! ## The law -/

/-- The formats a text may be in. -/
def formatsOf (format : Option Text) : List (List FormatItem) :=
  match format.filter (· ≠ []) with
  | none => isoFormats
  | some pattern => [itemsOf pattern, itemsOf (datePart pattern)]

/-- The numbers read are a date and a time of day, and the instant is the one in India. -/
def Reading.Names (reading : Reading) (instant : ℤ) : Prop :=
  ∃ y m d, reading.parts.y = some y ∧ reading.parts.m = some m ∧ reading.parts.d = some d ∧
    IsInstant y m d reading.parts.hh reading.parts.mi reading.parts.ss ∧
    instant = dateUtc y m d reading.parts.hh reading.parts.mi reading.parts.ss - IST_OFFSET_MS

/-- A text is read when it can be cut as a format says, it names an instant when the numbers
are of the calendar, and the instant has the fields that were read. -/
structure ReadsCalendar (format : Option Text) (value : Text) : Prop where
  read : (readingOf (Text.trim value) format).isSome = true ↔
    ∃ items ∈ formatsOf format, ∃ reading, Cut items (Text.trim value) reading
  cut : ∀ reading, readingOf (Text.trim value) format = some reading →
    ∃ items ∈ formatsOf format, Cut items (Text.trim value) reading
  names : ∀ instant, parseDateTime value format = some instant ↔
    ∃ reading, readingOf (Text.trim value) format = some reading ∧ reading.Names instant
  fields : ∀ instant reading, parseDateTime value format = some instant →
    readingOf (Text.trim value) format = some reading →
      ∀ entry ∈ reading, fieldAt instant entry.1 = entry.2

section Fields

variable {y m d hh mi ss : ℕ} {reading : Reading} {token : DateToken} {number : ℕ}

/-- The part a token is for. -/
def partOf (y m d hh mi ss : ℕ) : DateToken → ℕ
  | .YYYY => y
  | .YY => y % 100
  | .MM | .M => m
  | .DD | .D => d
  | .HH => hh
  | .mm => mi
  | .ss => ss

theorem fieldAt_instant (exact : IsInstant y m d hh mi ss) (token : DateToken) :
    fieldAt (dateUtc y m d hh mi ss - IST_OFFSET_MS) token = partOf y m d hh mi ss token := by
  have time := exact.time
  have large := exact.year
  have day : civil (istDay (dateUtc y m d hh mi ss - IST_OFFSET_MS)) = (↑y, ↑m, ↑d) := by
    rw [istDay_dateUtc time, if_neg (by omega)]
    exact civil_makeDay exact.date
  have ofDay : (dateUtc y m d hh mi ss - IST_OFFSET_MS + IST_OFFSET_MS) % DAY_MS =
      hh * 3600000 + mi * 60000 + ss * 1000 := by
    unfold dateUtc DAY_MS
    rw [sub_add_cancel]
    omega
  unfold fieldAt
  simp only [day, ofDay]
  cases token <;> simp only [partOf] <;> omega

theorem other_token_absent (single : ((reading.map (·.1)).map DateToken.field).Nodup)
    (member : (token, number) ∈ reading) {other : DateToken} (different : other ≠ token)
    (same : other.field = token.field) : other ∉ reading.map (·.1) := by
  intro otherMem
  have tokenMem : token ∈ reading.map (·.1) := List.mem_map.2 ⟨_, member, rfl⟩
  exact different (List.inj_on_of_nodup_map single otherMem tokenMem same)

/-- The parts are what was read for them. -/
theorem partOf_reading (single : ((reading.map (·.1)).map DateToken.field).Nodup)
    (twoDigits : ∀ number, (DateToken.YY, number) ∈ reading → number < 100)
    (year : reading.parts.y = some y) (month : reading.parts.m = some m)
    (day : reading.parts.d = some d) (member : (token, number) ∈ reading) :
    partOf y m d reading.parts.hh reading.parts.mi reading.parts.ss token = number := by
  have got : reading.got token = some number :=
    Reading.got_of_mem (List.Nodup.of_map _ single) member
  have absent (other : DateToken) (different : other ≠ token)
      (same : other.field = token.field) : reading.got other = none :=
    Reading.got_none (other_token_absent single member different same)
  cases token with
  | YYYY =>
      rw [Reading.parts, got, Option.some_or, Option.some.injEq] at year
      exact year.symm
  | YY =>
      rw [Reading.parts, absent .YYYY (by decide) rfl, got, Option.none_or, Option.map_some,
        Option.some.injEq] at year
      have small := twoDigits number member
      rw [partOf, ← year]
      omega
  | MM =>
      rw [Reading.parts, got, Option.some_or, Option.some.injEq] at month
      exact month.symm
  | M =>
      rw [Reading.parts, absent .MM (by decide) rfl, got, Option.none_or,
        Option.some.injEq] at month
      exact month.symm
  | DD =>
      rw [Reading.parts, got, Option.some_or, Option.some.injEq] at day
      exact day.symm
  | D =>
      rw [Reading.parts, absent .DD (by decide) rfl, got, Option.none_or,
        Option.some.injEq] at day
      exact day.symm
  | HH => simp only [partOf, Reading.parts, got, Option.getD_some]
  | mm => simp only [partOf, Reading.parts, got, Option.getD_some]
  | ss => simp only [partOf, Reading.parts, got, Option.getD_some]

end Fields

theorem formatsOf_single (single : ∀ pattern ∈ format, OneTokenAField (itemsOf pattern)) :
    ∀ items ∈ formatsOf format, OneTokenAField items := by
  intro items member
  unfold formatsOf at member
  split at member
  · revert items
    unfold OneTokenAField
    decide
  next pattern found =>
    have given : format = some pattern := (Option.filter_eq_some_iff.1 found).1
    have one := single pattern given
    rcases List.mem_cons.1 member with rfl | member
    · exact one
    · rw [List.mem_singleton.1 member]
      exact datePart_oneToken one

theorem readings_of_none (blank : format.filter (· ≠ []) = none) (text : Text) :
    formatsOf format = isoFormats ∧
      readingOf text format = isoFormats.findSome? fun items => readItems items text := by
  unfold formatsOf readingOf
  rw [blank]
  exact ⟨rfl, rfl⟩

theorem readings_of_some {pattern : Text} (given : format.filter (· ≠ []) = some pattern)
    (text : Text) : formatsOf format = [itemsOf pattern, itemsOf (datePart pattern)] ∧
      readingOf text format = (readWithPattern text pattern).or
        (if datePart pattern ≠ pattern then readWithPattern text (datePart pattern)
        else none) := by
  unfold formatsOf readingOf
  rw [given]
  exact ⟨rfl, rfl⟩

theorem readingOf_cut (read : readingOf text format = some reading) :
    ∃ items ∈ formatsOf format, Cut items text reading := by
  cases found : format.filter (· ≠ []) with
  | none =>
      obtain ⟨formats, reads⟩ := readings_of_none found text
      rw [reads] at read
      rw [formats]
      obtain ⟨items, member, fits⟩ := List.exists_of_findSome?_eq_some read
      exact ⟨items, member, readItems_cut fits⟩
  | some pattern =>
      obtain ⟨formats, reads⟩ := readings_of_some found text
      rw [reads] at read
      rw [formats]
      rcases Option.or_eq_some_iff.1 read with whole | ⟨-, part⟩
      · exact ⟨itemsOf pattern, by simp, readItems_cut whole⟩
      · split at part
        · exact ⟨itemsOf (datePart pattern), by simp, readItems_cut part⟩
        · cases part

theorem readingOf_isSome (member : items ∈ formatsOf format) (cut : Cut items text reading) :
    (readingOf text format).isSome = true := by
  cases found : format.filter (· ≠ []) with
  | none =>
      obtain ⟨formats, reads⟩ := readings_of_none found text
      rw [formats] at member
      rw [reads, List.findSome?_isSome_iff]
      exact ⟨items, member, cut.read⟩
  | some pattern =>
      obtain ⟨formats, reads⟩ := readings_of_some found text
      rw [formats] at member
      rw [reads, Option.isSome_or, Bool.or_eq_true]
      rcases List.mem_cons.1 member with rfl | member
      · exact Or.inl cut.read
      · rw [List.mem_singleton.1 member] at cut
        by_cases same : datePart pattern = pattern
        · rw [same] at cut
          exact Or.inl cut.read
        · rw [if_pos same]
          exact Or.inr cut.read

theorem parseDateTime_iff (value : Text) (format : Option Text) (instant : ℤ) :
    parseDateTime value format = some instant ↔
      ∃ reading, readingOf (Text.trim value) format = some reading ∧ reading.Names instant := by
  rw [parseDateTime, Option.bind_eq_some_iff]
  constructor
  · rintro ⟨reading, read, found⟩
    exact ⟨reading, read, (instant_iff reading.parts instant).1 found⟩
  · rintro ⟨reading, read, named⟩
    exact ⟨reading, read, (instant_iff reading.parts instant).2 named⟩

/-- A provider's date reads as the calendar has it, and two texts read by one format as one
instant agree in every field. -/
theorem parseDateTime_calendar (format : Option Text)
    (single : ∀ pattern ∈ format, OneTokenAField (itemsOf pattern)) (value : Text) :
    ReadsCalendar format value ∧
      ∀ other instant, parseDateTime value format = some instant →
        parseDateTime other format = some instant →
        ∀ reading, readingOf (Text.trim value) format = some reading →
        ∀ otherReading, readingOf (Text.trim other) format = some otherReading →
        ∀ token number otherNumber, (token, number) ∈ reading →
          (token, otherNumber) ∈ otherReading → number = otherNumber := by
  have fields (value : Text) (instant : ℤ) (reading : Reading)
      (parsed : parseDateTime value format = some instant)
      (read : readingOf (Text.trim value) format = some reading) :
      ∀ entry ∈ reading, fieldAt instant entry.1 = entry.2 := by
    rintro ⟨token, number⟩ member
    obtain ⟨again, readAgain, y, m, d, year, month, day, exact, rfl⟩ :=
      (parseDateTime_iff value format instant).1 parsed
    rw [read, Option.some.injEq] at readAgain
    subst readAgain
    obtain ⟨items, listed, cut⟩ := readingOf_cut read
    have oneToken := formatsOf_single single items listed
    rw [OneTokenAField, ← cut.tokens.1] at oneToken
    rw [fieldAt_instant exact,
      partOf_reading oneToken cut.tokens.2 year month day member]
  constructor
  · exact
      { read := by
          constructor
          · intro read
            obtain ⟨reading, found⟩ := Option.isSome_iff_exists.1 read
            obtain ⟨items, listed, cut⟩ := readingOf_cut found
            exact ⟨items, listed, reading, cut⟩
          · rintro ⟨items, listed, reading, cut⟩
            exact readingOf_isSome listed cut
        cut := fun reading read => readingOf_cut read
        names := parseDateTime_iff value format
        fields := fields value }
  · intro other instant parsed otherParsed reading read otherReading otherRead token number
      otherNumber member otherMember
    have first := fields value instant reading parsed read _ member
    have second := fields other instant otherReading otherParsed otherRead _ otherMember
    exact_mod_cast first.symm.trans second

/-- A format of a date and a time. -/
theorem slashed_calendar :
    OneTokenAField (itemsOf "DD/MM/YYYY HH:mm:ss".toList) ∧
      ReadsCalendar (some "DD/MM/YYYY HH:mm:ss".toList) "29/02/2024 23:59:01".toList := by
  have single : OneTokenAField (itemsOf "DD/MM/YYYY HH:mm:ss".toList) := by
    unfold OneTokenAField
    decide +kernel
  refine ⟨single, (parseDateTime_calendar (some "DD/MM/YYYY HH:mm:ss".toList) ?_ _).1⟩
  intro pattern given
  rw [← Option.some.inj given]
  exact single

/-- Of two tokens for the day the second counts for nothing, so texts that differ in it read as
one instant; and a bare date is read by a format with a time, which it does not match. -/
theorem twice_the_day :
    readWithPattern "05 06 01 2024".toList "DD D MM YYYY".toList =
        some [(.DD, 5), (.D, 6), (.MM, 1), (.YYYY, 2024)] ∧
      readWithPattern "05 07 01 2024".toList "DD D MM YYYY".toList =
        some [(.DD, 5), (.D, 7), (.MM, 1), (.YYYY, 2024)] ∧
      parseDateTime "05 06 01 2024".toList (some "DD D MM YYYY".toList) = some 1704393000000 ∧
      parseDateTime "05 07 01 2024".toList (some "DD D MM YYYY".toList) = some 1704393000000 ∧
      parseDateTime "05/01/2024".toList (some "DD/MM/YYYY HH:mm".toList) =
        some 1704393000000 ∧
      readWithPattern "05/01/2024".toList "DD/MM/YYYY HH:mm".toList = none := by
  decide +kernel

end ErpServer.Settlement
