import ErpServer.Lib.Calendar
import ErpServer.Settlement.Match

/-!
# Reading a provider's dates

A date format is its tokens and what is between them.  A text is read as a regular expression
reads it: a token its digits, one or two of them where it is one letter, what is between any
run that is no digit.  The parts are then put to the calendar, in India's time.
-/

namespace ErpServer.Settlement

open Lib

/-! ## Formats -/

inductive DateToken where
  | YYYY
  | YY
  | MM
  | M
  | DD
  | D
  | HH
  | mm
  | ss
  deriving DecidableEq, Repr

inductive FormatItem where
  | token (which : DateToken)
  /-- Anything in the format but letters: a run that is no digit. -/
  | separator
  /-- A letter that is no token stands for itself; one of some characters. -/
  | literal (chars : List Char)
  deriving DecidableEq, Repr

def isLetter (char : Char) : Bool :=
  ('A' ≤ char ∧ char ≤ 'Z') ∨ ('a' ≤ char ∧ char ≤ 'z')

def isDigit (char : Char) : Bool := '0' ≤ char ∧ char ≤ '9'

/-- The longest token first; `inRun` tells whether a separator is going on. -/
def itemsFrom (inRun : Bool) : Text → List FormatItem
  | 'Y' :: 'Y' :: 'Y' :: 'Y' :: rest => .token .YYYY :: itemsFrom false rest
  | 'Y' :: 'Y' :: rest => .token .YY :: itemsFrom false rest
  | 'M' :: 'M' :: rest => .token .MM :: itemsFrom false rest
  | 'M' :: rest => .token .M :: itemsFrom false rest
  | 'D' :: 'D' :: rest => .token .DD :: itemsFrom false rest
  | 'D' :: rest => .token .D :: itemsFrom false rest
  | 'H' :: 'H' :: rest => .token .HH :: itemsFrom false rest
  | 'm' :: 'm' :: rest => .token .mm :: itemsFrom false rest
  | 's' :: 's' :: rest => .token .ss :: itemsFrom false rest
  | char :: rest =>
      if isLetter char then .literal [char] :: itemsFrom false rest
      else if inRun then itemsFrom true rest
      else .separator :: itemsFrom true rest
  | [] => []

def itemsOf (format : Text) : List FormatItem := itemsFrom false format

/-! ## Reading by a format -/

/-- How many digits a token takes, the most first. -/
def DateToken.widths : DateToken → List ℕ
  | YYYY => [4]
  | M | D => [2, 1]
  | _ => [2]

namespace FormatItem

/-- The lengths to try, in the order they are tried. -/
def lengths (item : FormatItem) (text : Text) : List ℕ :=
  match item with
  | token which => which.widths
  | separator => (List.range text.length).reverse.map (· + 1)
  | literal _ => [1]

/-- Whether a piece of text is one the item stands for. -/
def takes (item : FormatItem) (piece : Text) : Bool :=
  match item with
  | token which => piece.length ∈ which.widths ∧ piece.all isDigit
  | separator => piece ≠ [] ∧ piece.all fun char => !isDigit char
  | literal chars => piece.length = 1 ∧ piece.all fun char => char ∈ chars

end FormatItem

def numberOf (digits : Text) : ℕ :=
  digits.foldl (fun value char => value * 10 + (char.toNat - '0'.toNat)) 0

/-- The tokens read so far with their numbers, in the order of the format. -/
abbrev Reading := List (DateToken × ℕ)

def FormatItem.reads (item : FormatItem) (piece : Text) : Reading :=
  match item with
  | token which => [(which, numberOf piece)]
  | separator | literal _ => []

/-- The first way to cut the text into the pieces of the items. -/
def readItems : List FormatItem → Text → Option Reading
  | [], text => if text = [] then some [] else none
  | item :: rest, text =>
      (item.lengths text).findSome? fun length =>
        if item.takes (text.take length) then
          (readItems rest (text.drop length)).map (item.reads (text.take length) ++ ·)
        else none

/-! ## The parts -/

structure DateParts where
  y : Option ℕ
  m : Option ℕ
  d : Option ℕ
  hh : ℕ
  mi : ℕ
  ss : ℕ
  deriving DecidableEq, Repr

/-- A token's number, the last where it is read twice. -/
def Reading.got (reading : Reading) (token : DateToken) : Option ℕ :=
  (reading.reverse.find? fun entry => entry.1 = token).map (·.2)

def Reading.parts (reading : Reading) : DateParts where
  y := (reading.got .YYYY).or ((reading.got .YY).map (2000 + ·))
  m := (reading.got .MM).or (reading.got .M)
  d := (reading.got .DD).or (reading.got .D)
  hh := (reading.got .HH).getD 0
  mi := (reading.got .mm).getD 0
  ss := (reading.got .ss).getD 0

def readWithPattern (text format : Text) : Option Reading := readItems (itemsOf format) text

/-- What stands before the first white space. -/
def datePart (format : Text) : Text := format.takeWhile fun char => !Text.isSpace char

/-- 'YYYY-MM-DD', 'YYYY-MM-DD HH:mm' and 'YYYY-MM-DD HH:mm:ss', or with a T. -/
def isoFormats : List (List FormatItem) :=
  let date : List FormatItem :=
    [.token .YYYY, .literal ['-'], .token .MM, .literal ['-'], .token .DD]
  let time : List FormatItem := [.literal ['T', ' '], .token .HH, .literal [':'], .token .mm]
  [date, date ++ time, date ++ time ++ [.literal [':'], .token .ss]]

/-- What a text says by a format, or by its date part where it does not say a time. -/
def readingOf (text : Text) (format : Option Text) : Option Reading :=
  match format.filter (· ≠ []) with
  | none => isoFormats.findSome? fun items => readItems items text
  | some pattern =>
      (readWithPattern text pattern).or
        (if datePart pattern ≠ pattern then readWithPattern text (datePart pattern) else none)

/-! ## Instants -/

/-- `Date.UTC` in milliseconds: a year below 100 is one of the last century. -/
def dateUtc (y m d hh mi ss : ℕ) : ℤ :=
  Calendar.makeDay (if y ≤ 99 then 1900 + y else y) m d * DAY_MS + hh * 3600000 + mi * 60000 +
    ss * 1000

/-- The calendar day in India of an instant. -/
def istDay (instant : ℤ) : ℤ := (instant + IST_OFFSET_MS) / DAY_MS

def istDate (instant : ℤ) : Text := Rendering.dateText (istDay instant)

/-- The date as it is compared: its year is not padded. -/
def plainDate (y m d : ℕ) : Text :=
  Rendering.digits 10 1 y ++ '-' :: (Rendering.digits 10 2 m ++ '-' :: Rendering.digits 10 2 d)

def DateParts.instant (parts : DateParts) : Option ℤ :=
  match parts.y, parts.m, parts.d with
  | some y, some m, some d =>
      if m < 1 ∨ 12 < m ∨ d < 1 ∨ 31 < d then none
      else if 23 < parts.hh ∨ 59 < parts.mi ∨ 59 < parts.ss then none
      else
        let date := dateUtc y m d parts.hh parts.mi parts.ss - IST_OFFSET_MS
        -- A day past its month rolls over: refuse it.
        if istDate date = plainDate y m d then some date else none
  | _, _, _ => none

/-- A provider's local date and time as an instant. -/
def parseDateTime (value : Text) (format : Option Text) : Option ℤ :=
  (readingOf (Text.trim value) format).bind fun reading => reading.parts.instant

end ErpServer.Settlement
