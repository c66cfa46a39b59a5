import ErpServer.Lib.Rendering

/-!
# The day of a date

Days counted from 1 January 1970 as a runtime's date constructor counts them, a day past the
end of its month among them.  The date read off such a day is the one it was made of exactly
when its month has that day.
-/

namespace Lib.Calendar

open Lib.Rendering

def isLeap (year : ℤ) : Bool := year % 4 = 0 ∧ (year % 100 ≠ 0 ∨ year % 400 = 0)

def daysInMonth (year month : ℤ) : ℤ :=
  if month = 2 then (if isLeap year then 29 else 28)
  else if month = 4 ∨ month = 6 ∨ month = 9 ∨ month = 11 then 30
  else 31

def daysBeforeYear (year : ℤ) : ℤ :=
  365 * (year - 1970) + (year - 1969) / 4 - (year - 1901) / 100 + (year - 1601) / 400

/-- The days of a year before a month of it, the first month being 1. -/
def daysBeforeMonth (year month : ℤ) : ℤ :=
  [0, 31, 59, 90, 120, 151, 181, 212, 243, 273, 304, 334].getD (month - 1).toNat 0 +
    if 2 < month ∧ isLeap year then 1 else 0

def makeDay (year month day : ℤ) : ℤ :=
  daysBeforeYear year + daysBeforeMonth year month + (day - 1)

/-- A date of the calendar. -/
structure IsDate (year month day : ℤ) : Prop where
  inYear : 1 ≤ month ∧ month ≤ 12
  inMonth : 1 ≤ day ∧ day ≤ daysInMonth year month

instance (year month day : ℤ) : Decidable (IsDate year month day) :=
  decidable_of_iff ((1 ≤ month ∧ month ≤ 12) ∧ 1 ≤ day ∧ day ≤ daysInMonth year month)
    ⟨fun date => ⟨date.1, date.2⟩, fun date => ⟨date.inYear, date.inMonth⟩⟩

variable {date day month ofYear year : ℤ}

/-- The date of a day given by its parts: the year of the era, counted from March, and the day
of that year. -/
theorem civil_of_parts {era century leap : ℤ}
    (whole : date + 719468 = 146097 * era + 36524 * century + 1461 * leap + 365 * year + ofYear)
    (centuries : 0 ≤ century ∧ century ≤ 3) (leaps : 0 ≤ leap ∧ leap ≤ 24)
    (years : 0 ≤ year ∧ year ≤ 3) (days : 0 ≤ ofYear ∧ ofYear ≤ 365)
    (last : ofYear = 365 → year = 3 ∧ (leap = 24 → century = 3)) : civil date =
      (era * 400 + century * 100 + leap * 4 + year + (if (5 * ofYear + 2) / 153 < 10 then 0 else 1),
        (if (5 * ofYear + 2) / 153 < 10 then (5 * ofYear + 2) / 153 + 3
          else (5 * ofYear + 2) / 153 - 9),
        ofYear - (153 * ((5 * ofYear + 2) / 153) + 2) / 5 + 1) := by
  have eras : (date + 719468) / 146097 = era := by omega
  have ofEra : (date + 719468) % 146097 = 36524 * century + 1461 * leap + 365 * year + ofYear := by
    omega
  have century' : min 3 ((36524 * century + 1461 * leap + 365 * year + ofYear) / 36524) =
      century := by
    omega
  have leap' : (36524 * century + 1461 * leap + 365 * year + ofYear - 36524 * century) / 1461 =
      leap := by
    omega
  have year' : min 3 ((36524 * century + 1461 * leap + 365 * year + ofYear - 36524 * century -
      1461 * leap) / 365) = year := by
    omega
  have ofYear' : 36524 * century + 1461 * leap + 365 * year + ofYear - 36524 * century -
      1461 * leap - 365 * year = ofYear := by
    omega
  unfold civil
  simp only [eras, ofEra, century', leap', year', ofYear']

theorem isLeap_iff (year : ℤ) :
    isLeap year = true ↔ year % 4 = 0 ∧ (year % 100 ≠ 0 ∨ year % 400 = 0) := by
  rw [isLeap, decide_eq_true_eq]

/-- The days before the March of a year, by its four hundreds, hundreds, fours and ones. -/
def daysBeforeMarch (year : ℤ) : ℤ :=
  146097 * (year / 400) + 36524 * (year % 400 / 100) + 1461 * (year % 100 / 4) + 365 * (year % 4)

theorem january_of_march (year : ℤ) :
    daysBeforeYear year + 719468 = daysBeforeMarch (year - 1) + 306 := by
  unfold daysBeforeYear daysBeforeMarch
  omega

theorem march_of_january (year : ℤ) :
    daysBeforeYear year + 719468 + 59 + (if isLeap year then 1 else 0) = daysBeforeMarch year := by
  have leaps := isLeap_iff year
  unfold daysBeforeYear daysBeforeMarch
  by_cases leap : isLeap year = true
  · rw [if_pos leap]
    have byFour := leaps.1 leap
    omega
  · rw [if_neg leap]
    have notByFour := mt leaps.2 leap
    omega

/-- The date so many days after the March of a year. -/
theorem civil_of_march (whole : date + 719468 = daysBeforeMarch year + ofYear)
    (days : 0 ≤ ofYear ∧ ofYear ≤ 365) (last : ofYear = 365 → isLeap (year + 1) = true) :
    civil date =
      (year + (if (5 * ofYear + 2) / 153 < 10 then 0 else 1),
        (if (5 * ofYear + 2) / 153 < 10 then (5 * ofYear + 2) / 153 + 3
          else (5 * ofYear + 2) / 153 - 9),
        ofYear - (153 * ((5 * ofYear + 2) / 153) + 2) / 5 + 1) := by
  have parts : civil date = _ := civil_of_parts whole (by omega) (by omega) (by omega) days (by
    intro isLast
    have leap := (isLeap_iff (year + 1)).1 (last isLast)
    omega)
  have regroup : year / 400 * 400 + year % 400 / 100 * 100 + year % 100 / 4 * 4 + year % 4 =
      year := by
    omega
  rw [parts, regroup]

/-- The day of a date reads as that date. -/
theorem civil_makeDay (date : IsDate year month day) :
    civil (makeDay year month day) = (year, month, day) := by
  obtain ⟨⟨firstMonth, lastMonth⟩, firstDay, lastDay⟩ := date
  have january := january_of_march year
  have march := march_of_january year
  unfold daysInMonth at lastDay
  -- A month before March is of the year before, counted from March.
  by_cases early : month ≤ 2
  · have leaps : (28 < day ∧ month = 2) → isLeap year = true := by
      intro last
      by_contra common
      rw [if_pos last.2, if_neg common] at lastDay
      omega
    have ofYear : makeDay year month day + 719468 =
        daysBeforeMarch (year - 1) + (306 + 31 * (month - 1) + (day - 1)) := by
      unfold makeDay daysBeforeMonth
      interval_cases month <;> simp <;> omega
    have short : day ≤ 31 ∧ (month = 2 → day ≤ 29) := by
      split at lastDay
      · split at lastDay <;> omega
      · split at lastDay <;> omega
    rw [civil_of_march ofYear (by omega) (fun isLast => by
      rw [sub_add_cancel]
      exact leaps (by omega))]
    simp only [Prod.mk.injEq]
    interval_cases month <;> refine ⟨?_, ?_, ?_⟩ <;> omega
  · have ofYear : makeDay year month day + 719468 =
        daysBeforeMarch year + ((153 * (month - 3) + 2) / 5 + (day - 1)) := by
      rw [← march]
      unfold makeDay daysBeforeMonth
      interval_cases month <;> simp <;> omega
    rw [if_neg (by omega)] at lastDay
    rw [civil_of_march ofYear (by split at lastDay <;> omega)
      (fun isLast => by split at lastDay <;> omega)]
    simp only [Prod.mk.injEq]
    split at lastDay
    next thirty => rcases thirty with rfl | rfl | rfl | rfl <;> refine ⟨?_, ?_, ?_⟩ <;> omega
    next => interval_cases month <;> refine ⟨?_, ?_, ?_⟩ <;> omega

/-- A day past the end of its month reads as one of the next month. -/
theorem civil_makeDay_past (inYear : 1 ≤ month ∧ month ≤ 12) (inMonth : day ≤ 31)
    (past : daysInMonth year month < day) :
    civil (makeDay year month day) = (year, month + 1, day - daysInMonth year month) := by
  obtain ⟨first, last⟩ := inYear
  unfold daysInMonth at past
  have date : IsDate year (month + 1) (day - daysInMonth year month) := by
    constructor
    · split at past
      · omega
      · split at past <;> omega
    · unfold daysInMonth
      cases leap : isLeap year <;> interval_cases month <;> simp [leap] at past ⊢ <;> omega
  rw [← civil_makeDay date]
  congr 1
  unfold makeDay daysBeforeMonth daysInMonth
  cases leap : isLeap year <;> interval_cases month <;> simp [leap] at past ⊢ <;> omega

end Lib.Calendar
