import PettyFlow.Foundation.Numerals
import PettyFlow.Foundation.Separators

/-! Dates of the calendar and their ISO texts. -/

namespace Foundation

def isLeapYear (year : Nat) : Bool := year % 4 = 0 ∧ (year % 100 ≠ 0 ∨ year % 400 = 0)

def daysInMonth (year month : Nat) : Nat :=
  if month = 2 then
    if isLeapYear year then 29 else 28
  else if month = 4 ∨ month = 6 ∨ month = 9 ∨ month = 11 then
    30
  else
    31

/-- A day of a year with at most four digits. -/
structure CalendarDate where
  year : Nat
  month : Nat
  day : Nat
  yearBounds : 1 ≤ year ∧ year ≤ 9999
  monthBounds : 1 ≤ month ∧ month ≤ 12
  dayBounds : 1 ≤ day ∧ day ≤ daysInMonth year month
deriving DecidableEq

namespace CalendarDate

/-- The date of some numbers, if there is one. -/
def ofNumbers? (year month day : Nat) : Option CalendarDate :=
  if valid
      : (1 ≤ year ∧ year ≤ 9999) ∧ (1 ≤ month ∧ month ≤ 12)
        ∧ 1 ≤ day ∧ day ≤ daysInMonth year month then
    some ⟨year, month, day, valid.1, valid.2.1, valid.2.2⟩
  else
    none

/-- The text `YYYY-MM-DD`. -/
def isoText (date : CalendarDate) : String :=
  zeroPadded 4 date.year ++ "-" ++ zeroPadded 2 date.month ++ "-" ++ zeroPadded 2 date.day

variable {date date' : CalendarDate}

theorem bounds (date : CalendarDate)
    : date.year < 10 ^ 4 ∧ date.month < 10 ^ 2 ∧ date.day < 10 ^ 2 := by
  have days : daysInMonth date.year date.month ≤ 31 := by
    unfold daysInMonth
    split_ifs <;> omega
  have year := date.yearBounds
  have month := date.monthBounds
  have day := date.dayBounds
  omega

theorem toList_isoText (date : CalendarDate)
    : date.isoText.toList
      = lastDigits 4 date.year
        ++ '-' :: (lastDigits 2 date.month ++ '-' :: lastDigits 2 date.day) := by
  obtain ⟨year, month, day⟩ := date.bounds
  rw [isoText, String.toList_append, String.toList_append, String.toList_append,
    String.toList_append, toList_zeroPadded (by decide) year, toList_zeroPadded (by decide) month,
    toList_zeroPadded (by decide) day]
  simp only [List.append_assoc]
  rfl

theorem not_mem_lastDigits {count n : Nat} {c : Char} (other : c.isDigit = false)
    : c ∉ lastDigits count n := by
  intro member
  rw [isDigit_of_mem_lastDigits member] at other
  cases other

theorem ext_numbers (year : date.year = date'.year) (month : date.month = date'.month)
    (day : date.day = date'.day)
    : date = date' := by
  obtain ⟨_, _, _, _, _, _⟩ := date
  obtain ⟨_, _, _, _, _, _⟩ := date'
  simp only at year month day
  subst year month day
  rfl

theorem isoText_inj (same : date.isoText = date'.isoText) : date = date' := by
  have texts := congrArg String.toList same
  rw [toList_isoText, toList_isoText] at texts
  obtain ⟨years, rest⟩ := split_first (not_mem_lastDigits rfl) (not_mem_lastDigits rfl) texts
  obtain ⟨months, days⟩ := split_first (not_mem_lastDigits rfl) (not_mem_lastDigits rfl) rest
  obtain ⟨year, month, day⟩ := date.bounds
  obtain ⟨year', month', day'⟩ := date'.bounds
  exact ext_numbers (lastDigits_inj year year' years) (lastDigits_inj month month' months)
    (lastDigits_inj day day' days)

theorem ofNumbers?_eq_some {year month day : Nat}
    : ofNumbers? year month day = some date
      ↔ date.year = year ∧ date.month = month ∧ date.day = day := by
  unfold ofNumbers?
  constructor
  · intro found
    split at found
    · cases found
      exact ⟨rfl, rfl, rfl⟩
    · cases found
  · intro ⟨sameYear, sameMonth, sameDay⟩
    subst sameYear sameMonth sameDay
    rw [dif_pos ⟨date.yearBounds, date.monthBounds, date.dayBounds⟩]

end CalendarDate

end Foundation
