import PettyFlow.Foundation.Uuid

/-! Clock readings in coordinated universal time and how they are written. -/

namespace Foundation

/-- A point in time, in microseconds since the beginning of 1970. -/
structure Instant where
  micros : Int
deriving DecidableEq

/-- A number in decimal, padded on the left with zeros to a width. -/
def zeroPadded (width : Nat) (n : Int) : String :=
  let numeral := toString n
  String.ofList (List.replicate (width - numeral.length) '0') ++ numeral

structure CivilDate where
  year : Int
  month : Int
  day : Int
deriving DecidableEq

/-- The Gregorian date of a day number. The year is counted from March, so that the leap
day comes last.
-/
def civilDate (days : Int) : CivilDate :=
  let shifted := days + 719468
  let era := shifted / 146097
  let dayOfEra := shifted % 146097
  let yearOfEra :=
    (dayOfEra - dayOfEra / 1460 + dayOfEra / 36524 - dayOfEra / 146096) / 365
  let dayOfYear := dayOfEra - (365 * yearOfEra + yearOfEra / 4 - yearOfEra / 100)
  let shiftedMonth := (5 * dayOfYear + 2) / 153
  let month := if shiftedMonth < 10 then shiftedMonth + 3 else shiftedMonth - 9
  {
    year := yearOfEra + era * 400 + (if month ≤ 2 then 1 else 0)
    month
    day := dayOfYear - (153 * shiftedMonth + 2) / 5 + 1
  }

/-- The first and the last time of the calendar, at the ends of the years 1 and 9999. -/
def firstMicros : Int := -62135596800000000

def lastMicros : Int := 253402300799999999

namespace Instant

def date (t : Instant) : CivilDate := civilDate (t.micros / 86400000000)

def addDays (t : Instant) (days : Int) : Instant := ⟨t.micros + days * 86400000000⟩

/-- The time some seconds later, or what the sum raises. The days of an interval are bounded
before its sum with a time is.
-/
def addSeconds (t : Instant) (seconds : Int) : Except String Instant :=
  let days := seconds / 86400
  let later := t.micros + 1000000 * seconds
  if days < -2 ^ 31 ∨ 2 ^ 31 ≤ days then
    .error "Python int too large to convert to C int"
  else if days < -999999999 ∨ 999999999 < days then
    .error s!"days={days}; must have magnitude <= 999999999"
  else if later < firstMicros ∨ lastMicros < later then
    .error "date value out of range"
  else
    .ok ⟨later⟩

/-- The ISO text of a date. -/
def dateText (date : CivilDate) : String :=
  zeroPadded 4 date.year ++ "-" ++ zeroPadded 2 date.month ++ "-" ++ zeroPadded 2 date.day

/-- Date and time to the second. -/
def secondsText (t : Instant) : String :=
  let seconds := t.micros % 86400000000 / 1000000
  dateText t.date ++ "T" ++ zeroPadded 2 (seconds / 3600) ++ ":"
    ++ zeroPadded 2 (seconds / 60 % 60) ++ ":" ++ zeroPadded 2 (seconds % 60)

/-- The ISO text of a time without an offset; whole seconds have no fraction. -/
def localText (t : Instant) : String :=
  let fraction := t.micros % 1000000
  t.secondsText ++ (if fraction = 0 then "" else "." ++ zeroPadded 6 fraction)

/-- The ISO text with the offset of universal time. -/
def isoformat (t : Instant) : String := t.localText ++ "+00:00"

/-- Date and time to the minute, in digits only. -/
def minuteDigits (t : Instant) : String :=
  let minutes := t.micros % 86400000000 / 60000000
  zeroPadded 4 t.date.year ++ zeroPadded 2 t.date.month ++ zeroPadded 2 t.date.day
    ++ zeroPadded 2 (minutes / 60) ++ zeroPadded 2 (minutes % 60)

/-- Year and month of a time. -/
def yearMonth (t : Instant) : String :=
  zeroPadded 4 t.date.year ++ "-" ++ zeroPadded 2 t.date.month

/-- The abbreviated name of the month and the year. -/
def monthNameYear (t : Instant) : String :=
  let names :=
    ["Jan", "Feb", "Mar", "Apr", "May", "Jun", "Jul", "Aug", "Sep", "Oct", "Nov", "Dec"]
  names.getD (t.date.month - 1).toNat "" ++ " " ++ zeroPadded 4 t.date.year

example : (Instant.mk 1709164800123456).isoformat = "2024-02-29T00:00:00.123456+00:00" := by
  decide

end Instant

/-- What a new record takes from its surroundings: an identifier and the time. -/
structure Draw where
  uuid : Uuid
  now : Instant
deriving DecidableEq

end Foundation
