/-!
# The calendar

Dates of the Gregorian calendar, extended back to year 1, and the number of days from the first
of January of that year. `Date.isValid` says which dates there are.
-/

namespace FlowWarden

/-- Whether a year has a 29th of February. -/
def isLeapYear (year : Nat) : Bool :=
  year % 4 == 0 && (year % 100 != 0 || year % 400 == 0)

def daysInMonth (year month : Nat) : Nat :=
  if month = 2 then if isLeapYear year then 29 else 28
  else if month = 4 ∨ month = 6 ∨ month = 9 ∨ month = 11 then 30
  else 31

/-- The first year and the last one that dates have. -/
def minYear : Nat := 1

def maxYear : Nat := 9999

/-- A day of the calendar. -/
structure Date where
  year : Nat
  month : Nat
  day : Nat
deriving DecidableEq, Repr

namespace Date

/-- Whether the calendar has the date. -/
def isValid (d : Date) : Bool :=
  minYear ≤ d.year && d.year ≤ maxYear && 1 ≤ d.month && d.month ≤ 12 && 1 ≤ d.day &&
    d.day ≤ daysInMonth d.year d.month

/-- The days from the start of year 1 to the start of a year. -/
def daysBeforeYear (year : Nat) : Nat :=
  let y := year - 1
  y * 365 + y / 4 - y / 100 + y / 400

/-- The days from the start of a year to the start of a month. -/
def daysBeforeMonth (year month : Nat) : Nat :=
  (List.range (month - 1)).foldl (fun days m => days + daysInMonth year (m + 1)) 0

/-- The days from the start of year 1 to a date. -/
def ordinal (d : Date) : Nat :=
  daysBeforeYear d.year + daysBeforeMonth d.year d.month + (d.day - 1)

/-- The month and the day that lie `days` days after the start of month `month`, searched among
the next `months` months. -/
def monthAndDay (year : Nat) : (months month days : Nat) → Nat × Nat
  | 0, month, days => (month, days + 1)
  | months + 1, month, days =>
    let length := daysInMonth year month
    if days < length then (month, days + 1)
    else monthAndDay year months (month + 1) (days - length)

/-- The date that lies `days` days after the start of year 1. -/
def ofOrdinal (days : Nat) : Date :=
  let cycle := days % 146097
  let century := min 3 (cycle / 36524)
  let inCentury := cycle - century * 36524
  let quad := inCentury / 1461
  let inQuad := inCentury % 1461
  let single := min 3 (inQuad / 365)
  let year := 400 * (days / 146097) + 100 * century + 4 * quad + single + 1
  let (month, day) := monthAndDay year 11 1 (inQuad - single * 365)
  ⟨year, month, day⟩

end Date

/-- A number in at least `width` digits. -/
def paddedDigits (width n : Nat) : String :=
  let ds := Nat.toDigits 10 n
  String.ofList (List.replicate (width - ds.length) '0' ++ ds)

/-- A date as `YYYY-MM-DD`. -/
def Date.text (d : Date) : String :=
  paddedDigits 4 d.year ++ "-" ++ paddedDigits 2 d.month ++ "-" ++ paddedDigits 2 d.day

end FlowWarden
