/-!
# Calendar

Dates of the Gregorian calendar, extended to all years, and their day numbers.
-/

namespace DeviceSessions

/-- A date by year, month and day of the month, both counted from one. -/
structure Date where
  year : Int
  month : Nat
  day : Nat
  deriving DecidableEq, Repr

namespace Calendar

/-- Leap years: every fourth, but of the full centuries only every fourth. -/
def isLeap (year : Int) : Bool := year % 4 == 0 && (year % 100 != 0 || year % 400 == 0)

/-- The lengths of the months. -/
def monthLengths (year : Int) : List Nat :=
  [31, if isLeap year then 29 else 28, 31, 30, 31, 30, 31, 31, 30, 31, 30, 31]

/-- The days from the first of January of year 1 to that of `year`. -/
def daysBeforeYear (year : Int) : Int :=
  let y := year - 1
  365 * y + y / 4 - y / 100 + y / 400

/-- The day number of the first of January 1970, counted from that of year 1. -/
def unixDay : Int := 719162

/-- The year that day `n` of the count from year 1 lies in. -/
def yearOf (n : Int) : Int :=
  let guess := 400 * n / 146097 + 1
  if n < daysBeforeYear guess then guess - 1
  else if daysBeforeYear (guess + 1) ≤ n then guess + 1
  else guess

/-- The month and day reached `n` days into months of the given lengths; `month` is the first. -/
def monthDay (month : Nat) : List Nat → Nat → Nat × Nat
  | [], n => (month, n + 1)
  | length :: rest, n =>
    if n < length then (month, n + 1) else monthDay (month + 1) rest (n - length)

end Calendar

namespace Date

open Calendar

/-- Whether the calendar has this date. -/
def isValid (d : Date) : Bool :=
  1 ≤ d.month && 1 ≤ d.day && d.day ≤ ((monthLengths d.year)[d.month - 1]?).getD 0

/-- Days since the first of January 1970. -/
def toDays (d : Date) : Int :=
  let months : Nat := ((monthLengths d.year).take (d.month - 1)).foldr (· + ·) 0
  daysBeforeYear d.year + months + d.day - 1 - unixDay

/-- The date `n` days after the first of January 1970. -/
def ofDays (n : Int) : Date :=
  let n := n + unixDay
  let year := yearOf n
  let (month, day) := monthDay 1 (monthLengths year) (n - daysBeforeYear year).toNat
  ⟨year, month, day⟩

end Date

end DeviceSessions
