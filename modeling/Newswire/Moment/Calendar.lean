/-!
The calendar: leap years, lengths of months, the number of a day, and the days of a numbered week.
Days are counted from 1 January of the year 1, which is day 1 and a Monday.
-/

namespace Newswire

def isLeap (year : Nat) : Bool :=
  year % 4 == 0 && (year % 100 != 0 || year % 400 == 0)

def monthLength (year month : Nat) : Nat :=
  if month = 2 then (if isLeap year then 29 else 28)
  else if month = 4 ∨ month = 6 ∨ month = 9 ∨ month = 11 then 30
  else 31

theorem monthLength_le (year month : Nat) : monthLength year month ≤ 31 := by
  unfold monthLength
  split
  · split <;> omega
  · split <;> omega

def yearLength (year : Nat) : Nat :=
  if isLeap year then 366 else 365

def daysBeforeYear (year : Nat) : Nat :=
  (year - 1) * 365 + (year - 1) / 4 - (year - 1) / 100 + (year - 1) / 400

def daysBeforeMonth (year month : Nat) : Nat :=
  (List.range (month - 1)).foldl (fun days m => days + monthLength year (m + 1)) 0

def dayNumber (year month day : Nat) : Nat :=
  daysBeforeYear year + daysBeforeMonth year month + day

/-- The weekday of 1 January, a Monday being 0. -/
def firstWeekday (year : Nat) : Nat :=
  daysBeforeYear year % 7

/-- A year has 53 weeks when it begins on a Thursday, or is a leap year and begins on a
Wednesday. -/
def weekCount (year : Nat) : Nat :=
  if firstWeekday year = 3 ∨ (firstWeekday year = 2 ∧ isLeap year) then 53 else 52

/-- The month and day of the `n`-th day of a year, counted from nought and from the given month. -/
def monthDayFrom (year : Nat) : (fuel month n : Nat) → Nat × Nat
  | 0, month, n => (month, n + 1)
  | fuel + 1, month, n =>
    if n < monthLength year month then (month, n + 1)
    else monthDayFrom year fuel (month + 1) (n - monthLength year month)

def monthDay (year n : Nat) : Nat × Nat :=
  monthDayFrom year 11 1 n

/-- Year, month and day of a weekday (Monday is 1) of a numbered week. The first week of a year is
the one that holds its first Thursday, so a week may reach into the year before or after. The
calendar begins with the year 1; what comes before lies in no month of it. -/
def ofWeek? (year week weekday : Nat) : Option (Nat × Nat × Nat) :=
  if week < 1 ∨ weekCount year < week ∨ weekday < 1 ∨ 7 < weekday then none
  else if year = 0 then some (1, 0, 0)
  else
    -- days from the Monday of week 1 to the weekday, and from that Monday to 1 January
    let days := (week - 1) * 7 + (weekday - 1)
    let lead := firstWeekday year
    let start : Int := if lead > 3 then 7 - lead else -(lead : Int)
    let n : Int := start + days
    if n < 0 then
      let (m, d) := monthDay (year - 1) (n + yearLength (year - 1)).toNat
      some (year - 1, m, d)
    else if n.toNat < yearLength year then
      let (m, d) := monthDay year n.toNat
      some (year, m, d)
    else
      let (m, d) := monthDay (year + 1) (n.toNat - yearLength year)
      some (year + 1, m, d)

end Newswire
