/-!
Days of the proleptic Gregorian calendar. A day is a number counted from 1970-01-01; a date names it
by year, month and day of the month.
-/

namespace RecordQuery

/-- A date within the calendar's supported years has a month from 1 to 12 and a day of that
month. -/
structure Date where
  year : Int
  month : Nat
  day : Nat
  deriving DecidableEq, Repr

namespace Calendar

def isLeapYear (year : Int) : Bool := year % 4 = 0 && (year % 100 ≠ 0 || year % 400 = 0)

def monthLength (year : Int) (month : Nat) : Nat :=
  match month with
  | 2 => if isLeapYear year then 29 else 28
  | 4 | 6 | 9 | 11 => 30
  | _ => 31

/-- The supported years. -/
def minYear : Int := -262143

def maxYear : Int := 262142

end Calendar

namespace Date

open Calendar

def Valid (d : Date) : Prop :=
  minYear ≤ d.year ∧ d.year ≤ maxYear ∧ 1 ≤ d.month ∧ d.month ≤ 12 ∧
    1 ≤ d.day ∧ d.day ≤ monthLength d.year d.month

instance (d : Date) : Decidable d.Valid := inferInstanceAs (Decidable (_ ∧ _))

/-- The number of the day. Years are taken to begin in March, so that the leap day ends one. -/
def toDay (d : Date) : Int :=
  let year := if d.month ≤ 2 then d.year - 1 else d.year
  let month : Int := if d.month ≤ 2 then (d.month : Int) + 9 else (d.month : Int) - 3
  365 * year + year / 4 - year / 100 + year / 400 + (153 * month + 2) / 5 + (d.day : Int) - 1
    - 719468

/-- The date of a day: first the year within its cycle of 400, then the month of 30 or 31 days. -/
def ofDay (n : Int) : Date :=
  let shifted := n + 719468
  let cycle := shifted / 146097
  let inCycle := shifted % 146097
  let yearOfCycle := (inCycle - inCycle / 1460 + inCycle / 36524 - inCycle / 146096) / 365
  let dayOfYear := inCycle - (365 * yearOfCycle + yearOfCycle / 4 - yearOfCycle / 100)
  let month := (5 * dayOfYear + 2) / 153
  let day := dayOfYear - (153 * month + 2) / 5 + 1
  let year := 400 * cycle + yearOfCycle
  if month < 10 then ⟨year, (month + 3).toNat, day.toNat⟩
  else ⟨year + 1, (month - 9).toNat, day.toNat⟩

/-- The day of that name, if the calendar has it. -/
def day? (year : Int) (month day : Nat) : Option Int :=
  if Valid ⟨year, month, day⟩ then some (toDay ⟨year, month, day⟩) else none

end Date

namespace Calendar

def minDay : Int := Date.toDay ⟨minYear, 1, 1⟩

def maxDay : Int := Date.toDay ⟨maxYear, 12, 31⟩

/-- The day itself, if it lies in the supported years. -/
def checkDay? (n : Int) : Option Int := if minDay ≤ n ∧ n ≤ maxDay then some n else none

/-- Days since Monday, from 0 to 6; 1970-01-01 was a Thursday. -/
def daysSinceMonday (n : Int) : Int := (n + 3) % 7

/-- The same day of the month some months away, or that month's last day if it is shorter. -/
def addMonths? (n : Int) (months : Int) : Option Int :=
  let date := Date.ofDay n
  let total := date.year * 12 + (date.month : Int) - 1 + months
  let year := total / 12
  let month := (total % 12).toNat + 1
  Date.day? year month (min date.day (monthLength year month))

def startOfYear? (year : Int) : Option Int := Date.day? year 1 1

/-- A week of a week-numbering year. -/
structure Week where
  year : Int
  number : Nat
  deriving DecidableEq, Repr

/-- A week belongs to the year that holds its Thursday. -/
def weekOf (n : Int) : Week :=
  let thursday := n - daysSinceMonday n + 3
  let year := (Date.ofDay thursday).year
  ⟨year, ((thursday - Date.toDay ⟨year, 1, 1⟩) / 7 + 1).toNat⟩

end Calendar

end RecordQuery
