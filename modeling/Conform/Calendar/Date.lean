import Conform.Text.Decimal

/-
  Days of the Gregorian calendar, extended to the years 1 to 9999. Days are counted from the first
  of January of year 1, which is day 1 and a Monday.
-/

namespace Conform

/-- A calendar day. -/
structure Date where
  year : Nat
  month : Nat
  day : Nat
deriving DecidableEq, Repr, Inhabited

/-- Why numbers are no date, no time of day or no offset. -/
inductive CalendarError where
  | year (year : Nat)
  | month
  | day
  | hour
  | minute
  | second
  | offset (microseconds : Int)
deriving DecidableEq, Repr

namespace Date

/-- Whether the year has a day in February more. -/
def isLeap (year : Nat) : Bool := year % 4 == 0 && (year % 100 != 0 || year % 400 == 0)

def daysIn (year month : Nat) : Nat :=
  match month with
  | 2 => if isLeap year then 29 else 28
  | 4 | 6 | 9 | 11 => 30
  | _ => 31

/-- The number of days before a year of year 1 or later. -/
def daysBeforeYear (year : Nat) : Nat :=
  let past := year - 1
  past * 365 + past / 4 - past / 100 + past / 400

def daysBeforeMonth (year month : Nat) : Nat :=
  (List.range (month - 1)).foldl (fun days m => days + daysIn year (m + 1)) 0

def ordinal (d : Date) : Nat := daysBeforeYear d.year + daysBeforeMonth d.year d.month + d.day

/-- The date with these numbers, the first number that is out of range being reported. -/
def make (year month day : Nat) : Except CalendarError Date :=
  if year < 1 ∨ 9999 < year then .error (.year year)
  else if month < 1 ∨ 12 < month then .error .month
  else if day < 1 ∨ daysIn year month < day then .error .day
  else .ok ⟨year, month, day⟩

/-- The month that holds the day with the given number within its year, searched from the given
month on, and the day within that month. -/
def monthFrom (year month day : Nat) : Nat → Nat × Nat
  | 0 => (month, day)
  | fuel + 1 =>
    if day ≤ daysIn year month then (month, day)
    else monthFrom year (month + 1) (day - daysIn year month) fuel

/-- The date with the given number, which must be positive. -/
def ofOrdinal (n : Nat) : Date :=
  let guess := (n - 1) / 366 + 1
  let year := guess + ((List.range ((n - 1) / 365 + 1 - guess)).filter fun i =>
    daysBeforeYear (guess + i + 1) < n).length
  let (month, day) := monthFrom year 1 (n - daysBeforeYear year) 12
  ⟨year, month, day⟩

/-- The day of the week, from 0 for Monday. -/
def weekday (d : Date) : Nat := (d.ordinal + 6) % 7

/-- The number of the Monday of the first week, which is the week with the first Thursday. -/
def firstMonday (year : Nat) : Nat :=
  let first : Date := ⟨year, 1, 1⟩
  if first.weekday ≤ 3 then first.ordinal - first.weekday
  else first.ordinal + 7 - first.weekday

/-- Whether the year has 53 weeks: it starts on a Thursday, or on a Wednesday in a leap year. -/
def hasLongYear (year : Nat) : Bool :=
  let first := weekday ⟨year, 1, 1⟩
  first == 3 || (first == 2 && isLeap year)

/-- The day in the form year-month-day. -/
def text (d : Date) : String :=
  Text.paddedDecimal 4 d.year ++ "-" ++ Text.paddedDecimal 2 d.month ++ "-"
    ++ Text.paddedDecimal 2 d.day

example : (ofOrdinal 738900).ordinal = 738900 := by decide +kernel
example : ofOrdinal 366 = ⟨2, 1, 1⟩ ∧ ofOrdinal 1461 = ⟨4, 12, 31⟩ := by decide +kernel

end Date
end Conform
