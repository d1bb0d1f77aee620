/-!
Days of the proleptic Gregorian calendar, counted from 1970-01-01.
-/

namespace FieldRules.Calendar

def isLeap (year : Int) : Bool := year % 4 = 0 ∧ (year % 100 ≠ 0 ∨ year % 400 = 0)

def daysInMonth (year : Int) (month : Nat) : Nat :=
  match month with
  | 2 => if isLeap year then 29 else 28
  | 4 | 6 | 9 | 11 => 30
  | _ => 31

/-- A date of the calendar. -/
structure Date where
  year : Int
  month : Nat
  day : Nat
  deriving DecidableEq

namespace Date

/-- The years that dates may have. -/
def minYear : Int := -262143

def maxYear : Int := 262142

/-- The date exists and its year is in range. -/
def Valid (d : Date) : Prop :=
  minYear ≤ d.year ∧ d.year ≤ maxYear ∧ 1 ≤ d.month ∧ d.month ≤ 12 ∧ 1 ≤ d.day ∧
    d.day ≤ daysInMonth d.year d.month

instance (d : Date) : Decidable d.Valid := inferInstanceAs (Decidable (_ ∧ _))

/-- Days before the first of January of a year, from the first of January of year one. -/
def daysBeforeYear (year : Int) : Int :=
  let y := year - 1
  365 * y + y / 4 - y / 100 + y / 400

/-- Days before a month within its year. -/
def daysBeforeMonth (year : Int) (month : Nat) : Nat :=
  (List.range (month - 1)).foldr (fun m days => daysInMonth year (m + 1) + days) 0

/-- Days from 1970-01-01. -/
def number (d : Date) : Int :=
  daysBeforeYear d.year - daysBeforeYear 1970 + daysBeforeMonth d.year d.month + (d.day - 1)

/-- Days after Sunday; 1970-01-01 was a Thursday. -/
def weekday (d : Date) : Int := (d.number + 4) % 7

/-- The first and the last day that instants may fall on. -/
def first : Int := number ⟨minYear, 1, 1⟩

def last : Int := number ⟨maxYear, 12, 31⟩

end Date

end FieldRules.Calendar
