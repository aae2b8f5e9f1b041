/-!
# Calendar dates

Days of the Gregorian calendar, which is also used for the time before it was
introduced.  The years from -262143 to 262142 are dates; year zero is the one
before year one.
-/

namespace FaultFinder

namespace Date

/-- Whether a year has a leap day. -/
def isLeapYear (year : Int) : Bool :=
  year % 4 = 0 && (year % 100 ≠ 0 || year % 400 = 0)

/-- The number of days in a month. -/
def daysInMonth (year : Int) (month : Nat) : Nat :=
  if month = 2 then (if isLeapYear year then 29 else 28)
  else if month = 4 ∨ month = 6 ∨ month = 9 ∨ month = 11 then 30
  else 31

/-- Whether there is a date with the given year, month and day. -/
def IsValid (year : Int) (month day : Nat) : Prop :=
  -262143 ≤ year ∧ year ≤ 262142 ∧ 1 ≤ month ∧ month ≤ 12 ∧
    1 ≤ day ∧ day ≤ daysInMonth year month

instance (year : Int) (month day : Nat) : Decidable (IsValid year month day) :=
  inferInstanceAs (Decidable (_ ∧ _))

end Date

/-- A day of the calendar. -/
structure Date where
  /-- The year. -/
  year : Int
  /-- The month, from one to twelve. -/
  month : Nat
  /-- The day of the month, from one on. -/
  day : Nat
  /-- The calendar has such a day. -/
  valid : Date.IsValid year month day
  deriving DecidableEq

namespace Date

/-- The date with the given year, month and day, if there is one. -/
def ofFields? (year : Int) (month day : Nat) : Option Date :=
  if valid : IsValid year month day then some ⟨year, month, day, valid⟩ else none

/-- The following day, unless there is none. -/
def next? (date : Date) : Option Date :=
  if date.day < daysInMonth date.year date.month then
    ofFields? date.year date.month (date.day + 1)
  else if date.month < 12 then ofFields? date.year (date.month + 1) 1
  else ofFields? (date.year + 1) 1 1

/-- The day before, unless there is none. -/
def previous? (date : Date) : Option Date :=
  if 1 < date.day then ofFields? date.year date.month (date.day - 1)
  else if 1 < date.month then
    ofFields? date.year (date.month - 1) (daysInMonth date.year (date.month - 1))
  else ofFields? (date.year - 1) 12 31

end Date
end FaultFinder
