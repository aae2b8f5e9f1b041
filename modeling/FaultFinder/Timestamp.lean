import FaultFinder.Date

/-!
# Points in time

A point in coordinated universal time: a date, a second of that day and a
fraction of a second in nanoseconds.  A leap second is the last second of a
minute prolonged, so its fraction runs from one second to two.
-/

namespace FaultFinder

namespace Timestamp

/-- The number of nanoseconds in a second. -/
def nanosecondsPerSecond : Nat := 1000000000

/-- The number of seconds in a day. -/
def secondsPerDay : Nat := 86400

/-- Whether a second of a day can have a fraction. -/
def IsValid (second nanosecond : Nat) : Prop :=
  second < secondsPerDay ∧ nanosecond < 2 * nanosecondsPerSecond ∧
    (nanosecondsPerSecond ≤ nanosecond → second % 60 = 59)

instance (second nanosecond : Nat) : Decidable (IsValid second nanosecond) :=
  inferInstanceAs (Decidable (_ ∧ _))

end Timestamp

/-- A point in coordinated universal time. -/
structure Timestamp where
  /-- The day. -/
  date : Date
  /-- The second of the day. -/
  second : Nat
  /-- The fraction of the second; in a leap second it is a second or more. -/
  nanosecond : Nat
  /-- The day has such a second. -/
  valid : Timestamp.IsValid second nanosecond
  deriving DecidableEq

namespace Timestamp

/-- The point with the given second and fraction of a day, if the day has it. -/
def ofParts? (date : Date) (second nanosecond : Nat) : Option Timestamp :=
  if valid : IsValid second nanosecond then some ⟨date, second, nanosecond, valid⟩ else none

/--
The point that a clock shows which is `offset` seconds ahead of coordinated
universal time.  The sixtieth second is the leap second of its minute.
-/
def ofClock?
    (date : Date)
    (hour minute second nanosecond : Nat)
    (offset : Int) :
    Option Timestamp := do
  if 24 ≤ hour ∨ 60 ≤ minute ∨ 61 ≤ second ∨ nanosecondsPerSecond ≤ nanosecond then none
  if (secondsPerDay : Int) ≤ offset ∨ offset ≤ -secondsPerDay then none
  let (second, nanosecond) :=
    if second = 60 then (59, nanosecond + nanosecondsPerSecond) else (second, nanosecond)
  let shifted : Int := (hour * 3600 + minute * 60 + second : Nat) - offset
  if shifted < 0 then
    ofParts? (← date.previous?) (shifted + secondsPerDay).toNat nanosecond
  else if (secondsPerDay : Int) ≤ shifted then
    ofParts? (← date.next?) (shifted - secondsPerDay).toNat nanosecond
  else
    ofParts? date shifted.toNat nanosecond

end Timestamp
end FaultFinder
