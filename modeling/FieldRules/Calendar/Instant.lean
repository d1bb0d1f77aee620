import FieldRules.Calendar.Day
/-!
Instants on one clock: seconds from the start of 1970 in universal time, and nanoseconds. In a leap
second the nanoseconds go on counting from 10^9, so that it lies between its neighbours.
-/

attribute [local instance (high)] instPowNat

namespace FieldRules.Calendar

/-- A point in time. -/
structure Instant where
  seconds : Int
  nanos : Nat
  deriving DecidableEq

/-- Earlier in seconds, or in nanoseconds of the same second. -/
instance : LT Instant :=
  ⟨fun a b => a.seconds < b.seconds ∨ a.seconds = b.seconds ∧ a.nanos < b.nanos⟩

instance (a b : Instant) : Decidable (a < b) := inferInstanceAs (Decidable (_ ∨ _))

/-- A date and a time of day as written, with seconds that the local clock is ahead. -/
structure DateTime where
  date : Date
  hour : Nat
  minute : Nat
  second : Nat
  nanos : Nat
  offset : Int
  deriving DecidableEq

namespace DateTime

/-- Every part is in range; a second of 60 is a leap second. -/
def Valid (t : DateTime) : Prop :=
  t.date.Valid ∧ t.hour ≤ 23 ∧ t.minute ≤ 59 ∧ t.second ≤ 60 ∧ t.nanos < 10 ^ (9 : Nat) ∧
    -86400 < t.offset ∧ t.offset < 86400

instance (t : DateTime) : Decidable t.Valid := inferInstanceAs (Decidable (_ ∧ _))

/-- Seconds in universal time. -/
def seconds (t : DateTime) : Int :=
  86400 * t.date.number + 3600 * t.hour + 60 * t.minute + min t.second 59 - t.offset

/-- The instant, unless a part is out of range or the day in universal time is. -/
def instant? (t : DateTime) : Option Instant :=
  if t.Valid ∧ Date.first ≤ t.seconds / 86400 ∧ t.seconds / 86400 ≤ Date.last then
    some ⟨t.seconds, t.nanos + if t.second = 60 then 10 ^ (9 : Nat) else 0⟩
  else none

end DateTime

end FieldRules.Calendar
