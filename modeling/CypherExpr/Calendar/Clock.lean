import CypherExpr.Calendar.Date

/-!
# Times and datetimes

A clock shows whole seconds and a fraction of one.  It has no numeral for a leap second: it stays in
the second before, and the fraction goes on up to two seconds' worth of nanoseconds.  A time of day
counts its seconds from midnight, a local datetime from the start of 1970 on the clock on the wall.
A zoned datetime adds an offset from UTC; it is ordered and compared by its moment in UTC alone, so
one moment in two zones is one value.
-/

namespace CypherExpr

def nanosPerSecond : Nat := 1000000000

def nanosPerDay : Nat := 86400 * nanosPerSecond

/-! ## Moments -/

/-- A second, counted from some beginning, and the nanoseconds since it began. -/
@[ext]
structure Moment where
  second : Int
  fraction : Nat
  fraction_lt : fraction < 2 * nanosPerSecond
  deriving DecidableEq

namespace Moment

/-- The second has gone on into a leap second. -/
def IsLeap (moment : Moment) : Prop := nanosPerSecond ≤ moment.fraction

instance (moment : Moment) : Decidable moment.IsLeap :=
  inferInstanceAs (Decidable (nanosPerSecond ≤ moment.fraction))

/-- A leap second comes before the second that follows it. -/
instance : Ord Moment := ⟨compareLex (compareOn second) (compareOn fraction)⟩

/-- Nanoseconds from the beginning. -/
def nanos (moment : Moment) : Int := moment.second * nanosPerSecond + moment.fraction

/-- The moment so many nanoseconds from the beginning, in no leap second. -/
def ofNanos (nanos : Int) : Moment where
  second := nanos / nanosPerSecond
  fraction := (nanos % nanosPerSecond).toNat
  fraction_lt := by simp only [nanosPerSecond]; omega

/-- So many nanoseconds later it is still the same leap second. -/
def LeapLasts (moment : Moment) (nanos : Int) : Prop :=
  moment.IsLeap ∧ nanosPerSecond ≤ moment.fraction + nanos ∧
    moment.fraction + nanos < 2 * nanosPerSecond

instance (moment : Moment) (nanos : Int) : Decidable (moment.LeapLasts nanos) :=
  inferInstanceAs (Decidable (_ ∧ _))

/-- So many nanoseconds later the leap second is over. -/
def LeapEnds (moment : Moment) (nanos : Int) : Prop :=
  moment.IsLeap ∧ 2 * nanosPerSecond ≤ moment.fraction + nanos

instance (moment : Moment) (nanos : Int) : Decidable (moment.LeapEnds nanos) :=
  inferInstanceAs (Decidable (_ ∧ _))

/-- The moment so many nanoseconds later.  What is left of a leap second is time that passes before
the next second begins; on the way there are no others. -/
def shift (moment : Moment) (nanos : Int) : Moment :=
  if h : moment.LeapLasts nanos then
    ⟨moment.second, (moment.fraction + nanos).toNat, by have := h.2; omega⟩
  else if moment.LeapEnds nanos then ofNanos (moment.nanos + nanos - nanosPerSecond)
  else ofNanos (moment.nanos + nanos)

/-- The moment a number of whole seconds later, in a leap second if it is one now. -/
def shiftSeconds (moment : Moment) (seconds : Int) : Moment :=
  ⟨moment.second + seconds, moment.fraction, moment.fraction_lt⟩

end Moment

/-! ## Times of day -/

structure TimeOfDay where
  /-- Whole seconds since midnight. -/
  seconds : Nat
  /-- Nanoseconds since then, a second's worth of them and more in a leap second. -/
  fraction : Nat
  seconds_lt : seconds < 86400
  fraction_lt : fraction < 2 * nanosPerSecond
  deriving DecidableEq

namespace TimeOfDay

/-- The time with the given fields, if each is within its range.  A leap second ends a minute. -/
def make? (hour minute second nanosecond : Nat) : Option TimeOfDay :=
  if h : (hour < 24 ∧ minute < 60 ∧ second < 60 ∧ nanosecond < 2 * nanosPerSecond) ∧
      (nanosPerSecond ≤ nanosecond → second = 59) then
    some ⟨(hour * 60 + minute) * 60 + second, nanosecond, by omega, h.1.2.2.2⟩
  else none

/-- The moment of a day that begins with second zero. -/
def moment (time : TimeOfDay) : Moment := ⟨time.seconds, time.fraction, time.fraction_lt⟩

/-- What a clock shows at a moment. -/
def ofMoment (moment : Moment) : TimeOfDay where
  seconds := (moment.second % 86400).toNat
  fraction := moment.fraction
  seconds_lt := by omega
  fraction_lt := moment.fraction_lt

def IsLeap (time : TimeOfDay) : Prop := time.moment.IsLeap

instance (time : TimeOfDay) : Decidable time.IsLeap :=
  inferInstanceAs (Decidable time.moment.IsLeap)

/-- Nanoseconds since midnight. -/
def nanos (time : TimeOfDay) : Int := time.moment.nanos

def hour (time : TimeOfDay) : Nat := time.seconds / 3600

def minute (time : TimeOfDay) : Nat := time.seconds / 60 % 60

def second (time : TimeOfDay) : Nat := time.seconds % 60

def nanosecond (time : TimeOfDay) : Nat := time.fraction

/-- The time a number of nanoseconds later, wrapping around midnight. -/
def shift (time : TimeOfDay) (nanos : Int) : TimeOfDay := ofMoment (time.moment.shift nanos)

/-- The named component of a time of day. -/
def component (time : TimeOfDay) (key : String) : Option Int :=
  match key with
  | "hour" => some time.hour
  | "minute" => some time.minute
  | "second" => some time.second
  | "millisecond" => some (time.nanosecond / 1000000 : Nat)
  | "microsecond" => some (time.nanosecond / 1000 : Nat)
  | "nanosecond" => some time.nanosecond
  | _ => none

end TimeOfDay

/-! ## Datetimes -/

structure LocalDateTime where
  date : Date
  time : TimeOfDay
  deriving DecidableEq

namespace LocalDateTime

/-- The moment on the clock on the wall, from the start of 1970. -/
def moment (point : LocalDateTime) : Moment :=
  point.time.moment.shiftSeconds (point.date.dayNumber * 86400)

/-- The datetime at a moment, if its date is within the supported span. -/
def ofMoment? (moment : Moment) : Option LocalDateTime :=
  (Date.ofDayNumber? (moment.second / 86400)).map fun date => ⟨date, TimeOfDay.ofMoment moment⟩

def shift (point : LocalDateTime) (nanos : Int) : Option LocalDateTime :=
  ofMoment? (point.moment.shift nanos)

/-- The named component of the date, or else of the time. -/
def component (point : LocalDateTime) (key : String) : Option Int :=
  point.date.component key <|> point.time.component key

end LocalDateTime

/-- A datetime whose offset is less than a day and whose UTC date is within the supported span
too. -/
structure ZonedDateTime where
  clock : LocalDateTime
  /-- Seconds east of UTC. -/
  offset : Int
  offset_lt : -86400 < offset ∧ offset < 86400
  inSpan : (LocalDateTime.ofMoment? (clock.moment.shiftSeconds (-offset))).isSome
  deriving DecidableEq

namespace ZonedDateTime

def make? (clock : LocalDateTime) (offset : Int) : Option ZonedDateTime :=
  if h : -86400 < offset ∧ offset < 86400 then
    if hspan : (LocalDateTime.ofMoment? (clock.moment.shiftSeconds (-offset))).isSome then
      some ⟨clock, offset, h, hspan⟩
    else none
  else none

/-- The moment in UTC, from the start of 1970. -/
def moment (point : ZonedDateTime) : Moment := point.clock.moment.shiftSeconds (-point.offset)

/-- Nanoseconds since the start of 1970 in UTC. -/
def instant (point : ZonedDateTime) : Int := point.moment.nanos

end ZonedDateTime

end CypherExpr
