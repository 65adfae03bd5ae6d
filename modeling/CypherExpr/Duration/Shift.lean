import CypherExpr.Duration.Basic

/-!
# Applying durations to calendar points

A duration moves a point by its months, then by its days, then by its part below a day.  Each step
must stay within the supported span of dates.
-/

namespace CypherExpr.Duration

/-- The greatest number of milliseconds by which a clock can be shifted. -/
def clockReach : Int := 9223372036854775807

/-- The part below a day as a shift of a clock, if it is within reach. -/
def clockShift (duration : Duration) : Option Int :=
  if -(clockReach / 1000) ≤ duration.seconds.toInt ∧ duration.subDay ≤ clockReach * 1000000 then
    some duration.subDay
  else none

/-- Moves a date.  Whole days contained in the seconds count, the rest of them is dropped. -/
def addToDate (duration : Duration) (date : Date) : Option Date :=
  (date.shiftMonths duration.months.toInt).bind fun shifted =>
    let days := duration.days.toInt + duration.seconds.toInt.tdiv secondsPerDay
    (Checked.narrow days).bind fun shift => shifted.shiftDays shift.toInt

/-- Moves a time of day around the clock.  Months and days do not matter. -/
def addToTime (duration : Duration) (time : TimeOfDay) : Option TimeOfDay :=
  duration.clockShift.map time.shift

def addToLocal (duration : Duration) (point : LocalDateTime) : Option LocalDateTime :=
  (point.date.shiftMonths duration.months.toInt).bind fun shifted =>
    (shifted.shiftDays duration.days.toInt).bind fun date =>
      duration.clockShift.bind (LocalDateTime.shift ⟨date, point.time⟩)

/-- Moves the clock of a zoned datetime and keeps its offset. -/
def addToZoned (duration : Duration) (point : ZonedDateTime) : Option ZonedDateTime :=
  (duration.addToLocal point.clock).bind fun clock => ZonedDateTime.make? clock point.offset

end CypherExpr.Duration
