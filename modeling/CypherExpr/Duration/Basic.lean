import CypherExpr.Number.Wide
import CypherExpr.Calendar.Clock

/-!
# Durations

A duration is kept by components, because a month or a day has no fixed length until it is applied
to a calendar point.  The part below a day is one exact number of nanoseconds, split into whole
seconds and a non-negative rest.  Months and days are calculated in 64-bit words, the part below a
day in 128-bit words, and a result that does not fit is none.
-/

namespace CypherExpr

/-- A duration whose nanoseconds are normalised; the sign of the part below a day is in
`seconds`. -/
structure Duration where
  months : Int64
  days : Int64
  seconds : Int64
  nanos : Nat
  nanos_lt : nanos < nanosPerSecond
  deriving DecidableEq

namespace Duration

/-- Days that a month spills into when a duration is divided. -/
def daysPerMonth : Int := 30

def secondsPerDay : Int := 86400

/-- The part below a day in nanoseconds. -/
def subDay (duration : Duration) : Int :=
  duration.seconds.toInt * nanosPerSecond + duration.nanos

/-- Splits a number of nanoseconds into whole seconds, rounded down, and the rest. -/
def restOfSecond (nanos : Int) : Nat := (nanos % nanosPerSecond).toNat

theorem restOfSecond_lt (nanos : Int) : restOfSecond nanos < nanosPerSecond := by
  simp only [restOfSecond, nanosPerSecond]
  omega

/-- Carries whole seconds out of the nanoseconds; seconds beyond the range stop at its end. -/
def ofFields (months days seconds nanos : Int64) : Duration where
  months := months
  days := days
  seconds := Checked.clamp (seconds.toInt + nanos.toInt / nanosPerSecond)
  nanos := restOfSecond nanos.toInt
  nanos_lt := restOfSecond_lt nanos.toInt

def ofMonths (months : Int64) : Duration := ofFields months 0 0 0

def ofDays (days : Int64) : Duration := ofFields 0 days 0 0

def ofSeconds (seconds : Int64) : Duration := ofFields 0 0 seconds 0

def zero : Duration := ofFields 0 0 0 0

def isZero (duration : Duration) : Bool := decide (duration = zero)

/-! ## Arithmetic -/

/-- The duration of so many months, days, seconds and nanoseconds, of which the last two need not be
normalised. -/
def ofWide (months days : Int64) (seconds nanos : Int) : Wide.Calculation Duration := do
  let whole ← Wide.checked (seconds * nanosPerSecond)
  let total ← Wide.checked (whole + nanos)
  let carried ← Wide.unchecked (total / nanosPerSecond)
  let word ← Wide.ofOption (Checked.narrow carried)
  return ⟨months, days, word, restOfSecond total, restOfSecond_lt total⟩

def sum (left right : Duration) : Wide.Calculation Duration := do
  let months ← Wide.ofOption (Checked.add left.months right.months)
  let days ← Wide.ofOption (Checked.add left.days right.days)
  let seconds ← Wide.unchecked (left.seconds.toInt + right.seconds.toInt)
  let nanos ← Wide.unchecked (left.nanos + right.nanos)
  ofWide months days seconds nanos

def negation (duration : Duration) : Wide.Calculation Duration := do
  let months ← Wide.ofOption (Checked.negate duration.months)
  let days ← Wide.ofOption (Checked.negate duration.days)
  let seconds ← Wide.unchecked (-duration.seconds.toInt)
  let nanos ← Wide.unchecked (-duration.nanos)
  ofWide months days seconds nanos

def product (duration : Duration) (factor : Int64) : Wide.Calculation Duration := do
  let months ← Wide.ofOption (Checked.multiply duration.months factor)
  let days ← Wide.ofOption (Checked.multiply duration.days factor)
  let seconds ← Wide.checked (duration.seconds.toInt * factor.toInt)
  let nanos ← Wide.checked (duration.nanos * factor.toInt)
  ofWide months days seconds nanos

/-- The quotient by a non-zero integer.  Each component is divided toward zero, and what is left
over spills into the next finer one. -/
def quotient (duration : Duration) (divisor : Int64) : Wide.Calculation Duration := do
  let monthsLeft ← Wide.remainder duration.months.toInt divisor.toInt
  let daysOfMonths ← Wide.unchecked (monthsLeft * daysPerMonth)
  let days ← Wide.unchecked (duration.days.toInt + daysOfMonths)
  let daysLeft ← Wide.remainder days divisor.toInt
  let secondsOfDays ← Wide.unchecked (daysLeft * secondsPerDay)
  let seconds ← Wide.unchecked (duration.seconds.toInt + secondsOfDays)
  let secondsLeft ← Wide.remainder seconds divisor.toInt
  let nanosOfSeconds ← Wide.unchecked (secondsLeft * nanosPerSecond)
  let nanos ← Wide.unchecked (duration.nanos + nanosOfSeconds)
  let eachMonths ← Wide.quotient duration.months.toInt divisor.toInt
  let wholeMonths ← Wide.ofOption (Checked.narrow eachMonths)
  let eachDays ← Wide.quotient days divisor.toInt
  let wholeDays ← Wide.ofOption (Checked.narrow eachDays)
  let eachSeconds ← Wide.quotient seconds divisor.toInt
  let eachNanos ← Wide.quotient nanos divisor.toInt
  ofWide wholeMonths wholeDays eachSeconds eachNanos

def add (left right : Duration) : Option Duration := (left.sum right).toOption

def negate (duration : Duration) : Option Duration := duration.negation.toOption

/-- Subtraction adds the negated duration, so that one must exist. -/
def subtract (left right : Duration) : Option Duration :=
  right.negate.bind left.add

def multiply (duration : Duration) (factor : Int64) : Option Duration :=
  (duration.product factor).toOption

/-- Nothing can be divided by zero. -/
def divide (duration : Duration) (divisor : Int64) : Option Duration :=
  if divisor = 0 then none else (duration.quotient divisor).toOption

/-! ## Components -/

/-- The whole seconds counted in finer units plus the units in the rest.  Both steps must fit. -/
def counted (duration : Duration) (unitsPerSecond nanosPerUnit : Nat) : Option Int :=
  (Checked.narrow (duration.seconds.toInt * unitsPerSecond)).bind fun whole =>
    (Checked.narrow (whole.toInt + (duration.nanos / nanosPerUnit : Nat))).map Int64.toInt

/-- The named component of a duration.  Quotients and remainders are taken toward zero. -/
def component (duration : Duration) (key : String) : Option Int :=
  let months := duration.months.toInt
  let days := duration.days.toInt
  let seconds := duration.seconds.toInt
  match key with
  | "years" => some (months.tdiv 12)
  | "quarters" => some (months.tdiv 3)
  | "months" => some months
  | "monthsOfYear" => some (months.tmod 12)
  | "weeks" => some (days.tdiv 7)
  | "days" => some days
  | "hours" => some (seconds.tdiv 3600)
  | "minutes" => some (seconds.tdiv 60)
  | "minutesOfHour" => some ((seconds.tdiv 60).tmod 60)
  | "seconds" => some seconds
  | "secondsOfMinute" => some (seconds.tmod 60)
  | "milliseconds" => duration.counted 1000 1000000
  | "nanoseconds" => duration.counted nanosPerSecond 1
  | "nanosecondsOfSecond" => some duration.nanos
  | _ => none

end Duration

end CypherExpr
