/-!
# Calendar dates

Dates of the proleptic Gregorian calendar within a fixed span of years.  A date is its year, month
and day; its day number counts days from 1 January 1970, and shifting by days goes through that
number.
-/

namespace CypherExpr

namespace Date

/-- The least year of the supported span. -/
def minYear : Int := -262143

/-- The greatest year of the supported span. -/
def maxYear : Int := 262142

def isLeap (year : Int) : Bool :=
  year % 4 == 0 && (year % 100 != 0 || year % 400 == 0)

def monthLength (year : Int) (month : Nat) : Nat :=
  if month = 2 then (if isLeap year then 29 else 28)
  else if month = 4 ∨ month = 6 ∨ month = 9 ∨ month = 11 then 30
  else 31

/-- The fields name a day of the supported span. -/
def Valid (year : Int) (month day : Nat) : Prop :=
  minYear ≤ year ∧ year ≤ maxYear ∧ 1 ≤ month ∧ month ≤ 12 ∧ 1 ≤ day ∧ day ≤ monthLength year month

instance (year : Int) (month day : Nat) : Decidable (Valid year month day) := by
  unfold Valid; infer_instance

end Date

structure Date where
  year : Int
  month : Nat
  day : Nat
  valid : Date.Valid year month day
  deriving DecidableEq

namespace Date

/-- The date with the given fields, if they name a day of the supported span. -/
def make? (year : Int) (month day : Nat) : Option Date :=
  if h : Valid year month day then some ⟨year, month, day, h⟩ else none

/-- Days from 1 January 1970 to the day with the given fields.  Years are counted from March, so
that the leap day comes last; `153 * m + 2` fifths are the days of the `m` months since then. -/
def dayNumberOf (year : Int) (month day : Nat) : Int :=
  let marchYear := if month ≤ 2 then year - 1 else year
  let monthsSinceMarch := ((month : Int) + 9) % 12
  365 * marchYear + marchYear / 4 - marchYear / 100 + marchYear / 400
    + (153 * monthsSinceMarch + 2) / 5 + day - 1 - 719468

def dayNumber (date : Date) : Int := dayNumberOf date.year date.month date.day

/-- The fields of a day number.  Within the cycle of 400 years, or 146097 days, the year is found by
taking out the leap days already passed. -/
def fieldsOfDayNumber (number : Int) : Int × Nat × Nat :=
  let shifted := number + 719468
  let cycle := shifted / 146097
  let dayOfCycle := shifted % 146097
  let yearOfCycle :=
    (dayOfCycle - dayOfCycle / 1460 + dayOfCycle / 36524 - dayOfCycle / 146096) / 365
  let dayOfYear := dayOfCycle - (365 * yearOfCycle + yearOfCycle / 4 - yearOfCycle / 100)
  let monthsSinceMarch := (5 * dayOfYear + 2) / 153
  let day := dayOfYear - (153 * monthsSinceMarch + 2) / 5 + 1
  let month := if monthsSinceMarch < 10 then monthsSinceMarch + 3 else monthsSinceMarch - 9
  let year := yearOfCycle + 400 * cycle
  (if month ≤ 2 then year + 1 else year, month.toNat, day.toNat)

def ofDayNumber? (number : Int) : Option Date :=
  let (year, month, day) := fieldsOfDayNumber number
  make? year month day

/-- The date a number of days later, if it is within the span. -/
def shiftDays (date : Date) (days : Int) : Option Date :=
  ofDayNumber? (date.dayNumber + days)

/-- Months counted from January of year zero. -/
def monthIndex (date : Date) : Int := 12 * date.year + (date.month - 1)

/-- The date a number of months later.  The day is kept, or else the last day of the month taken. -/
def shiftMonths (date : Date) (months : Int) : Option Date :=
  let index := date.monthIndex + months
  let year := index / 12
  let month := (index % 12).toNat + 1
  make? year month (min date.day (monthLength year month))

instance : Ord Date where
  compare left right := compare left.dayNumber right.dayNumber

/-! ## Components -/

def quarter (date : Date) : Nat := (date.month - 1) / 3 + 1

/-- Day of the year, from 1. -/
def ordinalDay (date : Date) : Int := date.dayNumber - dayNumberOf date.year 1 1 + 1

/-- Day of the week of a day number: 1 is Monday and 7 is Sunday. -/
def weekdayOf (number : Int) : Int := (number + 3) % 7 + 1

def dayOfWeek (date : Date) : Int := weekdayOf date.dayNumber

/-- Weeks of an ISO year: 53 if it begins on a Thursday, or in a leap year on a Wednesday. -/
def weeksInYear (year : Int) : Int :=
  let first := weekdayOf (dayNumberOf year 1 1)
  if first = 4 ∨ (first = 3 ∧ isLeap year) then 53 else 52

/-- The ISO week: weeks begin on Monday and belong to the year that holds their Thursday. -/
def week (date : Date) : Int :=
  let number := (date.ordinalDay - date.dayOfWeek + 10) / 7
  if number < 1 then weeksInYear (date.year - 1)
  else if number > weeksInYear date.year then 1
  else number

/-- The named component of a date. -/
def component (date : Date) (key : String) : Option Int :=
  match key with
  | "year" => some date.year
  | "quarter" => some date.quarter
  | "month" => some date.month
  | "week" => some date.week
  | "day" => some date.day
  | "ordinalDay" => some date.ordinalDay
  | "dayOfWeek" => some date.dayOfWeek
  | _ => none

end Date

end CypherExpr
