import CypherExpr.Calendar.Iso
import CypherExpr.Number.Decimal

/-!
# Reading ISO 8601 text

Dates, times and datetimes are read from the forms in which they are written.  A year may have a
sign, and has at most four digits without one; second 60 is a leap second; the fraction of a second
may have any number of digits, of which nine count; an offset is `Z` or a sign with hours and
minutes.
-/

namespace CypherExpr

namespace Iso

/-- Splits off a number of at most `most` digits. -/
def splitNumber (most : Nat) (chars : List Char) : Option (Nat × List Char) :=
  let digits := chars.takeWhile Char.isDigit
  if digits.isEmpty || decide (most < digits.length) then none
  else some (Decimal.naturalOf digits, chars.dropWhile Char.isDigit)

/-- Splits off a given character. -/
def splitMark (mark : Char) : List Char → Option (List Char)
  | [] => none
  | c :: rest => if c = mark then some rest else none

def splitYear (chars : List Char) : Option (Int × List Char) :=
  match chars with
  | '-' :: rest => (splitNumber rest.length rest).map fun (year, more) => (-(year : Int), more)
  | '+' :: rest => (splitNumber rest.length rest).map fun (year, more) => ((year : Int), more)
  | _ => (splitNumber 4 chars).map fun (year, more) => ((year : Int), more)

def splitDate (chars : List Char) : Option (Date × List Char) := do
  let (year, rest) ← splitYear chars
  let (month, rest) ← splitNumber 2 (← splitMark '-' rest)
  let (day, rest) ← splitNumber 2 (← splitMark '-' rest)
  let date ← Date.make? year month day
  return (date, rest)

/-- The nanoseconds that the first nine digits of a fraction stand for. -/
def fractionOf (digits : List Char) : Nat :=
  let counted := digits.take 9
  Decimal.naturalOf counted * Nat.pow 10 (9 - counted.length)

/-- Splits off a point with the digits of a fraction, zero where there is none. -/
def splitFraction (chars : List Char) : Option (Nat × List Char) :=
  match chars with
  | '.' :: rest =>
      let digits := rest.takeWhile Char.isDigit
      if digits.isEmpty then none else some (fractionOf digits, rest.dropWhile Char.isDigit)
  | _ => some (0, chars)

/-- The time with the given fields, where second 60 is a leap second. -/
def timeOfFields? (hour minute second nanosecond : Nat) : Option TimeOfDay :=
  if second = 60 then TimeOfDay.make? hour minute 59 (nanosPerSecond + nanosecond)
  else TimeOfDay.make? hour minute second nanosecond

def splitTime (chars : List Char) : Option (TimeOfDay × List Char) := do
  let (hour, rest) ← splitNumber 2 chars
  let (minute, rest) ← splitNumber 2 (← splitMark ':' rest)
  let (second, rest) ← splitNumber 2 (← splitMark ':' rest)
  let (nanosecond, rest) ← splitFraction rest
  let time ← timeOfFields? hour minute second nanosecond
  return (time, rest)

def splitLocal (chars : List Char) : Option (LocalDateTime × List Char) := do
  let (date, rest) ← splitDate chars
  let (time, rest) ← splitTime (← splitMark 'T' rest)
  return (⟨date, time⟩, rest)

/-- The seconds of hours and minutes that make up all of the text. -/
def readHoursMinutes (chars : List Char) : Option Int := do
  let (hours, rest) ← splitNumber 2 chars
  let (minutes, rest) ← splitNumber 2 (← splitMark ':' rest)
  if rest.isEmpty && decide (minutes < 60) then some (3600 * hours + 60 * minutes) else none

/-- An offset in seconds that makes up all of the text. -/
def readOffset : List Char → Option Int
  | ['Z'] => some 0
  | '+' :: rest => readHoursMinutes rest
  | '-' :: rest => (readHoursMinutes rest).map Neg.neg
  | _ => none

/-- What was split off, if nothing follows it. -/
def complete {α : Type} : Option (α × List Char) → Option α
  | some (found, []) => some found
  | _ => none

end Iso

def Date.read? (text : String) : Option Date := Iso.complete (Iso.splitDate text.toList)

def TimeOfDay.read? (text : String) : Option TimeOfDay := Iso.complete (Iso.splitTime text.toList)

def LocalDateTime.read? (text : String) : Option LocalDateTime :=
  Iso.complete (Iso.splitLocal text.toList)

def ZonedDateTime.read? (text : String) : Option ZonedDateTime := do
  let (clock, rest) ← Iso.splitLocal text.toList
  let offset ← Iso.readOffset rest
  ZonedDateTime.make? clock offset

end CypherExpr
