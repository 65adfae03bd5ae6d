import CypherExpr.Calendar.Clock

/-!
# ISO 8601 text of dates and times

Years from 0 to 9999 have four digits, all others a sign and at least four.  A leap second is
numbered after the second that it belongs to, so that one at the end of a minute is second 60.  A
fraction of a second is left out when it is zero and otherwise has three, six or nine digits.
Offsets are rounded to whole minutes.
-/

namespace CypherExpr

namespace Iso

/-- A number in decimal with zeros in front up to the given width. -/
def padded (width number : Nat) : String :=
  let digits := Nat.toDigits 10 number
  String.ofList (List.replicate (width - digits.length) '0' ++ digits)

def yearText (year : Int) : String :=
  if 0 ≤ year ∧ year ≤ 9999 then padded 4 year.toNat
  else (if year < 0 then "-" else "+") ++ padded 4 year.natAbs

def fractionText (nanosecond : Nat) : String :=
  if nanosecond = 0 then ""
  else if nanosecond % 1000000 = 0 then "." ++ padded 3 (nanosecond / 1000000)
  else if nanosecond % 1000 = 0 then "." ++ padded 6 (nanosecond / 1000)
  else "." ++ padded 9 nanosecond

def signText (offset : Int) : String := if offset < 0 then "-" else "+"

/-- An offset to the nearest minute, a half rounded up in size. -/
def offsetText (offset : Int) : String :=
  let minutes := (offset.natAbs + 30) / 60
  signText offset ++ padded 2 (minutes / 60) ++ ":" ++ padded 2 (minutes % 60)

/-- An offset in full, with its seconds where it has any. -/
def fullOffsetText (offset : Int) : String :=
  let size := offset.natAbs
  signText offset ++ padded 2 (size / 3600) ++ ":" ++ padded 2 (size / 60 % 60)
    ++ (if size % 60 = 0 then "" else ":" ++ padded 2 (size % 60))

end Iso

def Date.render (date : Date) : String :=
  Iso.yearText date.year ++ "-" ++ Iso.padded 2 date.month ++ "-" ++ Iso.padded 2 date.day

def TimeOfDay.render (time : TimeOfDay) : String :=
  Iso.padded 2 time.hour ++ ":" ++ Iso.padded 2 time.minute ++ ":"
    ++ Iso.padded 2 (time.second + time.nanosecond / nanosPerSecond)
    ++ Iso.fractionText (time.nanosecond % nanosPerSecond)

def LocalDateTime.render (point : LocalDateTime) : String :=
  point.date.render ++ "T" ++ point.time.render

def ZonedDateTime.render (point : ZonedDateTime) : String :=
  point.clock.render ++ Iso.offsetText point.offset

/-- The text in which a zero offset is the letter `Z`. -/
def ZonedDateTime.renderUtc (point : ZonedDateTime) : String :=
  point.clock.render ++ (if point.offset = 0 then "Z" else Iso.offsetText point.offset)

end CypherExpr
