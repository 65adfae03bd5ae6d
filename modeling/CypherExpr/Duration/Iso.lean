import CypherExpr.Duration.Basic
import CypherExpr.Calendar.Iso

/-!
# ISO 8601 text of durations

Components that are zero are left out, and the whole of a zero duration is `PT0S`.  Each of years,
months, days, hours, minutes and seconds bears its own sign; hours are not bounded by a day.
-/

namespace CypherExpr.Duration

/-- A signed count with its unit, nothing for zero. -/
def countText (count : Int) (unit : String) : String :=
  if count = 0 then "" else toString count ++ unit

/-- The digits of a fraction of a second without zeros at the end. -/
def fractionDigits (nanos : Nat) : String :=
  String.ofList ((Iso.padded 9 nanos).toList.reverse.dropWhile (· == '0')).reverse

/-- The part below a day, all of its counts with the one sign. -/
def clockText (subDay : Int) : String :=
  let size := subDay.natAbs
  let sign := if subDay < 0 then "-" else ""
  let hours := size / (3600 * nanosPerSecond)
  let minutes := size / (60 * nanosPerSecond) % 60
  let seconds := size / nanosPerSecond % 60
  let fraction := size % nanosPerSecond
  "T" ++ (if hours = 0 then "" else sign ++ toString hours ++ "H")
    ++ (if minutes = 0 then "" else sign ++ toString minutes ++ "M")
    ++ (if seconds = 0 ∧ fraction = 0 then ""
        else sign ++ toString seconds
          ++ (if fraction = 0 then "" else "." ++ fractionDigits fraction) ++ "S")

def render (duration : Duration) : String :=
  if duration.isZero then "PT0S"
  else
    let months := duration.months.toInt
    "P" ++ countText (months.tdiv 12) "Y" ++ countText (months.tmod 12) "M"
      ++ countText duration.days.toInt "D"
      ++ (if duration.subDay = 0 then "" else clockText duration.subDay)

end CypherExpr.Duration
