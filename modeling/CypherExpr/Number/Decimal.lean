import CypherExpr.Number.Binary64

/-!
# Decimal text of doubles

Writing: a double is written with the fewest decimal places that read back to it, always
positionally and with at least one place.  Of two numerals that are equally near, the greater is
taken.

Reading: an optional sign, then `inf`, `infinity` or `nan` in any case, or digits with an optional
point and an optional exponent.  The value is the nearest double.
-/

namespace CypherExpr.Decimal

/-- A positive quantity `whole / parts` together with the gap, in the same parts, inside which every
other quantity rounds to the same double.  Closed ends belong to the gap. -/
structure Target where
  whole : Nat
  parts : Nat
  below : Nat
  above : Nat
  closed : Bool

/-- The interval that rounds to a finite double.  Four parts to the unit leave room for halves and
quarters; below a power of two the doubles lie twice as dense. -/
def Target.ofFinite (significand scale : Nat) : Target :=
  let step := Nat.pow 2 scale
  { whole := 4 * significand * step
    parts := 4 * Nat.pow 2 1074
    below := if significand = Nat.pow 2 52 ∧ scale ≠ 0 then step else 2 * step
    above := 2 * step
    closed := significand % 2 == 0 }

/-- Whether the numeral `numeral / unit` rounds to the target. -/
def Target.admits (target : Target) (numeral unit : Nat) : Bool :=
  let mark := numeral * target.parts
  let low := (target.whole - target.below) * unit
  let high := (target.whole + target.above) * unit
  if target.closed then decide (low ≤ mark) && decide (mark ≤ high)
  else decide (low < mark) && decide (mark < high)

/-- The numeral on the grid of step `1 / unit` that rounds to the target, the nearer of the two
neighbours if both do. -/
def Target.onGrid (target : Target) (unit : Nat) : Option Nat :=
  let lower := target.whole * unit / target.parts
  let rest := target.whole * unit % target.parts
  let upper := lower + 1
  match target.admits lower unit, target.admits upper unit with
  | true, true => some (if 2 * rest < target.parts then lower else upper)
  | true, false => some lower
  | false, true => some upper
  | false, false => none

/-- The first grid with a hit, counting decimal places upward.  Every double lies on the grid of
1074 places, so `fuel` places are enough when `fuel + places` exceeds that. -/
def Target.fewestPlaces (target : Target) : Nat → Nat → Nat × Nat
  | 0, places => (0, places)
  | fuel + 1, places =>
      match target.onGrid (Nat.pow 10 places) with
      | some numeral => (numeral, places)
      | none => fewestPlaces target fuel (places + 1)

/-- Digits with the point before the last `places` of them, and at least one digit on either
side. -/
def placed (numeral places : Nat) : String :=
  let shift := max places 1
  let shown := numeral * Nat.pow 10 (shift - places)
  let fraction := Nat.toDigits 10 (shown % Nat.pow 10 shift)
  toString (shown / Nat.pow 10 shift) ++ "."
    ++ String.ofList (List.replicate (shift - fraction.length) '0' ++ fraction)

/-- The numeral of a finite double, the zeros included. -/
def finiteText (negative : Bool) (significand scale : Nat) : String :=
  let (numeral, places) :=
    if significand = 0 then (0, 0) else (Target.ofFinite significand scale).fewestPlaces 1100 0
  (if negative then "-" else "") ++ placed numeral places

/-- The words that stand for the doubles without a numeral. -/
structure SpecialWords where
  nan : String
  infinity : String

def render (words : SpecialWords) (value : Float) : String :=
  match Binary64.read value with
  | .nan => words.nan
  | .infinite negative => (if negative then "-" else "") ++ words.infinity
  | .finite negative significand scale => finiteText negative significand scale

/-! ## Reading -/

def digitValue (c : Char) : Nat := c.toNat - '0'.toNat

def naturalOf (digits : List Char) : Nat :=
  digits.foldl (fun total c => 10 * total + digitValue c) 0

/-- Splits off a leading sign; `true` means negative. -/
def splitSign : List Char → Bool × List Char
  | '-' :: rest => (true, rest)
  | '+' :: rest => (false, rest)
  | chars => (false, chars)

/-- A 64-bit integer in decimal: an optional sign and one or more digits, within range. -/
def readInteger (text : String) : Option Int64 :=
  let (negative, digits) := splitSign text.toList
  if digits.isEmpty || !digits.all Char.isDigit then none
  else Checked.narrow (Binary64.signed negative (naturalOf digits))

/-- `digits * 10 ^ exponent`, rounded to the nearest double.  Exponents far outside the range of
doubles are answered at once. -/
def scaled (digits : Nat) (exponent : Int) : Float :=
  let length := (Nat.toDigits 10 digits).length
  if digits = 0 || exponent + length < -400 then 0
  else if exponent + length > 400 then Float.ofBits 0x7FF0000000000000
  else Float.ofScientific digits (decide (exponent < 0)) exponent.natAbs

/-- The double nearest to an integer of any size. -/
def nearest (value : Int) : Float :=
  let size := scaled value.natAbs 0
  if value < 0 then -size else size

/-- The exponent part of a numeral, zero where there is none. -/
def readExponent : List Char → Option Int
  | [] => some 0
  | mark :: rest =>
      if mark == 'e' || mark == 'E' then
        let (negative, digits) := splitSign rest
        if digits.isEmpty || !digits.all Char.isDigit then none
        else some (Binary64.signed negative (naturalOf digits))
      else none

/-- An unsigned numeral: digits with at most one point and at least one digit, then the exponent. -/
def readNumeral (chars : List Char) : Option Float :=
  let whole := chars.takeWhile Char.isDigit
  let rest := chars.dropWhile Char.isDigit
  let (fraction, rest) :=
    match rest with
    | '.' :: more => (more.takeWhile Char.isDigit, more.dropWhile Char.isDigit)
    | _ => ([], rest)
  if whole.isEmpty && fraction.isEmpty then none
  else (readExponent rest).map fun exponent =>
    scaled (naturalOf (whole ++ fraction)) (exponent - fraction.length)

def readFloat (text : String) : Option Float :=
  let (negative, chars) := splitSign text.toList
  let word := String.ofList (chars.map Char.toLower)
  let magnitude :=
    if word = "inf" || word = "infinity" then some (Float.ofBits 0x7FF0000000000000)
    else if word = "nan" then some (Float.ofBits 0x7FF8000000000000)
    else readNumeral chars
  magnitude.map fun value => if negative then -value else value

end CypherExpr.Decimal
