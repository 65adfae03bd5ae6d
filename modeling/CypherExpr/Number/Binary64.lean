import CypherExpr.Number.Checked

/-!
# The exact meaning of a double

A finite double is a whole number of units of `2 ^ -1074`, the least positive double.  Order,
equality and truncation are decided on that whole number, so no rounding ever decides them.  An
integer is ordered against a double by the whole part of the double, converted to a 64-bit integer,
and then by its fraction, a difference of two doubles.
-/

namespace CypherExpr.Binary64

/-- What the fields of a double say.  A finite one is worth `significand * 2 ^ scale` units. -/
inductive Reading where
  | nan
  | infinite (negative : Bool)
  | finite (negative : Bool) (significand : Nat) (scale : Nat)
  deriving DecidableEq, Repr

/-- Splits the 64 bits into sign, exponent field and fraction.  A zero exponent field has no hidden
bit; the greatest one is kept for infinities and NaN. -/
def readBits (bits : Nat) : Reading :=
  let negative := decide (Nat.pow 2 63 ≤ bits)
  let field := bits / Nat.pow 2 52 % Nat.pow 2 11
  let fraction := bits % Nat.pow 2 52
  if field = 2047 then
    if fraction = 0 then .infinite negative else .nan
  else if field = 0 then .finite negative fraction 0
  else .finite negative (Nat.pow 2 52 + fraction) (field - 1)

def read (value : Float) : Reading := readBits value.toBits.toNat

/-- One, counted in units of `2 ^ -1074`. -/
def unitsPerOne : Int := Nat.pow 2 1074

/-- The place of an infinity, beyond every finite double and every 64-bit integer. -/
def horizon : Int := Nat.pow 2 2100

def signed (negative : Bool) (size : Nat) : Int :=
  if negative then -(size : Int) else size

/-- The place on the number line, counted in units; NaN has none.  The two zeros share a place. -/
def Reading.place : Reading → Option Int
  | .nan => none
  | .infinite negative => some (if negative then -horizon else horizon)
  | .finite negative significand scale => some (signed negative (significand * Nat.pow 2 scale))

def place (value : Float) : Option Int := (read value).place

def comparePlaces (left right : Option Int) : Option Ordering :=
  match left, right with
  | some l, some r => some (compare l r)
  | _, _ => none

/-- The order of two doubles; NaN is not comparable. -/
def order (left right : Float) : Option Ordering :=
  comparePlaces (place left) (place right)

/-- Equality of two doubles: NaN differs from itself and the two zeros are equal. -/
def equal (left right : Float) : Bool :=
  order left right == some .eq

def isNaN (value : Float) : Bool := read value == .nan

def isFinite (value : Float) : Bool :=
  match read value with
  | .finite .. => true
  | _ => false

/-- A finite double rounded toward zero to a whole number. -/
def truncate (value : Float) : Option Int :=
  match read value with
  | .finite negative significand scale =>
      some (signed negative (significand * Nat.pow 2 scale / Nat.pow 2 1074))
  | _ => none

/-- The 64-bit integer that a double truncates to, if it is within range. -/
def toInteger (value : Float) : Option Int64 :=
  (truncate value).bind Checked.narrow

/-- The double nearest to a 64-bit integer. -/
def ofInteger (value : Int64) : Float := Float.ofInt value.toInt

/-! ## Integers and doubles -/

/-- The place of the double nearest to a number of units.  Of the binary digits, 53 are kept, and a
tie goes to the even neighbour. -/
def rounded (units : Int) : Int :=
  let step := Nat.pow 2 (units.natAbs.log2 - 52)
  let lower := units.natAbs / step
  let rest := units.natAbs % step
  let nearest := if step < 2 * rest ∨ (step = 2 * rest ∧ lower % 2 = 1) then lower + 1 else lower
  signed (decide (units < 0)) (nearest * step)

/-- The place of `2 ^ 63`, the first whole number above all 64-bit integers. -/
def wordLimit : Int := 9223372036854775808 * unitsPerOne

/-- The order of a 64-bit integer and the double of so many units.  Beyond the range of the integers
the side decides, within it the whole part, and between equal whole parts the fraction. -/
def orderAt (left : Int64) (units : Int) : Ordering :=
  if wordLimit ≤ units then .lt
  else if units < -wordLimit then .gt
  else
    let whole := units.tdiv unitsPerOne
    (compare left.toInt (Checked.clamp whole).toInt).then
      (compare 0 (rounded (units - whole * unitsPerOne)))

/-- The order of a 64-bit integer and a double; NaN is not comparable. -/
def orderInteger (left : Int64) (right : Float) : Option Ordering :=
  (place right).map (orderAt left)

end CypherExpr.Binary64
