import CypherExpr.Proofs.Number.IntegerOrder
import CypherExpr.Value.Order
import Mathlib.Algebra.Order.Field.Rat
import Mathlib.Order.WithBotTop
import Mathlib.Tactic.NormNum
import Mathlib.Tactic.Ring

/-!
# The exact order of integers and doubles

The bits of a double denote a rational number, an infinity or no number at all.  An integer is
ordered against a double as it is against what the double denotes.  Nothing is rounded or clamped on
the way that would decide otherwise: integers beyond `2 ^ 53`, negative fractions and the ends of
the 64-bit range are ordered as all others are.
-/

namespace CypherExpr

namespace Binary64

/-- The number that a double denotes, by the format of its bits: a sign, eleven bits of exponent and
52 bits of fraction.  NaN denotes none. -/
def number? (value : Float) : Option (WithBotTop ℚ) :=
  let bits := value.toBits.toBitVec
  let sign : ℚ := if bits.msb then -1 else 1
  let exponent := (bits.extractLsb' 52 11).toNat
  let fraction := (bits.extractLsb' 0 52).toNat
  if exponent = 2047 then
    if fraction = 0 then some (if bits.msb then ⊥ else ⊤) else none
  else if exponent = 0 then
    some (sign * (2 ^ (-1022 : ℤ) * (fraction / 2 ^ 52)) : ℚ)
  else
    some (sign * (2 ^ (exponent - 1023 : ℤ) * (1 + fraction / 2 ^ 52)) : ℚ)

/-- The number of so many units. -/
def ofUnits (units : Int) : ℚ := units / 2 ^ 1074

def Reading.number? : Reading → Option (WithBotTop ℚ)
  | .nan => none
  | .infinite negative => some (if negative then ⊥ else ⊤)
  | .finite negative significand scale =>
      some (ofUnits (signed negative (significand * Nat.pow 2 scale)) : ℚ)

theorem cast_natPow (exponent : Nat) : ((Nat.pow 2 exponent : ℕ) : ℚ) = 2 ^ exponent := by
  rw [Nat.pow_eq, Nat.cast_pow, Nat.cast_ofNat]

/-- A significand with the point behind its first digit, in units. -/
theorem ofUnits_significand (negative : Bool) (significand scale : Nat) :
    ofUnits (signed negative (significand * Nat.pow 2 scale)) =
      (if negative then -1 else 1) * (2 ^ (scale - 1022 : ℤ) * (significand / 2 ^ 52)) := by
  have hexponent : (2 : ℚ) ^ 1074 = 2 ^ 1022 * 2 ^ 52 := pow_add 2 1022 52
  have hscale : (2 : ℚ) ^ (scale - 1022 : ℤ) = 2 ^ scale / 2 ^ 1022 := by
    rw [zpow_sub₀ two_ne_zero, zpow_natCast]
    rfl
  have hsigned : ((signed negative (significand * Nat.pow 2 scale) : ℤ) : ℚ) =
      (if negative then -1 else 1) * (significand * 2 ^ scale) := by
    cases negative <;> simp [signed]
  rw [ofUnits, hexponent, hscale, hsigned]
  generalize (2 : ℚ) ^ 1022 = least
  ring

/-- The fields of a double, read as a number of units, are worth what its bits denote. -/
theorem number?_eq (value : Float) : number? value = (read value).number? := by
  have hsign : value.toBits.toBitVec.msb = decide (Nat.pow 2 63 ≤ value.toBits.toNat) :=
    BitVec.msb_eq_decide _
  have hexponent : (value.toBits.toBitVec.extractLsb' 52 11).toNat =
      value.toBits.toNat / Nat.pow 2 52 % Nat.pow 2 11 := by
    rw [BitVec.extractLsb'_toNat, Nat.shiftRight_eq_div_pow]
    rfl
  have hfraction : (value.toBits.toBitVec.extractLsb' 0 52).toNat =
      value.toBits.toNat % Nat.pow 2 52 := by
    rw [BitVec.extractLsb'_toNat, Nat.shiftRight_zero]
    rfl
  simp only [number?, read, readBits, hsign, hexponent, hfraction]
  generalize value.toBits.toNat / Nat.pow 2 52 % Nat.pow 2 11 = exponent
  generalize value.toBits.toNat % Nat.pow 2 52 = fraction
  generalize decide (Nat.pow 2 63 ≤ value.toBits.toNat) = negative
  split
  · split <;> rfl
  · split
    · rw [Reading.number?, ofUnits_significand, Nat.cast_zero, zero_sub]
    · next hnormal =>
      -- the hidden bit is the one before the fraction
      have hscale : ((exponent - 1 : ℕ) : ℤ) - 1022 = exponent - 1023 := by omega
      have hsignificand : ((Nat.pow 2 52 + fraction : ℕ) : ℚ) / 2 ^ 52 = 1 + fraction / 2 ^ 52 := by
        rw [Nat.cast_add, cast_natPow, add_div, div_self (by norm_num)]
      rw [Reading.number?, ofUnits_significand, hscale, hsignificand]

/-- An integer is ordered against a number of units as its place is. -/
theorem cmp_ofUnits (left : Int64) (units : Int) :
    cmp ((left.toInt : ℚ) : WithBotTop ℚ) (ofUnits units : ℚ) =
      compare (placeOfInteger left) units := by
  have hunit : (0 : ℚ) < 2 ^ 1074 := pow_pos two_pos 1074
  have hplace : ((placeOfInteger left : ℤ) : ℚ) = left.toInt * 2 ^ 1074 := by
    simp only [placeOfInteger, unitsPerOne, Int.cast_mul, Int.cast_natCast, cast_natPow]
  calc
    cmp ((left.toInt : ℚ) : WithBotTop ℚ) (ofUnits units : ℚ)
      = cmp (left.toInt : ℚ) (ofUnits units) := WithBotTop.coe_strictMono.cmp_map_eq _ _
    _ = cmp (left.toInt * 2 ^ 1074 : ℚ) (ofUnits units * 2 ^ 1074) :=
        (cmp_mul_pos_right hunit _ _).symm
    _ = cmp ((placeOfInteger left : ℤ) : ℚ) (units : ℚ) := by
        rw [hplace, ofUnits, div_mul_cancel₀ _ hunit.ne']
    _ = cmp (placeOfInteger left) units := Int.cast_strictMono.cmp_map_eq _ _
    _ = compare (placeOfInteger left) units := cmp_eq_compare _ _

theorem wordLimit_lt_horizon : wordLimit < horizon := by decide +kernel

/-- No integer reaches the places of the infinities. -/
theorem cmp_infinite (left : Int64) (negative : Bool) :
    cmp ((left.toInt : ℚ) : WithBotTop ℚ) (if negative then ⊥ else ⊤) =
      compare (placeOfInteger left) (if negative then -horizon else horizon) := by
  have hhorizon := wordLimit_lt_horizon
  have hhigh := placeOfInteger_lt_wordLimit left
  have hlow := neg_wordLimit_le_placeOfInteger left
  cases negative with
  | false =>
      have hplace : compare (placeOfInteger left) horizon = .lt :=
        Int.compare_eq_lt.mpr (Int.lt_trans hhigh hhorizon)
      exact ((cmp_eq_lt_iff _ _).mpr (WithBot.coe_lt_coe.mpr (WithTop.coe_lt_top _))).trans
        hplace.symm
  | true =>
      have hplace : compare (placeOfInteger left) (-horizon) = .gt :=
        Int.compare_eq_gt.mpr (Int.lt_of_lt_of_le (Int.neg_lt_neg hhorizon) hlow)
      exact ((cmp_eq_gt_iff _ _).mpr (WithBot.bot_lt_coe _)).trans hplace.symm

end Binary64

/-- An integer is ordered against a double as it is against the number that the double denotes, and
not at all against NaN. -/
theorem Value.order_integer_float (left : Int64) (right : Float) :
    (Value.integer left).order (.float right) =
      (Binary64.number? right).map (cmp ((left.toInt : ℚ) : WithBotTop ℚ)) := by
  change Binary64.orderInteger left right = _
  rw [Binary64.orderInteger_eq, Binary64.number?_eq, Binary64.place]
  cases Binary64.read right with
  | nan => rfl
  | infinite negative => exact congrArg some (Binary64.cmp_infinite left negative).symm
  | finite negative significand scale => exact congrArg some (Binary64.cmp_ofUnits left _).symm

-- `2 ^ 53 + 1` is no double, and the nearest one is less
example : (Value.integer 9007199254740993).order (.float 9007199254740992.0) = some .gt := by
  decide +kernel

end CypherExpr
