import CypherExpr.Number.Binary64
import CypherExpr.Proofs.Number.Words

/-!
# Integers and doubles on one line

An integer and a double are ordered as their places on the line of exact numbers.  Within the range
of 64-bit integers the whole part of a double fits a word, so that clamping leaves it as it is.  The
fraction has no more binary digits than the double that it is taken from, so that rounding leaves it
as it is, however great the whole part is.
-/

namespace CypherExpr.Binary64

/-- The place of a 64-bit integer on the line of doubles. -/
def placeOfInteger (value : Int64) : Int := value.toInt * unitsPerOne

theorem unitsPerOne_pos : 0 < unitsPerOne := by decide +kernel

theorem natAbs_signed (negative : Bool) (size : Nat) : (signed negative size).natAbs = size := by
  cases negative <;> simp [signed]

theorem signed_natAbs (value : Int) : signed (decide (value < 0)) value.natAbs = value := by
  by_cases hvalue : value < 0
  · simp only [signed, hvalue, decide_true, if_true]
    omega
  · simp only [signed, hvalue, decide_false, Bool.false_eq_true, if_false]
    omega

/-! ## Places of doubles -/

/-- Of the binary digits of a number of units, at most 53 stand before the zeros at its end. -/
def IsShort (units : Int) : Prop :=
  ∃ significand scale : Nat,
    significand < Nat.pow 2 53 ∧ units.natAbs = significand * Nat.pow 2 scale

theorem significand_lt_of_readBits {bits : Nat} {negative : Bool} {significand scale : Nat}
    (hread : readBits bits = .finite negative significand scale) :
    significand < Nat.pow 2 53 := by
  have hfraction : bits % Nat.pow 2 52 < Nat.pow 2 52 := Nat.mod_lt _ (by decide)
  have htwice : Nat.pow 2 53 = Nat.pow 2 52 + Nat.pow 2 52 := rfl
  simp only [readBits] at hread
  split at hread
  · split at hread <;> cases hread
  · split at hread
    · cases hread
      omega
    · cases hread
      omega

theorem isShort_pow (exponent : Nat) : IsShort (Nat.pow 2 exponent : Nat) := by
  refine ⟨1, exponent, by decide, ?_⟩
  rw [Int.natAbs_natCast, Nat.one_mul]

theorem isShort_horizon : IsShort horizon := by
  rw [horizon]
  apply isShort_pow

theorem IsShort.neg {units : Int} (hshort : IsShort units) : IsShort (-units) := by
  obtain ⟨significand, scale, hsignificand, hsize⟩ := hshort
  exact ⟨significand, scale, hsignificand, (Int.natAbs_neg units).trans hsize⟩

theorem isShort_of_place {value : Float} {units : Int} (hplace : place value = some units) :
    IsShort units := by
  unfold place read at hplace
  cases hread : readBits value.toBits.toNat with
  | nan =>
      rw [hread] at hplace
      cases hplace
  | infinite negative =>
      rw [hread] at hplace
      cases hplace
      cases negative with
      | false => exact isShort_horizon
      | true => exact isShort_horizon.neg
  | finite negative significand scale =>
      rw [hread] at hplace
      cases hplace
      exact ⟨significand, scale, significand_lt_of_readBits hread, natAbs_signed negative _⟩

/-! ## Exact rounding -/

/-- A number of units with as few digits as a double has is rounded to itself. -/
theorem rounded_of_isShort {units : Int} (hshort : IsShort units) : rounded units = units := by
  obtain ⟨significand, scale, hsignificand, hsize⟩ := hshort
  have hdvd : Nat.pow 2 (units.natAbs.log2 - 52) ∣ units.natAbs := by
    by_cases hzero : units.natAbs = 0
    · rw [hzero]
      exact Nat.dvd_zero _
    · have hbound : units.natAbs < 2 ^ (53 + scale) := by
        rw [hsize, Nat.pow_add]
        exact Nat.mul_lt_mul_of_pos_right hsignificand (Nat.two_pow_pos scale)
      have hlog : units.natAbs.log2 - 52 ≤ scale := by
        have hdigits := (Nat.log2_lt hzero).mpr hbound
        omega
      generalize units.natAbs.log2 - 52 = dropped at hlog
      rw [hsize]
      exact Nat.dvd_mul_left_of_dvd (Nat.pow_dvd_pow 2 hlog) significand
  have hrest : units.natAbs % Nat.pow 2 (units.natAbs.log2 - 52) = 0 := Nat.mod_eq_zero_of_dvd hdvd
  have hstep : Nat.pow 2 (units.natAbs.log2 - 52) ≠ 0 := Nat.ne_of_gt (Nat.two_pow_pos _)
  simp only [rounded, hrest, Nat.mul_zero, Nat.not_lt_zero, hstep, false_and, or_self, if_false,
    Nat.div_mul_cancel hdvd, signed_natAbs]

/-- What is left of a short number above the multiples of a power of two is short. -/
theorem IsShort.tmod {units : Int} (hshort : IsShort units) (exponent : Nat) :
    IsShort (units.tmod (Nat.pow 2 exponent : Nat)) := by
  obtain ⟨significand, scale, hsignificand, hsize⟩ := hshort
  have hrest : (units.tmod (Nat.pow 2 exponent : Nat)).natAbs =
      significand * Nat.pow 2 scale % Nat.pow 2 exponent := by
    rw [Int.natAbs_tmod, hsize, Int.natAbs_natCast]
  by_cases hscale : scale ≤ exponent
  · have hsplit : Nat.pow 2 exponent = Nat.pow 2 (exponent - scale) * Nat.pow 2 scale :=
      (Nat.pow_sub_mul_pow 2 hscale).symm
    have hbound : significand % Nat.pow 2 (exponent - scale) < Nat.pow 2 53 :=
      Nat.lt_of_le_of_lt (Nat.mod_le _ _) hsignificand
    refine ⟨_, scale, hbound, hrest.trans ?_⟩
    rw [hsplit, Nat.mul_mod_mul_right]
  · have hdvd : Nat.pow 2 exponent ∣ significand * Nat.pow 2 scale :=
      Nat.dvd_mul_left_of_dvd (Nat.pow_dvd_pow 2 (Nat.le_of_not_le hscale)) significand
    rw [Nat.mod_eq_zero_of_dvd hdvd] at hrest
    exact ⟨0, 0, by decide, hrest⟩

/-! ## The comparison -/

theorem compare_mul_right (left right : Int) {unit : Int} (hunit : 0 < unit) :
    compare (left * unit) (right * unit) = compare left right := by
  simp only [compare, compareOfLessAndEq, Int.mul_lt_mul_right hunit,
    Int.mul_eq_mul_right_iff (Int.ne_of_gt hunit)]

theorem compare_add_left (shift right : Int) : compare shift (shift + right) = compare 0 right := by
  simp only [compare, compareOfLessAndEq]
  grind

/-- A whole number is ordered against a mixed one by the whole part and then by the fraction. -/
theorem compare_mixed (left whole : Int) {unit fraction : Int} (hunit : 0 < unit)
    (hfraction : fraction.natAbs < unit.natAbs) :
    compare (left * unit) (whole * unit + fraction) =
      (compare left whole).then (compare 0 fraction) := by
  cases hwhole : compare left whole with
  | lt =>
      have hless : (left + 1) * unit ≤ whole * unit :=
        Int.mul_le_mul_of_nonneg_right (Int.compare_eq_lt.mp hwhole) (Int.le_of_lt hunit)
      rw [Int.add_mul, Int.one_mul] at hless
      exact Int.compare_eq_lt.mpr (by omega)
  | eq =>
      rw [Int.compare_eq_eq.mp hwhole, Ordering.eq_then]
      exact compare_add_left (whole * unit) fraction
  | gt =>
      have hless : (whole + 1) * unit ≤ left * unit :=
        Int.mul_le_mul_of_nonneg_right (Int.compare_eq_gt.mp hwhole) (Int.le_of_lt hunit)
      rw [Int.add_mul, Int.one_mul] at hless
      exact Int.compare_eq_gt.mpr (by omega)

theorem placeOfInteger_lt_wordLimit (value : Int64) : placeOfInteger value < wordLimit :=
  Int.mul_lt_mul_of_pos_right (Checked.fits_toInt value).2 unitsPerOne_pos

theorem neg_wordLimit_le_placeOfInteger (value : Int64) : -wordLimit ≤ placeOfInteger value := by
  rw [wordLimit, ← Int.neg_mul]
  exact Int.mul_le_mul_of_nonneg_right (Checked.fits_toInt value).1 (Int.le_of_lt unitsPerOne_pos)

/-- Within the limits the whole part fits a word. -/
theorem fits_tdiv {units : Int} (hlow : -wordLimit ≤ units) (hhigh : units < wordLimit) :
    Checked.Fits (units.tdiv unitsPerOne) := by
  rw [wordLimit, ← Int.neg_mul] at hlow
  have hbelow : units.tdiv unitsPerOne < 9223372036854775808 := by
    rcases Int.le_total 0 units with hpositive | hnegative
    · rw [Int.tdiv_eq_ediv_of_nonneg hpositive]
      exact Int.ediv_lt_of_lt_mul unitsPerOne_pos hhigh
    · have hsign :=
        Int.tdiv_nonneg (Int.neg_nonneg_of_nonpos hnegative) (Int.le_of_lt unitsPerOne_pos)
      rw [Int.neg_tdiv] at hsign
      omega
  exact ⟨Int.le_tdiv_of_mul_le unitsPerOne_pos hlow, hbelow⟩

/-- Neither the limits nor clamping nor rounding changes the order of the places. -/
theorem orderAt_eq (left : Int64) {units : Int} (hshort : IsShort units) :
    orderAt left units = compare (placeOfInteger left) units := by
  by_cases habove : wordLimit ≤ units
  · have hless := Int.lt_of_lt_of_le (placeOfInteger_lt_wordLimit left) habove
    rw [orderAt, if_pos habove]
    exact (Int.compare_eq_lt.mpr hless).symm
  by_cases hbelow : units < -wordLimit
  · have hless := Int.lt_of_lt_of_le hbelow (neg_wordLimit_le_placeOfInteger left)
    rw [orderAt, if_neg habove, if_pos hbelow]
    exact (Int.compare_eq_gt.mpr hless).symm
  have hfits := fits_tdiv (Int.not_lt.mp hbelow) (Int.not_le.mp habove)
  have hsum := Int.tdiv_mul_add_tmod units unitsPerOne
  have hfraction : units - units.tdiv unitsPerOne * unitsPerOne = units.tmod unitsPerOne := by
    omega
  have hrounded : rounded (units.tmod unitsPerOne) = units.tmod unitsPerOne := by
    apply rounded_of_isShort
    rw [unitsPerOne]
    apply hshort.tmod
  have hsmall : (units.tmod unitsPerOne).natAbs < unitsPerOne.natAbs :=
    Checked.natAbs_tmod_lt units (Int.ne_of_gt unitsPerOne_pos)
  calc
    orderAt left units
      = (compare left.toInt (Checked.clamp (units.tdiv unitsPerOne)).toInt).then
          (compare 0 (rounded (units - units.tdiv unitsPerOne * unitsPerOne))) := by
        rw [orderAt, if_neg habove, if_neg hbelow]
    _ = (compare left.toInt (units.tdiv unitsPerOne)).then
          (compare 0 (units.tmod unitsPerOne)) := by
        rw [Checked.toInt_clamp hfits, hfraction, hrounded]
    _ = compare (placeOfInteger left) units := by
        rw [← compare_mixed left.toInt _ unitsPerOne_pos hsmall, hsum]
        rfl

theorem comparePlaces_swap (left right : Option Int) :
    comparePlaces right left = (comparePlaces left right).map Ordering.swap := by
  cases left <;> cases right <;> try rfl
  exact congrArg some Std.OrientedOrd.eq_swap

/-- The order of an integer and a double is that of their places. -/
theorem orderInteger_eq (left : Int64) (right : Float) :
    orderInteger left right = comparePlaces (some (placeOfInteger left)) (place right) := by
  rw [orderInteger]
  cases hplace : place right with
  | none => rfl
  | some units => exact congrArg some (orderAt_eq left (isShort_of_place hplace))

end CypherExpr.Binary64
