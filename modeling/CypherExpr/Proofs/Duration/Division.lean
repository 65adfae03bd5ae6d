import CypherExpr.Proofs.Duration.Exactness
import Mathlib.Tactic.LinearCombination

/-!
# Division of durations

What a component leaves over when it is divided is added to the next finer one before that is
divided in its turn, at 30 days for a month and 86400 seconds for a day.  At this rate nothing is
lost but the nanoseconds that the last division leaves over, which are fewer than the divisor.  The
sums that arise are small against a 128-bit word, and the result leaves its 64-bit words only where
a duration without a negation is divided by -1.  A product leaves nothing over when it is divided by
its factor, so division undoes multiplication.
-/

namespace CypherExpr.Duration

open Checked (natAbs_toInt_le natAbs_div_le_half natAbs_tmod_lt toInt_ne_zero)

/-! ## What is left over -/

/-- A coarser component leaves over less than the divisor, each worth `unit` of the finer one. -/
theorem natAbs_spill_le (own left unit : Int) {divisor : Int} (hdivisor : divisor ≠ 0) :
    (own + left.tmod divisor * unit).natAbs ≤ own.natAbs + divisor.natAbs * unit.natAbs := by
  have hleft := Nat.mul_le_mul_right unit.natAbs (natAbs_tmod_lt left hdivisor).le
  calc
    (own + left.tmod divisor * unit).natAbs
        ≤ own.natAbs + (left.tmod divisor * unit).natAbs := Int.natAbs_add_le _ _
    _ = own.natAbs + (left.tmod divisor).natAbs * unit.natAbs := by rw [Int.natAbs_mul]
    _ ≤ own.natAbs + divisor.natAbs * unit.natAbs := Nat.add_le_add_left hleft _

/-- Divided, the part that is carried on makes at most one `unit`. -/
theorem natAbs_tdiv_spill_le (own left unit : Int) {divisor : Int} (hdivisor : divisor ≠ 0) :
    ((own + left.tmod divisor * unit).tdiv divisor).natAbs ≤
      own.natAbs / divisor.natAbs + unit.natAbs := by
  calc
    ((own + left.tmod divisor * unit).tdiv divisor).natAbs
        = (own + left.tmod divisor * unit).natAbs / divisor.natAbs := Int.natAbs_tdiv _ _
    _ ≤ (own.natAbs + divisor.natAbs * unit.natAbs) / divisor.natAbs :=
      Nat.div_le_div_right (natAbs_spill_le own left unit hdivisor)
    _ = own.natAbs / divisor.natAbs + unit.natAbs :=
      Nat.add_mul_div_left _ _ (Int.natAbs_pos.mpr hdivisor)

theorem natAbs_tdiv_spill_le_add (own left unit : Int) {divisor : Int} (hdivisor : divisor ≠ 0) :
    ((own + left.tmod divisor * unit).tdiv divisor).natAbs ≤ own.natAbs + unit.natAbs :=
  (natAbs_tdiv_spill_le own left unit hdivisor).trans
    (Nat.add_le_add_right (Nat.div_le_self _ _) _)

/-! ## The exact quotient -/

/-- The length in nanoseconds, with a month taken for 30 days. -/
def nominalNanos (duration : Duration) : Int :=
  ((duration.months.toInt * daysPerMonth + duration.days.toInt) * secondsPerDay +
    duration.seconds.toInt) * nanosPerSecond + duration.nanos

theorem nominalNanos_eq (duration : Duration) :
    duration.nominalNanos =
      (duration.months.toInt * daysPerMonth + duration.days.toInt) * secondsPerDay *
        nanosPerSecond + duration.subDay := by
  rw [nominalNanos, subDay, Int.add_mul, Int.add_assoc]

section

variable (duration : Duration) (divisor : Int)

/-- The days to divide: those of the duration and of the months left over. -/
def daysToDivide : Int :=
  duration.days.toInt + duration.months.toInt.tmod divisor * daysPerMonth

def secondsToDivide : Int :=
  duration.seconds.toInt + (duration.daysToDivide divisor).tmod divisor * secondsPerDay

def nanosToDivide : Int :=
  duration.nanos + (duration.secondsToDivide divisor).tmod divisor * nanosPerSecond

/-- The part below a day of the quotient, in nanoseconds. -/
def subDayQuotient : Int :=
  (duration.secondsToDivide divisor).tdiv divisor * nanosPerSecond +
    (duration.nanosToDivide divisor).tdiv divisor

/-- The seconds and nanoseconds to divide are the divisor times those of the quotient and what the
nanoseconds leave over. -/
theorem toDivide_eq_mul_subDayQuotient :
    duration.secondsToDivide divisor * nanosPerSecond + duration.nanos =
      divisor * duration.subDayQuotient divisor +
        (duration.nanosToDivide divisor).tmod divisor := by
  have hseconds := Int.mul_tdiv_add_tmod (duration.secondsToDivide divisor) divisor
  have hnanos := Int.mul_tdiv_add_tmod (duration.nanosToDivide divisor) divisor
  rw [subDayQuotient]
  rw [nanosToDivide] at hnanos ⊢
  linear_combination -nanosPerSecond * hseconds - hnanos

/-- Each remainder is carried on at its rate, so what the nanoseconds leave over is all that the
divisor times the quotient lacks. -/
theorem nominalNanos_eq_mul_add :
    duration.nominalNanos =
      divisor * ((duration.months.toInt.tdiv divisor * daysPerMonth +
          (duration.daysToDivide divisor).tdiv divisor) * secondsPerDay * nanosPerSecond +
        duration.subDayQuotient divisor) +
      (duration.nanosToDivide divisor).tmod divisor := by
  have hmonths := Int.mul_tdiv_add_tmod duration.months.toInt divisor
  have hdays := Int.mul_tdiv_add_tmod (duration.daysToDivide divisor) divisor
  have hsum : duration.daysToDivide divisor =
      duration.days.toInt + duration.months.toInt.tmod divisor * daysPerMonth := rfl
  have hsubDay := duration.toDivide_eq_mul_subDayQuotient divisor
  rw [secondsToDivide] at hsubDay
  rw [nominalNanos]
  linear_combination hsubDay - secondsPerDay * nanosPerSecond * (hdays + hsum) -
    daysPerMonth * secondsPerDay * nanosPerSecond * hmonths

theorem natAbs_tdiv_nanosToDivide_le (hdivisor : divisor ≠ 0) :
    ((duration.nanosToDivide divisor).tdiv divisor).natAbs ≤ 999999999 + 1000000000 :=
  (natAbs_tdiv_spill_le_add _ _ _ hdivisor).trans
    (Nat.add_le_add_right duration.natAbs_nanos_le _)

theorem natAbs_tdiv_secondsToDivide_le (hdivisor : divisor ≠ 0) :
    ((duration.secondsToDivide divisor).tdiv divisor).natAbs ≤ 9223372036854775808 + 86400 :=
  (natAbs_tdiv_spill_le_add _ _ _ hdivisor).trans
    (Nat.add_le_add_right (natAbs_toInt_le duration.seconds) _)

end

/-! ## The calculation in words -/

section

variable {divisor : Int64} (hdivisor : divisor.toInt ≠ 0)

include hdivisor

theorem natAbs_sum_le (own left unit : Int) (hown : own.natAbs ≤ 9223372036854775808)
    (hunit : unit.natAbs ≤ 1000000000) :
    (own + left.tmod divisor.toInt * unit).natAbs ≤
      9223372036854775808 * 9223372036854775808 := by
  have hword := Nat.mul_le_mul (natAbs_toInt_le divisor) hunit
  calc
    (own + left.tmod divisor.toInt * unit).natAbs
        ≤ own.natAbs + divisor.toInt.natAbs * unit.natAbs := natAbs_spill_le own left unit hdivisor
    _ ≤ 9223372036854775808 + 9223372036854775808 * 1000000000 := Nat.add_le_add hown hword
    _ ≤ 9223372036854775808 * 9223372036854775808 := by decide

theorem unchecked_spill (left unit : Int) (hunit : unit.natAbs ≤ 1000000000) :
    Wide.unchecked (left.tmod divisor.toInt * unit) = .ok (left.tmod divisor.toInt * unit) := by
  have hsum := natAbs_sum_le hdivisor 0 left unit (by decide) hunit
  rw [Int.zero_add] at hsum
  exact Wide.unchecked_of_fits (wideFits_of_natAbs_le hsum)

end

theorem quotient_of_natAbs_le {left : Int} (right : Int)
    (hleft : left.natAbs ≤ 9223372036854775808 * 9223372036854775808) :
    Wide.quotient left right = .ok (left.tdiv right) := by
  apply Wide.unchecked_of_fits
  apply wideFits_of_natAbs_le
  exact (Int.natAbs_tdiv_le_natAbs left right).trans hleft

theorem remainder_of_natAbs_le {left : Int} (right : Int)
    (hleft : left.natAbs ≤ 9223372036854775808 * 9223372036854775808) :
    Wide.remainder left right = .ok (left.tmod right) := by
  rw [Wide.remainder, quotient_of_natAbs_le right hleft]
  rfl

/-- Every sum, product and quotient of the calculation fits its word, so it ends in the duration of
the exact components. -/
theorem quotient_eq (duration : Duration) {divisor : Int64} (hdivisor : divisor.toInt ≠ 0) :
    duration.quotient divisor =
      Wide.ofOption (ofExact? (duration.months.toInt.tdiv divisor.toInt)
        ((duration.daysToDivide divisor.toInt).tdiv divisor.toInt)
        (duration.subDayQuotient divisor.toInt)) := by
  have hmonths : duration.months.toInt.natAbs ≤ 9223372036854775808 * 9223372036854775808 :=
    (natAbs_toInt_le duration.months).trans (by decide)
  have hdays : (duration.daysToDivide divisor.toInt).natAbs ≤
      9223372036854775808 * 9223372036854775808 :=
    natAbs_sum_le hdivisor _ _ _ (natAbs_toInt_le duration.days) (by decide)
  have hseconds : (duration.secondsToDivide divisor.toInt).natAbs ≤
      9223372036854775808 * 9223372036854775808 :=
    natAbs_sum_le hdivisor _ _ _ (natAbs_toInt_le duration.seconds) (by decide)
  have hnanos : (duration.nanosToDivide divisor.toInt).natAbs ≤
      9223372036854775808 * 9223372036854775808 :=
    natAbs_sum_le hdivisor _ _ _ (duration.natAbs_nanos_le.trans (by decide)) (by decide)
  rw [quotient, remainder_of_natAbs_le _ hmonths, Wide.ok_bind,
    unchecked_spill hdivisor _ _ (by decide), Wide.ok_bind, ← daysToDivide,
    Wide.unchecked_of_fits (wideFits_of_natAbs_le hdays), Wide.ok_bind,
    remainder_of_natAbs_le _ hdays, Wide.ok_bind,
    unchecked_spill hdivisor _ _ (by decide), Wide.ok_bind, ← secondsToDivide,
    Wide.unchecked_of_fits (wideFits_of_natAbs_le hseconds), Wide.ok_bind,
    remainder_of_natAbs_le _ hseconds, Wide.ok_bind,
    unchecked_spill hdivisor _ _ (by decide), Wide.ok_bind, ← nanosToDivide,
    Wide.unchecked_of_fits (wideFits_of_natAbs_le hnanos), Wide.ok_bind,
    quotient_of_natAbs_le _ hmonths, quotient_of_natAbs_le _ hdays,
    quotient_of_natAbs_le _ hseconds, quotient_of_natAbs_le _ hnanos]
  apply ofWords_eq
  exact (duration.natAbs_tdiv_nanosToDivide_le _ hdivisor).trans (by decide)

theorem divide_eq (duration : Duration) {divisor : Int64} (hdivisor : divisor ≠ 0) :
    duration.divide divisor = ofExact? (duration.months.toInt.tdiv divisor.toInt)
      ((duration.daysToDivide divisor.toInt).tdiv divisor.toInt)
      (duration.subDayQuotient divisor.toInt) := by
  have hvalue : divisor.toInt ≠ 0 := toInt_ne_zero hdivisor
  rw [divide, if_neg hdivisor, quotient_eq duration hvalue, Wide.toOption_ofOption]

/-! ## Where the quotient fits -/

/-- Half a word is left for the part that is carried on, unless the divisor is 1 or -1. -/
theorem fitComponents_of_two_le (duration : Duration) {divisor : Int}
    (hdivisor : 2 ≤ divisor.natAbs) :
    FitComponents (duration.months.toInt.tdiv divisor)
      ((duration.daysToDivide divisor).tdiv divisor) (duration.subDayQuotient divisor) := by
  have hsome : divisor ≠ 0 := by omega
  have hhalf (word : Int64) : word.toInt.natAbs / divisor.natAbs ≤ 4611686018427387904 :=
    natAbs_div_le_half word hdivisor
  have hmonths : (duration.months.toInt.tdiv divisor).natAbs ≤ 4611686018427387904 := by
    rw [Int.natAbs_tdiv]
    exact hhalf duration.months
  have hdays : ((duration.daysToDivide divisor).tdiv divisor).natAbs ≤
      4611686018427387904 + 30 :=
    (natAbs_tdiv_spill_le _ _ _ hsome).trans (Nat.add_le_add_right (hhalf duration.days) _)
  have hseconds : ((duration.secondsToDivide divisor).tdiv divisor).natAbs ≤
      4611686018427387904 + 86400 :=
    (natAbs_tdiv_spill_le _ _ _ hsome).trans (Nat.add_le_add_right (hhalf duration.seconds) _)
  have hnanos := duration.natAbs_tdiv_nanosToDivide_le _ hsome
  refine ⟨?_, ?_, ?_⟩
  · simp only [Checked.Fits]
    omega
  · simp only [Checked.Fits]
    omega
  · simp only [Checked.Fits, subDayQuotient, nanosPerSecond]
    omega

theorem divide_one (duration : Duration) : duration.divide 1 = some duration := by
  have hone : (1 : Int64).toInt = 1 := rfl
  rw [divide_eq duration (by decide), hone, ofExact?_eq_some_iff]
  simp [subDayQuotient, nanosToDivide, secondsToDivide, daysToDivide, subDay]

theorem divide_neg_one (duration : Duration) : duration.divide (-1) = duration.negate := by
  have hone : (-1 : Int64).toInt = -1 := rfl
  have hsubDay : duration.subDayQuotient (-1) = -duration.subDay := by
    simp only [subDayQuotient, nanosToDivide, secondsToDivide, daysToDivide, subDay, Int.tdiv_neg,
      Int.tdiv_one, Int.tmod_neg, Int.tmod_one, Int.zero_mul, Int.add_zero, Int.neg_mul,
      Int.neg_add]
  have hdays : (duration.daysToDivide (-1)).tdiv (-1) = -duration.days.toInt := by
    simp only [daysToDivide, Int.tdiv_neg, Int.tdiv_one, Int.tmod_neg, Int.tmod_one, Int.zero_mul,
      Int.add_zero]
  rw [divide_eq duration (by decide), hone, negate_eq, hsubDay, hdays, Int.tdiv_neg, Int.tdiv_one]

/-- Only the division by -1 can fail, and it does where the negation does. -/
theorem divide_eq_none_iff (duration : Duration) {divisor : Int64} (hdivisor : divisor ≠ 0) :
    duration.divide divisor = none ↔ divisor = -1 ∧ ¬ duration.Negatable := by
  by_cases hone : divisor = 1
  · subst hone
    rw [divide_one]
    exact ⟨nofun, fun hnone => absurd hnone.1 (by decide)⟩
  by_cases hnegative : divisor = -1
  · subst hnegative
    rw [divide_neg_one, ← isSome_negate_iff, Option.not_isSome_iff_eq_none, eq_self, true_and]
  have htwo : 2 ≤ divisor.toInt.natAbs := by
    have hzero' : divisor.toInt ≠ 0 := toInt_ne_zero hdivisor
    have hone' : divisor.toInt ≠ 1 := fun h => hone (Int64.toInt_inj.mp h)
    have hnegative' : divisor.toInt ≠ -1 := fun h => hnegative (Int64.toInt_inj.mp h)
    omega
  have hsome := isSome_ofExact?_iff.mpr (duration.fitComponents_of_two_le htwo)
  rw [← divide_eq duration hdivisor] at hsome
  constructor
  · intro hnone
    rw [hnone] at hsome
    cases hsome
  · intro hnone
    exact absurd hnone.1 hnegative

/-! ## What the quotient loses -/

/-- No step of a division by a non-zero integer leaves its 128-bit word, those that are checked
included.  The quotient has the exact components and is there exactly if they fit, which fails only
for the negation of a duration that has none.  Its months are divided toward zero, and the divisor
times its length lacks fewer nanoseconds than the divisor. -/
theorem divide_loses_lt_divisor (duration : Duration) {divisor : Int64} (hdivisor : divisor ≠ 0) :
    (duration.quotient divisor ≠ .error .overflowed ∧
      Wide.Fits ((duration.secondsToDivide divisor.toInt).tdiv divisor.toInt * nanosPerSecond) ∧
      Wide.Fits (duration.subDayQuotient divisor.toInt)) ∧
    Exact (duration.divide divisor) (duration.months.toInt.tdiv divisor.toInt)
      ((duration.daysToDivide divisor.toInt).tdiv divisor.toInt)
      (duration.subDayQuotient divisor.toInt) ∧
    (duration.divide divisor = none ↔ divisor = -1 ∧ ¬ duration.Negatable) ∧
    (∀ quotient, duration.divide divisor = some quotient →
      quotient.nanos < nanosPerSecond ∧
      quotient.months.toInt = duration.months.toInt.tdiv divisor.toInt ∧
      ∃ rest : Int, duration.nominalNanos = divisor.toInt * quotient.nominalNanos + rest ∧
        rest.natAbs < divisor.toInt.natAbs) := by
  have hvalue : divisor.toInt ≠ 0 := toInt_ne_zero hdivisor
  have hseconds := duration.natAbs_tdiv_secondsToDivide_le _ hvalue
  have hnanos := duration.natAbs_tdiv_nanosToDivide_le _ hvalue
  refine ⟨⟨?_, ?_, ?_⟩, ?_, duration.divide_eq_none_iff hdivisor, fun quotient hquotient => ?_⟩
  · rw [quotient_eq duration hvalue]
    exact Wide.ofOption_ne_overflowed _
  · simp only [Wide.Fits, nanosPerSecond]
    omega
  · simp only [Wide.Fits, subDayQuotient, nanosPerSecond]
    omega
  · rw [divide_eq duration hdivisor]
    exact exact_ofExact? _ _ _
  · rw [divide_eq duration hdivisor, ofExact?_eq_some_iff] at hquotient
    obtain ⟨hmonths, hdays, hsubDay⟩ := hquotient
    refine ⟨quotient.nanos_lt, hmonths, (duration.nanosToDivide divisor.toInt).tmod divisor.toInt,
      ?_, natAbs_tmod_lt _ hvalue⟩
    rw [nominalNanos_eq quotient, hmonths, hdays, hsubDay]
    exact duration.nominalNanos_eq_mul_add divisor.toInt

/-- A seventh of two days less three months and four and three quarter seconds: three months are 90
days, and the last remainder is one nanosecond. -/
theorem divide_loses_lt_divisor_seventh :
    ((7 : Int64) ≠ 0 ∧ (ofFields (-3) 2 (-5) 250000000).divide 7 =
      some (ofFields 0 (-12) (-49373) 892857143)) ∧
    (ofFields 0 (-12) (-49373) 892857143).months.toInt = (-3 : Int).tdiv 7 ∧
    ∃ rest : Int, (ofFields (-3) 2 (-5) 250000000).nominalNanos =
      7 * (ofFields 0 (-12) (-49373) 892857143).nominalNanos + rest ∧ rest.natAbs < 7 := by
  have hquotient : (ofFields (-3) 2 (-5) 250000000).divide 7 =
      some (ofFields 0 (-12) (-49373) 892857143) := by decide
  obtain ⟨_, _, _, hlaw⟩ := divide_loses_lt_divisor (ofFields (-3) 2 (-5) 250000000)
    (by decide : (7 : Int64) ≠ 0)
  exact ⟨⟨by decide, hquotient⟩, (hlaw _ hquotient).2⟩

/-- Division by a factor undoes the multiplication, in every component. -/
theorem divide_of_multiply {duration product : Duration} {factor : Int64} (hfactor : factor ≠ 0)
    (hproduct : duration.multiply factor = some product) :
    product.divide factor = some duration := by
  have hvalue : factor.toInt ≠ 0 := toInt_ne_zero hfactor
  rw [multiply_eq, ofExact?_eq_some_iff] at hproduct
  obtain ⟨hmonths, hdays, hsubDay⟩ := hproduct
  have hdaysToDivide : product.daysToDivide factor.toInt = duration.days.toInt * factor.toInt := by
    rw [daysToDivide, hmonths, Int.mul_tmod_left, Int.zero_mul, Int.add_zero, hdays]
  have hsecondsToDivide : product.secondsToDivide factor.toInt = product.seconds.toInt := by
    rw [secondsToDivide, hdaysToDivide, Int.mul_tmod_left, Int.zero_mul, Int.add_zero]
  have hlaw := product.toDivide_eq_mul_subDayQuotient factor.toInt
  rw [hsecondsToDivide, ← subDay, hsubDay, Int.mul_comm] at hlaw
  have hrest : (product.nanosToDivide factor.toInt).tmod factor.toInt = 0 := by
    apply Int.eq_zero_of_dvd_of_natAbs_lt_natAbs _ (natAbs_tmod_lt _ hvalue)
    exact ⟨duration.subDay - product.subDayQuotient factor.toInt, by linear_combination -hlaw⟩
  rw [hrest, Int.add_zero] at hlaw
  have hsubDayQuotient : duration.subDay = product.subDayQuotient factor.toInt :=
    Int.eq_of_mul_eq_mul_left hvalue hlaw
  rw [divide_eq product hfactor, ofExact?_eq_some_iff, hmonths, hdaysToDivide,
    Int.mul_tdiv_cancel _ hvalue, Int.mul_tdiv_cancel _ hvalue]
  exact ⟨rfl, rfl, hsubDayQuotient⟩

/-- Three and three quarter seconds back, and a month less two days, times -3. -/
theorem divide_of_multiply_negative :
    ((-3 : Int64) ≠ 0 ∧ (ofFields 1 (-2) (-4) 250000000).multiply (-3) =
      some (ofFields (-3) 6 11 250000000)) ∧
    (ofFields (-3) 6 11 250000000).divide (-3) = some (ofFields 1 (-2) (-4) 250000000) := by
  have hfactor : (-3 : Int64) ≠ 0 := by decide
  have hproduct : (ofFields 1 (-2) (-4) 250000000).multiply (-3) =
      some (ofFields (-3) 6 11 250000000) := by decide
  exact ⟨⟨hfactor, hproduct⟩, divide_of_multiply hfactor hproduct⟩

end CypherExpr.Duration
