import CypherExpr.Duration.Basic
import CypherExpr.Proofs.Number.Words

/-!
# Exactness of duration arithmetic

A duration stands for three exact integers, its months, its days and the nanoseconds of its part
below a day.  Sums, negations and products of durations are those of these integers wherever the
components of the result fit their words: no step in 128-bit words leaves the range unnoticed, and
one that is checked gives up only where the seconds of the result would not fit either.  A
difference is composed of two such calculations, so it also asks that the subtracted duration can
be negated.
-/

namespace CypherExpr.Duration

open Checked (natAbs_toInt_le fits_neg_iff)

/-- The duration with the given exact components, if they fit. -/
def ofExact? (months days subDay : Int) : Option Duration := do
  let months ← Checked.narrow months
  let days ← Checked.narrow days
  let seconds ← Checked.narrow (subDay / nanosPerSecond)
  return ⟨months, days, seconds, restOfSecond subDay, restOfSecond_lt subDay⟩

/-- The given exact components fit their words. -/
def FitComponents (months days subDay : Int) : Prop :=
  Checked.Fits months ∧ Checked.Fits days ∧ Checked.Fits (subDay / nanosPerSecond)

instance (months days subDay : Int) : Decidable (FitComponents months days subDay) := by
  unfold FitComponents
  infer_instance

/-- The result has the given exact components, and it is there exactly if they fit. -/
structure Exact (result : Option Duration) (months days subDay : Int) : Prop where
  isSome_iff : result.isSome = true ↔ FitComponents months days subDay
  components : ∀ duration, result = some duration →
    duration.months.toInt = months ∧ duration.days.toInt = days ∧
      duration.seconds.toInt * nanosPerSecond + duration.nanos = subDay ∧
      duration.nanos < nanosPerSecond

/-! ## A duration by its exact components -/

theorem subDay_div (duration : Duration) :
    duration.subDay / nanosPerSecond = duration.seconds.toInt := by
  have hnanos := duration.nanos_lt
  simp only [subDay, nanosPerSecond] at hnanos ⊢
  omega

theorem restOfSecond_subDay (duration : Duration) :
    restOfSecond duration.subDay = duration.nanos := by
  have hnanos := duration.nanos_lt
  simp only [restOfSecond, subDay, nanosPerSecond] at hnanos ⊢
  omega

theorem ofExact?_eq_some_iff {months days subDay : Int} {duration : Duration} :
    ofExact? months days subDay = some duration ↔
      duration.months.toInt = months ∧ duration.days.toInt = days ∧ duration.subDay = subDay := by
  simp only [ofExact?, Option.bind_eq_bind, Option.bind_eq_some_iff, Checked.narrow_eq_some_iff]
  constructor
  · rintro ⟨m, rfl, d, rfl, s, hs, hduration⟩
    cases hduration
    refine ⟨rfl, rfl, ?_⟩
    simp only [Duration.subDay, restOfSecond, nanosPerSecond] at hs ⊢
    omega
  · rintro ⟨rfl, rfl, rfl⟩
    refine ⟨_, rfl, _, rfl, _, duration.subDay_div.symm, ?_⟩
    simp only [restOfSecond_subDay]
    rfl

theorem isSome_ofExact?_iff {months days subDay : Int} :
    (ofExact? months days subDay).isSome = true ↔ FitComponents months days subDay := by
  by_cases hmonths : Checked.Fits months
  · by_cases hdays : Checked.Fits days
    · by_cases hseconds : Checked.Fits (subDay / nanosPerSecond)
      · simp [ofExact?, Checked.narrow, FitComponents, hmonths, hdays, hseconds]
      · simp [ofExact?, Checked.narrow, FitComponents, hseconds]
    · simp [ofExact?, Checked.narrow, FitComponents, hdays]
  · simp [ofExact?, Checked.narrow, FitComponents, hmonths]

theorem exact_ofExact? (months days subDay : Int) :
    Exact (ofExact? months days subDay) months days subDay where
  isSome_iff := isSome_ofExact?_iff
  components duration hduration := by
    obtain ⟨hmonths, hdays, hsubDay⟩ := ofExact?_eq_some_iff.mp hduration
    exact ⟨hmonths, hdays, hsubDay, duration.nanos_lt⟩

theorem not_exact_none {months days subDay : Int} (hfit : FitComponents months days subDay) :
    ¬ Exact none months days subDay := by
  intro hexact
  have hsome := hexact.isSome_iff.mpr hfit
  cases hsome

/-! ## Calculations in words -/

/-- The carry of seconds is exact.  Its checked steps fail only if the nanoseconds have to make up
for seconds beyond all 64-bit words, which so few of them cannot. -/
theorem ofWide_eq (months days : Int64) {seconds nanos : Int}
    (hnanos : nanos.natAbs ≤ 9223372036854775808 * nanosPerSecond) :
    ofWide months days seconds nanos =
      Wide.ofOption ((Checked.narrow ((seconds * nanosPerSecond + nanos) / nanosPerSecond)).map
        fun word => ⟨months, days, word, restOfSecond (seconds * nanosPerSecond + nanos),
          restOfSecond_lt _⟩) := by
  generalize htotal : seconds * nanosPerSecond + nanos = total
  by_cases hfits : Wide.Fits (seconds * nanosPerSecond) ∧ Wide.Fits total
  · have hcarried : Wide.Fits (total / nanosPerSecond) := by
      simp only [Wide.Fits, nanosPerSecond] at hfits ⊢
      omega
    rw [ofWide, Wide.checked_of_fits hfits.1]
    simp only [Wide.ok_bind, htotal, Wide.checked_of_fits hfits.2,
      Wide.unchecked_of_fits hcarried]
    cases Checked.narrow (total / nanosPerSecond) <;> rfl
  · have hseconds : ¬ Checked.Fits (total / nanosPerSecond) := by
      simp only [Wide.Fits, Checked.Fits, nanosPerSecond] at hnanos hfits htotal ⊢
      omega
    rw [Checked.narrow_eq_none_iff.mpr hseconds, ofWide]
    by_cases hwhole : Wide.Fits (seconds * nanosPerSecond)
    · have hbeyond : ¬ Wide.Fits total := fun htotal => hfits ⟨hwhole, htotal⟩
      rw [Wide.checked_of_fits hwhole, Wide.ok_bind, htotal, Wide.checked_of_not_fits hbeyond]
      rfl
    · rw [Wide.checked_of_not_fits hwhole]
      rfl

/-- Months and days in 64-bit words and the part below a day in 128-bit words make the duration of
the exact components. -/
theorem ofWords_eq (months days : Int) {seconds nanos : Int}
    (hnanos : nanos.natAbs ≤ 9223372036854775808 * nanosPerSecond) :
    (do
      let months ← Wide.ofOption (Checked.narrow months)
      let days ← Wide.ofOption (Checked.narrow days)
      ofWide months days seconds nanos) =
    Wide.ofOption (ofExact? months days (seconds * nanosPerSecond + nanos)) := by
  simp only [ofWide_eq _ _ hnanos, ofExact?]
  cases Checked.narrow months with
  | none => rfl
  | some m =>
      cases Checked.narrow days with
      | none => rfl
      | some d =>
          cases Checked.narrow ((seconds * nanosPerSecond + nanos) / nanosPerSecond) <;> rfl

theorem natAbs_nanos_le (duration : Duration) : (duration.nanos : Int).natAbs ≤ 999999999 := by
  have hnanos := duration.nanos_lt
  simp only [nanosPerSecond] at hnanos
  omega

theorem natAbs_mul_toInt_le {value : Int} {bound : Nat} (hvalue : value.natAbs ≤ bound)
    (factor : Int64) : (value * factor.toInt).natAbs ≤ bound * 9223372036854775808 := by
  rw [Int.natAbs_mul]
  exact Nat.mul_le_mul hvalue (natAbs_toInt_le factor)

/-- The product of two 64-bit words fits a 128-bit word. -/
theorem wideFits_of_natAbs_le {value : Int}
    (hvalue : value.natAbs ≤ 9223372036854775808 * 9223372036854775808) : Wide.Fits value := by
  simp only [Wide.Fits]
  omega

theorem sum_eq (left right : Duration) :
    left.sum right =
      Wide.ofOption (ofExact? (left.months.toInt + right.months.toInt)
        (left.days.toInt + right.days.toInt) (left.subDay + right.subDay)) := by
  have hleft := natAbs_toInt_le left.seconds
  have hright := natAbs_toInt_le right.seconds
  have hleftNanos := left.natAbs_nanos_le
  have hrightNanos := right.natAbs_nanos_le
  have hseconds : Wide.Fits (left.seconds.toInt + right.seconds.toInt) :=
    wideFits_of_natAbs_le (by omega)
  have hnanos : Wide.Fits (left.nanos + right.nanos) := wideFits_of_natAbs_le (by omega)
  have hsubDay : left.subDay + right.subDay =
      (left.seconds.toInt + right.seconds.toInt) * nanosPerSecond +
        (left.nanos + right.nanos) := by
    simp only [subDay, nanosPerSecond]
    omega
  rw [sum, Wide.unchecked_of_fits hseconds, Wide.unchecked_of_fits hnanos, hsubDay]
  refine ofWords_eq _ _ ?_
  simp only [nanosPerSecond]
  omega

theorem negation_eq (duration : Duration) :
    duration.negation =
      Wide.ofOption (ofExact? (-duration.months.toInt) (-duration.days.toInt)
        (-duration.subDay)) := by
  have hword := natAbs_toInt_le duration.seconds
  have hrest := duration.natAbs_nanos_le
  have hseconds : Wide.Fits (-duration.seconds.toInt) := wideFits_of_natAbs_le (by omega)
  have hnanos : Wide.Fits (-duration.nanos) := wideFits_of_natAbs_le (by omega)
  have hsubDay : -duration.subDay =
      -duration.seconds.toInt * nanosPerSecond + -duration.nanos := by
    simp only [subDay, nanosPerSecond]
    omega
  rw [negation, Wide.unchecked_of_fits hseconds, Wide.unchecked_of_fits hnanos, hsubDay]
  refine ofWords_eq _ _ ?_
  simp only [nanosPerSecond]
  omega

theorem product_eq (duration : Duration) (factor : Int64) :
    duration.product factor =
      Wide.ofOption (ofExact? (duration.months.toInt * factor.toInt)
        (duration.days.toInt * factor.toInt) (duration.subDay * factor.toInt)) := by
  have hword := natAbs_mul_toInt_le (natAbs_toInt_le duration.seconds) factor
  have hrest := natAbs_mul_toInt_le duration.natAbs_nanos_le factor
  have hseconds : Wide.Fits (duration.seconds.toInt * factor.toInt) :=
    wideFits_of_natAbs_le hword
  have hnanos : Wide.Fits (duration.nanos * factor.toInt) := wideFits_of_natAbs_le (by omega)
  have hsubDay : duration.subDay * factor.toInt =
      duration.seconds.toInt * factor.toInt * nanosPerSecond + duration.nanos * factor.toInt := by
    rw [subDay, Int.add_mul, Int.mul_right_comm]
  rw [product, Wide.checked_of_fits hseconds, Wide.checked_of_fits hnanos, hsubDay]
  refine ofWords_eq _ _ ?_
  simp only [nanosPerSecond]
  omega

theorem add_eq (left right : Duration) :
    left.add right = ofExact? (left.months.toInt + right.months.toInt)
      (left.days.toInt + right.days.toInt) (left.subDay + right.subDay) := by
  rw [add, sum_eq, Wide.toOption_ofOption]

theorem negate_eq (duration : Duration) :
    duration.negate =
      ofExact? (-duration.months.toInt) (-duration.days.toInt) (-duration.subDay) := by
  rw [negate, negation_eq, Wide.toOption_ofOption]

theorem multiply_eq (duration : Duration) (factor : Int64) :
    duration.multiply factor = ofExact? (duration.months.toInt * factor.toInt)
      (duration.days.toInt * factor.toInt) (duration.subDay * factor.toInt) := by
  rw [multiply, product_eq, Wide.toOption_ofOption]

/-- Sums, negations and products have the exact components wherever these fit, and no step of their
calculation overflows its word. -/
theorem calculations_exact (left right : Duration) (factor : Int64) :
    (Exact (left.add right) (left.months.toInt + right.months.toInt)
        (left.days.toInt + right.days.toInt) (left.subDay + right.subDay) ∧
      left.sum right ≠ .error .overflowed) ∧
    (Exact left.negate (-left.months.toInt) (-left.days.toInt) (-left.subDay) ∧
      left.negation ≠ .error .overflowed) ∧
    (Exact (left.multiply factor) (left.months.toInt * factor.toInt)
        (left.days.toInt * factor.toInt) (left.subDay * factor.toInt) ∧
      left.product factor ≠ .error .overflowed) := by
  rw [add_eq, negate_eq, multiply_eq, sum_eq, negation_eq, product_eq]
  exact ⟨⟨exact_ofExact? _ _ _, Wide.ofOption_ne_overflowed _⟩,
    ⟨exact_ofExact? _ _ _, Wide.ofOption_ne_overflowed _⟩,
    ⟨exact_ofExact? _ _ _, Wide.ofOption_ne_overflowed _⟩⟩

/-! ## Differences -/

/-- The duration has a negation: no component is the least word, unless it is that of the seconds
and nanoseconds follow. -/
def Negatable (duration : Duration) : Prop :=
  duration.months ≠ Int64.minValue ∧ duration.days ≠ Int64.minValue ∧
    (duration.seconds = Int64.minValue → duration.nanos ≠ 0)

instance (duration : Duration) : Decidable duration.Negatable := by
  unfold Negatable
  infer_instance

theorem fits_neg_subDay_iff (duration : Duration) :
    Checked.Fits (-duration.subDay / nanosPerSecond) ↔
      (duration.seconds = Int64.minValue → duration.nanos ≠ 0) := by
  have hword := Checked.fits_toInt duration.seconds
  have hnanos := duration.nanos_lt
  rw [← Int64.toInt_inj, Int64.toInt_minValue]
  simp only [Checked.Fits, subDay, nanosPerSecond] at hword hnanos ⊢
  omega

theorem isSome_negate_iff {duration : Duration} :
    duration.negate.isSome = true ↔ duration.Negatable := by
  rw [negate_eq, isSome_ofExact?_iff, FitComponents, fits_neg_iff, fits_neg_iff,
    fits_neg_subDay_iff, Negatable]

theorem subtract_eq {left right : Duration} (hright : right.Negatable) :
    left.subtract right = ofExact? (left.months.toInt - right.months.toInt)
      (left.days.toInt - right.days.toInt) (left.subDay - right.subDay) := by
  obtain ⟨negated, hnegated⟩ := Option.isSome_iff_exists.mp (isSome_negate_iff.mpr hright)
  have hcomponents := hnegated
  rw [negate_eq, ofExact?_eq_some_iff] at hcomponents
  obtain ⟨hmonths, hdays, hsubDay⟩ := hcomponents
  rw [subtract, hnegated, Option.bind_some, add_eq, hmonths, hdays, hsubDay, Int.sub_eq_add_neg,
    Int.sub_eq_add_neg, Int.sub_eq_add_neg]

theorem subtract_eq_none {left right : Duration} (hright : ¬ right.Negatable) :
    left.subtract right = none := by
  rw [← isSome_negate_iff, Option.not_isSome_iff_eq_none] at hright
  rw [subtract, hright, Option.bind_none]

theorem subtract_eq_some_iff {left right difference : Duration} :
    left.subtract right = some difference ↔
      right.Negatable ∧ difference.months.toInt = left.months.toInt - right.months.toInt ∧
        difference.days.toInt = left.days.toInt - right.days.toInt ∧
        difference.subDay = left.subDay - right.subDay := by
  by_cases hright : right.Negatable
  · rw [subtract_eq hright, ofExact?_eq_some_iff, and_iff_right hright]
  · simp [subtract_eq_none hright, hright]

/-- A difference has the exact components wherever they fit, if the subtracted duration can be
negated, and fails if it cannot.  So that is what subtracting a duration from itself takes, and what
subtracting a duration from a sum takes that it was added to. -/
theorem subtract_exact_iff (left right : Duration) :
    (Exact (left.subtract right) (left.months.toInt - right.months.toInt)
        (left.days.toInt - right.days.toInt) (left.subDay - right.subDay) ↔
      (FitComponents (left.months.toInt - right.months.toInt)
        (left.days.toInt - right.days.toInt) (left.subDay - right.subDay) → right.Negatable)) ∧
    (left.subtract left = some zero ↔ left.Negatable) ∧
    (∀ total, left.add right = some total →
      (total.subtract right = some left ↔ right.Negatable)) := by
  refine ⟨⟨fun hexact hfit => ?_, fun hfit => ?_⟩, ?_, fun total htotal => ?_⟩
  · by_cases hright : right.Negatable
    · exact hright
    · rw [subtract_eq_none hright] at hexact
      exact absurd hexact (not_exact_none hfit)
  · by_cases hright : right.Negatable
    · rw [subtract_eq hright]
      exact exact_ofExact? _ _ _
    · rw [subtract_eq_none hright]
      exact ⟨⟨nofun, fun h => absurd (hfit h) hright⟩, nofun⟩
  · have hzero : zero.months.toInt = 0 ∧ zero.days.toInt = 0 ∧ zero.subDay = 0 := by decide
    rw [subtract_eq_some_iff, Int.sub_self, Int.sub_self, Int.sub_self, and_iff_left hzero]
  · rw [add_eq, ofExact?_eq_some_iff] at htotal
    obtain ⟨hmonths, hdays, hsubDay⟩ := htotal
    rw [subtract_eq_some_iff, hmonths, hdays, hsubDay, Int.add_sub_cancel, Int.add_sub_cancel,
      Int.add_sub_cancel]
    exact and_iff_left ⟨rfl, rfl, rfl⟩

/-- A day, ten seconds and 500 nanoseconds are added to a month, two days and three seconds, and
subtracted from what that gives. -/
theorem subtract_exact_iff_dayAndSeconds :
    ((ofFields 1 2 3 0).add (ofFields 0 1 10 500) = some (ofFields 1 3 13 500) ∧
      (ofFields 0 1 10 500).Negatable) ∧
    (ofFields 1 3 13 500).subtract (ofFields 0 1 10 500) = some (ofFields 1 2 3 0) := by
  have hsum : (ofFields 1 2 3 0).add (ofFields 0 1 10 500) = some (ofFields 1 3 13 500) := by
    decide
  have hnegatable : (ofFields 0 1 10 500).Negatable := by decide
  obtain ⟨_, _, hdifference⟩ := subtract_exact_iff (ofFields 1 2 3 0) (ofFields 0 1 10 500)
  exact ⟨⟨hsum, hnegatable⟩, (hdifference _ hsum).mpr hnegatable⟩

def leastMonths : Duration := ofMonths Int64.minValue

/-- The least months cannot be subtracted from themselves, although the difference is zero in every
component.  Nor can the least days or seconds. -/
theorem subtract_self_least :
    (leastMonths.subtract leastMonths = none ∧
      ¬ Exact (leastMonths.subtract leastMonths)
        (leastMonths.months.toInt - leastMonths.months.toInt)
        (leastMonths.days.toInt - leastMonths.days.toInt)
        (leastMonths.subDay - leastMonths.subDay)) ∧
    (ofDays Int64.minValue).subtract (ofDays Int64.minValue) = none ∧
    (ofSeconds Int64.minValue).subtract (ofSeconds Int64.minValue) = none := by
  have hnone : leastMonths.subtract leastMonths = none := by decide
  refine ⟨⟨hnone, ?_⟩, by decide, by decide⟩
  rw [hnone, Int.sub_self, Int.sub_self, Int.sub_self]
  exact not_exact_none (by decide)

end CypherExpr.Duration
