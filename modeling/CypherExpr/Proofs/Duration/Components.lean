import CypherExpr.Duration.Basic
import CypherExpr.Proofs.Number.Words

/-!
# Components of durations

Years and the months left over make up the months of a duration; hours, or minutes, and what they
leave over make up its seconds.  The part below a day is also shown as one count of milliseconds or
of nanoseconds, rounded down.  Such a count is there whenever a word can hold it, but for a part of
a second at the least word: there the whole seconds alone are out of range, and the rest, which
would bring the count back, is never added.
-/

namespace CypherExpr.Duration

/-- An exact count as a component: it is there if a word can hold it. -/
def shown (count : Int) : Option Int :=
  if Checked.Fits count then some count else none

theorem map_narrow (count : Int) : (Checked.narrow count).map Int64.toInt = shown count := by
  by_cases hfits : Checked.Fits count
  · rw [Checked.narrow, shown, if_pos hfits, if_pos hfits, Option.map_some,
      Checked.toInt_ofInt hfits]
  · rw [Checked.narrow, shown, if_neg hfits, if_neg hfits, Option.map_none]

/-! ## Counts of finer units -/

/-- The part below a day in units of a fraction of a second, rounded down. -/
def unitCount (duration : Duration) (unitsPerSecond nanosPerUnit : Nat) : Int :=
  duration.seconds.toInt * unitsPerSecond + (duration.nanos / nanosPerUnit : Nat)

theorem counted_of_fits {duration : Duration} {unitsPerSecond : Nat} (nanosPerUnit : Nat)
    (hwhole : Checked.Fits (duration.seconds.toInt * unitsPerSecond)) :
    duration.counted unitsPerSecond nanosPerUnit =
      shown (duration.unitCount unitsPerSecond nanosPerUnit) := by
  rw [counted, Checked.narrow, if_pos hwhole, Option.bind_some, map_narrow,
    Checked.toInt_ofInt hwhole]
  rfl

theorem counted_of_not_fits {duration : Duration} {unitsPerSecond : Nat} (nanosPerUnit : Nat)
    (hwhole : ¬ Checked.Fits (duration.seconds.toInt * unitsPerSecond)) :
    duration.counted unitsPerSecond nanosPerUnit = none := by
  rw [counted, Checked.narrow, if_neg hwhole, Option.bind_none]

/-- A count is exact unless it fits although the whole seconds in it do not. -/
theorem counted_eq_shown_iff (duration : Duration) (unitsPerSecond nanosPerUnit : Nat) :
    duration.counted unitsPerSecond nanosPerUnit =
        shown (duration.unitCount unitsPerSecond nanosPerUnit) ↔
      (Checked.Fits (duration.unitCount unitsPerSecond nanosPerUnit) →
        Checked.Fits (duration.seconds.toInt * unitsPerSecond)) := by
  by_cases hwhole : Checked.Fits (duration.seconds.toInt * unitsPerSecond)
  · exact iff_of_true (counted_of_fits nanosPerUnit hwhole) fun _ => hwhole
  · rw [counted_of_not_fits nanosPerUnit hwhole, shown]
    simp [hwhole]

theorem unitCount_nanoseconds (duration : Duration) :
    duration.unitCount nanosPerSecond 1 = duration.subDay := by
  rw [unitCount, Nat.div_one, subDay]

theorem unitCount_milliseconds (duration : Duration) :
    duration.unitCount 1000 1000000 = duration.subDay / 1000000 := by
  simp only [unitCount, subDay, nanosPerSecond]
  omega

theorem nanoseconds_eq_shown_iff (duration : Duration) :
    duration.component "nanoseconds" = shown duration.subDay ↔
      ¬ (duration.seconds.toInt = -9223372037 ∧ 145224192 ≤ duration.nanos) := by
  have hnanos := duration.nanos_lt
  change duration.counted nanosPerSecond 1 = _ ↔ _
  rw [← unitCount_nanoseconds, counted_eq_shown_iff, unitCount_nanoseconds]
  simp only [Checked.Fits, subDay, nanosPerSecond] at hnanos ⊢
  omega

theorem milliseconds_eq_shown_iff (duration : Duration) :
    duration.component "milliseconds" = shown (duration.subDay / 1000000) ↔
      ¬ (duration.seconds.toInt = -9223372036854776 ∧ 192000000 ≤ duration.nanos) := by
  have hnanos := duration.nanos_lt
  change duration.counted 1000 1000000 = _ ↔ _
  rw [← unitCount_milliseconds, counted_eq_shown_iff, unitCount_milliseconds]
  simp only [Checked.Fits, subDay, nanosPerSecond] at hnanos ⊢
  omega

/-! ## Making up the whole -/

theorem clock_sum (seconds : Int) :
    seconds.tdiv 3600 * 3600 + (seconds.tdiv 60).tmod 60 * 60 + seconds.tmod 60 = seconds := by
  have hhours := Int.tdiv_mul_add_tmod (seconds.tdiv 60) 60
  have hminutes := Int.tdiv_mul_add_tmod seconds 60
  have hnested : (seconds.tdiv 60).tdiv 60 = seconds.tdiv 3600 :=
    Checked.tdiv_tdiv seconds 60 60
  omega

/-- Months and seconds are made up of their components, and the counts of nanoseconds and
milliseconds are exact, but for some parts of the one second in which the count passes the least
word. -/
theorem components_exact_iff (duration : Duration) :
    (∃ years monthsOfYear, duration.component "years" = some years ∧
      duration.component "monthsOfYear" = some monthsOfYear ∧
      duration.component "months" = some duration.months.toInt ∧
      years * 12 + monthsOfYear = duration.months.toInt ∧ monthsOfYear.natAbs < 12) ∧
    (∃ hours minutes minutesOfHour secondsOfMinute, duration.component "hours" = some hours ∧
      duration.component "minutes" = some minutes ∧
      duration.component "minutesOfHour" = some minutesOfHour ∧
      duration.component "secondsOfMinute" = some secondsOfMinute ∧
      duration.component "seconds" = some duration.seconds.toInt ∧
      hours * 3600 + minutesOfHour * 60 + secondsOfMinute = duration.seconds.toInt ∧
      minutes * 60 + secondsOfMinute = duration.seconds.toInt ∧
      minutesOfHour.natAbs < 60 ∧ secondsOfMinute.natAbs < 60) ∧
    (duration.component "nanoseconds" = shown duration.subDay ↔
      ¬ (duration.seconds.toInt = -9223372037 ∧ 145224192 ≤ duration.nanos)) ∧
    (duration.component "milliseconds" = shown (duration.subDay / 1000000) ↔
      ¬ (duration.seconds.toInt = -9223372036854776 ∧ 192000000 ≤ duration.nanos)) := by
  refine ⟨⟨_, _, rfl, rfl, rfl, Int.tdiv_mul_add_tmod _ 12, ?_⟩,
    ⟨_, _, _, _, rfl, rfl, rfl, rfl, rfl, clock_sum _, Int.tdiv_mul_add_tmod _ 60, ?_, ?_⟩,
    nanoseconds_eq_shown_iff duration, milliseconds_eq_shown_iff duration⟩
  · exact Checked.natAbs_tmod_lt _ (by decide)
  · exact Checked.natAbs_tmod_lt _ (by decide)
  · exact Checked.natAbs_tmod_lt _ (by decide)

/-- The last nanosecond of the second that holds the least count of nanoseconds, and that of the
second that holds the least count of milliseconds.  Both counts fit a word and neither is shown. -/
theorem components_nearLeast :
    ((ofFields 0 0 (-9223372037) 999999999).component "nanoseconds" = none ∧
      shown (ofFields 0 0 (-9223372037) 999999999).subDay = some (-9223372036000000001)) ∧
    ((ofFields 0 0 (-9223372036854776) 999999999).component "milliseconds" = none ∧
      shown ((ofFields 0 0 (-9223372036854776) 999999999).subDay / 1000000) =
        some (-9223372036854775001)) := by
  decide

end CypherExpr.Duration
