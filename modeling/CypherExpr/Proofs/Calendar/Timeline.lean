import CypherExpr.Calendar.Clock
import CypherExpr.Proofs.Calendar.DayNumbers

/-!
# Moments and their shifts

Outside leap seconds moments are told apart by their nanoseconds, and a shift adds to these.  A
shift within a leap second does so too; only one that passes the end of a leap second gets a second
less far.  A leap second that is left cannot be entered again, and this is all that keeps two shifts
from being one.  A datetime has a moment to itself, so it is shifted as its moment is, if the span
of dates reaches that far.  A time of day shares its moment with every other day.
-/

namespace CypherExpr

namespace Moment

variable {moment : Moment} {nanos : Int}

/-! ## Nanoseconds -/

theorem nanos_ofNanos (nanos : Int) : (ofNanos nanos).nanos = nanos := by
  simp only [Moment.nanos, ofNanos, nanosPerSecond]
  omega

theorem not_isLeap_ofNanos (nanos : Int) : ¬ (ofNanos nanos).IsLeap := by
  simp only [IsLeap, ofNanos, nanosPerSecond]
  omega

theorem ofNanos_nanos (hleap : ¬ moment.IsLeap) : ofNanos moment.nanos = moment := by
  simp only [IsLeap, nanosPerSecond] at hleap
  ext
  · simp only [ofNanos, Moment.nanos, nanosPerSecond]
    omega
  · simp only [ofNanos, Moment.nanos, nanosPerSecond]
    omega

theorem ofNanos_inj {left right : Int} : ofNanos left = ofNanos right ↔ left = right := by
  constructor
  · intro hmoment
    rw [← nanos_ofNanos left, hmoment, nanos_ofNanos]
  · rintro rfl
    rfl

/-! ## Shifts -/

theorem not_leapEnds_of_leapLasts (hlasts : moment.LeapLasts nanos) : ¬ moment.LeapEnds nanos :=
  fun hends => Int.not_le.mpr hlasts.2.2 hends.2

theorem shift_of_leapLasts (hlasts : moment.LeapLasts nanos) :
    (moment.shift nanos).second = moment.second ∧
      (moment.shift nanos).fraction = moment.fraction + nanos := by
  have hbegun := hlasts.2.1
  rw [shift, dif_pos hlasts]
  exact ⟨rfl, Int.toNat_of_nonneg (Int.le_trans (Int.natCast_nonneg _) hbegun)⟩

theorem shift_of_leapEnds (hends : moment.LeapEnds nanos) :
    moment.shift nanos = ofNanos (moment.nanos + nanos - nanosPerSecond) := by
  have hover : ¬ moment.LeapLasts nanos := fun hlasts => not_leapEnds_of_leapLasts hlasts hends
  rw [shift, dif_neg hover, if_pos hends]

theorem shift_of_not_leap (hlasts : ¬ moment.LeapLasts nanos) (hends : ¬ moment.LeapEnds nanos) :
    moment.shift nanos = ofNanos (moment.nanos + nanos) := by
  rw [shift, dif_neg hlasts, if_neg hends]

theorem shift_of_not_isLeap (hleap : ¬ moment.IsLeap) :
    moment.shift nanos = ofNanos (moment.nanos + nanos) :=
  shift_of_not_leap (fun hlasts => hleap hlasts.1) (fun hends => hleap hends.1)

theorem nanos_shift_of_leapEnds (hends : moment.LeapEnds nanos) :
    (moment.shift nanos).nanos = moment.nanos + nanos - nanosPerSecond := by
  rw [shift_of_leapEnds hends, nanos_ofNanos]

theorem nanos_shift (hends : ¬ moment.LeapEnds nanos) :
    (moment.shift nanos).nanos = moment.nanos + nanos := by
  by_cases hlasts : moment.LeapLasts nanos
  · obtain ⟨hsecond, hfraction⟩ := shift_of_leapLasts hlasts
    rw [Moment.nanos, Moment.nanos, hsecond, hfraction, Int.add_assoc]
  · rw [shift_of_not_leap hlasts hends, nanos_ofNanos]

theorem isLeap_shift_iff : (moment.shift nanos).IsLeap ↔ moment.LeapLasts nanos := by
  constructor
  · intro hleap
    by_contra hlasts
    by_cases hends : moment.LeapEnds nanos
    · rw [shift_of_leapEnds hends] at hleap
      exact not_isLeap_ofNanos _ hleap
    · rw [shift_of_not_leap hlasts hends] at hleap
      exact not_isLeap_ofNanos _ hleap
  · intro hlasts
    have hfraction := (shift_of_leapLasts hlasts).2
    obtain ⟨_, hbegun, _⟩ := hlasts
    rw [IsLeap]
    omega

theorem shift_zero (moment : Moment) : moment.shift 0 = moment := by
  by_cases hleap : moment.IsLeap
  · have hbound := moment.fraction_lt
    have hbegun : nanosPerSecond ≤ moment.fraction := hleap
    have hlasts : moment.LeapLasts 0 := ⟨hleap, by omega, by omega⟩
    obtain ⟨hsecond, hfraction⟩ := shift_of_leapLasts hlasts
    ext
    · exact hsecond
    · omega
  · rw [shift_of_not_isLeap hleap, Int.add_zero, ofNanos_nanos hleap]

/-- Two shifts are one, unless the first leaves a leap second. -/
theorem shift_shift {more : Int} (hstays : moment.IsLeap → (moment.shift nanos).IsLeap) :
    (moment.shift nanos).shift more = moment.shift (nanos + more) := by
  by_cases hleap : moment.IsLeap
  · have hlasts : moment.LeapLasts nanos := isLeap_shift_iff.mp (hstays hleap)
    obtain ⟨hsecond, hfraction⟩ := shift_of_leapLasts hlasts
    have hlastsIff : (moment.shift nanos).LeapLasts more ↔ moment.LeapLasts (nanos + more) := by
      rw [LeapLasts, LeapLasts, hfraction, Int.add_assoc]
      exact and_congr_left fun _ => iff_of_true (hstays hleap) hleap
    have hendsIff : (moment.shift nanos).LeapEnds more ↔ moment.LeapEnds (nanos + more) := by
      rw [LeapEnds, LeapEnds, hfraction, Int.add_assoc]
      exact and_congr_left fun _ => iff_of_true (hstays hleap) hleap
    have hnanos := nanos_shift (not_leapEnds_of_leapLasts hlasts)
    by_cases hlonger : moment.LeapLasts (nanos + more)
    · obtain ⟨hsecond', hfraction'⟩ := shift_of_leapLasts (hlastsIff.mpr hlonger)
      obtain ⟨hsecond'', hfraction''⟩ := shift_of_leapLasts hlonger
      ext
      · rw [hsecond', hsecond, hsecond'']
      · omega
    · by_cases hover : moment.LeapEnds (nanos + more)
      · rw [shift_of_leapEnds (hendsIff.mpr hover), shift_of_leapEnds hover, hnanos, Int.add_assoc]
      · rw [shift_of_not_leap (mt hlastsIff.mp hlonger) (mt hendsIff.mp hover),
          shift_of_not_leap hlonger hover, hnanos, Int.add_assoc]
  · rw [shift_of_not_isLeap hleap, shift_of_not_isLeap (not_isLeap_ofNanos _), nanos_ofNanos,
      shift_of_not_isLeap hleap, Int.add_assoc]

/-- Where the first of two shifts leaves a leap second, they are one shift if it leaves it on the
same side. -/
theorem shift_shift_of_left {more : Int} (hleft : ¬ (moment.shift nanos).IsLeap) :
    (moment.shift nanos).shift more = moment.shift (nanos + more) ↔
      ¬ moment.LeapLasts (nanos + more) ∧
        (moment.LeapEnds nanos ↔ moment.LeapEnds (nanos + more)) := by
  rw [shift_of_not_isLeap hleft]
  by_cases hlasts : moment.LeapLasts (nanos + more)
  · have hleap : (moment.shift (nanos + more)).IsLeap := isLeap_shift_iff.mpr hlasts
    have hdiffer : ofNanos ((moment.shift nanos).nanos + more) ≠ moment.shift (nanos + more) := by
      intro hmoment
      rw [← hmoment] at hleap
      exact not_isLeap_ofNanos _ hleap
    exact iff_of_false hdiffer fun hsides => hsides.1 hlasts
  · have hsecond : (0 : Int) < nanosPerSecond := by decide
    by_cases hends : moment.LeapEnds nanos <;> by_cases hends' : moment.LeapEnds (nanos + more)
    · rw [nanos_shift_of_leapEnds hends, shift_of_leapEnds hends', ofNanos_inj]
      exact iff_of_true (by omega) ⟨hlasts, iff_of_true hends hends'⟩
    · rw [nanos_shift_of_leapEnds hends, shift_of_not_leap hlasts hends', ofNanos_inj]
      exact iff_of_false (by omega) fun hsides => hends' (hsides.2.mp hends)
    · rw [nanos_shift hends, shift_of_leapEnds hends', ofNanos_inj]
      exact iff_of_false (by omega) fun hsides => hends (hsides.2.mpr hends')
    · rw [nanos_shift hends, shift_of_not_leap hlasts hends', ofNanos_inj]
      exact iff_of_true (by omega) ⟨hlasts, iff_of_false hends hends'⟩

/-- A shift is undone by its opposite, unless it leaves a leap second. -/
theorem shift_neg_iff :
    (moment.shift nanos).shift (-nanos) = moment ↔
      (moment.IsLeap → (moment.shift nanos).IsLeap) := by
  constructor
  · intro hback hleap
    rw [← hback, isLeap_shift_iff] at hleap
    exact hleap.1
  · intro hstays
    rw [shift_shift hstays, Int.add_right_neg, shift_zero]

/-! ## Whole seconds -/

theorem nanos_shiftSeconds (moment : Moment) (seconds : Int) :
    (moment.shiftSeconds seconds).nanos = moment.nanos + seconds * nanosPerSecond := by
  rw [Moment.nanos, Moment.nanos, shiftSeconds, Int.add_mul, Int.add_right_comm]

theorem shiftSeconds_zero (moment : Moment) : moment.shiftSeconds 0 = moment := by
  rw [shiftSeconds, Int.add_zero]

theorem shiftSeconds_shiftSeconds (moment : Moment) (seconds more : Int) :
    (moment.shiftSeconds seconds).shiftSeconds more = moment.shiftSeconds (seconds + more) := by
  rw [shiftSeconds, shiftSeconds, shiftSeconds, Int.add_assoc]

theorem shiftSeconds_inj {other : Moment} {seconds : Int} :
    moment.shiftSeconds seconds = other.shiftSeconds seconds ↔ moment = other := by
  constructor
  · intro hshifted
    have hback := congrArg (shiftSeconds · (-seconds)) hshifted
    simpa only [shiftSeconds_shiftSeconds, Int.add_right_neg, shiftSeconds_zero] using hback
  · rintro rfl
    rfl

theorem shiftSeconds_ofNanos (nanos seconds : Int) :
    (ofNanos nanos).shiftSeconds seconds = ofNanos (nanos + seconds * nanosPerSecond) := by
  have hshifted : ¬ ((ofNanos nanos).shiftSeconds seconds).IsLeap := not_isLeap_ofNanos nanos
  have hplace : ((ofNanos nanos).shiftSeconds seconds).nanos =
      nanos + seconds * nanosPerSecond := by
    rw [nanos_shiftSeconds, nanos_ofNanos]
  rw [← hplace, ofNanos_nanos hshifted]

/-- It does not matter whether the seconds or the nanoseconds come first. -/
theorem shift_shiftSeconds (moment : Moment) (seconds nanos : Int) :
    (moment.shiftSeconds seconds).shift nanos = (moment.shift nanos).shiftSeconds seconds := by
  by_cases hlasts : moment.LeapLasts nanos
  · obtain ⟨hsecond, hfraction⟩ := shift_of_leapLasts hlasts
    have hlasts' : (moment.shiftSeconds seconds).LeapLasts nanos := hlasts
    obtain ⟨hsecond', hfraction'⟩ := shift_of_leapLasts hlasts'
    ext
    · rw [hsecond', shiftSeconds, shiftSeconds, hsecond]
    · exact Int.ofNat.inj (hfraction'.trans hfraction.symm)
  · by_cases hends : moment.LeapEnds nanos
    · have hends' : (moment.shiftSeconds seconds).LeapEnds nanos := hends
      rw [shift_of_leapEnds hends, shift_of_leapEnds hends', shiftSeconds_ofNanos,
        nanos_shiftSeconds]
      congr 1
      omega
    · have hlasts' : ¬ (moment.shiftSeconds seconds).LeapLasts nanos := hlasts
      have hends' : ¬ (moment.shiftSeconds seconds).LeapEnds nanos := hends
      rw [shift_of_not_leap hlasts hends, shift_of_not_leap hlasts' hends', shiftSeconds_ofNanos,
        nanos_shiftSeconds, Int.add_right_comm]

/-! ## Days and nanoseconds -/

/-- The moment a number of days and then a number of nanoseconds later. -/
def advance (moment : Moment) (days nanos : Int) : Moment :=
  (moment.shiftSeconds (days * 86400)).shift nanos

variable {days : Int}

theorem advance_eq (moment : Moment) (days nanos : Int) :
    moment.advance days nanos = (moment.shift nanos).shiftSeconds (days * 86400) :=
  shift_shiftSeconds moment _ nanos

theorem advance_shiftSeconds (moment : Moment) (seconds days nanos : Int) :
    (moment.shiftSeconds seconds).advance days nanos =
      (moment.advance days nanos).shiftSeconds seconds := by
  rw [advance_eq, advance_eq, shift_shiftSeconds, shiftSeconds_shiftSeconds,
    shiftSeconds_shiftSeconds, Int.add_comm]

theorem isLeap_advance_iff :
    (moment.advance days nanos).IsLeap ↔ (moment.shift nanos).IsLeap := by
  rw [advance_eq]
  exact Iff.rfl

theorem nanos_advance (hends : ¬ moment.LeapEnds nanos) :
    (moment.advance days nanos).nanos = moment.nanos + (days * nanosPerDay + nanos) := by
  rw [advance_eq, nanos_shiftSeconds, nanos_shift hends, Int.mul_assoc, Int.add_assoc,
    Int.add_comm nanos]
  rfl

theorem nanos_advance_of_leapEnds (hends : moment.LeapEnds nanos) :
    (moment.advance days nanos).nanos =
      moment.nanos + (days * nanosPerDay + nanos) - nanosPerSecond := by
  have hday : (nanosPerDay : Int) = 86400 * nanosPerSecond := rfl
  rw [advance_eq, nanos_shiftSeconds, nanos_shift_of_leapEnds hends, hday, Int.mul_assoc]
  omega

/-- Two advances are one, unless the first leaves a leap second and both together do not leave it on
the same side. -/
theorem advance_advance_iff (moreDays : Int) {more : Int} :
    (moment.advance days nanos).advance moreDays more =
        moment.advance (days + moreDays) (nanos + more) ↔
      (moment.IsLeap → (moment.advance days nanos).IsLeap) ∨
        ¬ moment.LeapLasts (nanos + more) ∧
          (moment.LeapEnds nanos ↔ moment.LeapEnds (nanos + more)) := by
  rw [isLeap_advance_iff, advance_eq moment days, advance_shiftSeconds, advance_eq, advance_eq,
    shiftSeconds_shiftSeconds, ← Int.add_mul, Int.add_comm moreDays, shiftSeconds_inj]
  by_cases hstays : moment.IsLeap → (moment.shift nanos).IsLeap
  · exact iff_of_true (shift_shift hstays) (.inl hstays)
  · have hleft : ¬ (moment.shift nanos).IsLeap := fun hleap => hstays fun _ => hleap
    rw [shift_shift_of_left hleft, or_iff_right hstays]

theorem advance_neg_iff :
    (moment.advance days nanos).advance (-days) (-nanos) = moment ↔
      (moment.IsLeap → (moment.advance days nanos).IsLeap) := by
  rw [isLeap_advance_iff, advance_eq moment, advance_shiftSeconds, advance_eq,
    shiftSeconds_shiftSeconds, Int.neg_mul, Int.add_left_neg, shiftSeconds_zero, shift_neg_iff]

end Moment

namespace TimeOfDay

/-- A clock shows the same on every day. -/
theorem ofMoment_shiftSeconds (moment : Moment) (days : Int) :
    ofMoment (moment.shiftSeconds (days * 86400)) = ofMoment moment := by
  simp only [ofMoment, Moment.shiftSeconds, Int.add_mul_emod_self_right]

theorem ofMoment_moment (time : TimeOfDay) : ofMoment time.moment = time := by
  obtain ⟨seconds, fraction, hseconds, hfraction⟩ := time
  have hday : ((seconds : Int) % 86400).toNat = seconds := by omega
  simp only [ofMoment, moment, hday]

theorem moment_ofMoment (moment : Moment) :
    (ofMoment moment).moment = moment.shiftSeconds (-(moment.second / 86400) * 86400) := by
  ext
  · simp only [TimeOfDay.moment, ofMoment, Moment.shiftSeconds]
    omega
  · rfl

theorem nanos_ofMoment {moment : Moment} (hleap : ¬ moment.IsLeap) :
    (ofMoment moment).nanos = moment.nanos % nanosPerDay := by
  simp only [Moment.IsLeap, nanosPerSecond] at hleap
  simp only [nanos, TimeOfDay.moment, ofMoment, Moment.nanos, nanosPerDay, nanosPerSecond]
  omega

section

variable {time : TimeOfDay} {nanos : Int}

theorem isLeap_shift_iff : (time.shift nanos).IsLeap ↔ time.moment.LeapLasts nanos :=
  Moment.isLeap_shift_iff

theorem nanos_shift_of_leapLasts (hlasts : time.moment.LeapLasts nanos) :
    (time.shift nanos).IsLeap ∧ (time.shift nanos).nanos = time.nanos + nanos := by
  refine ⟨isLeap_shift_iff.mpr hlasts, ?_⟩
  have hsecond := (Moment.shift_of_leapLasts hlasts).1
  have hday : (time.moment.shift nanos).second / 86400 = 0 := by
    rw [hsecond]
    exact Int.ediv_eq_zero_of_lt (Int.natCast_nonneg _) (Int.ofNat_lt.mpr time.seconds_lt)
  rw [TimeOfDay.nanos, TimeOfDay.nanos, shift, moment_ofMoment, hday, Int.neg_zero, Int.zero_mul,
    Moment.shiftSeconds_zero, Moment.nanos_shift (Moment.not_leapEnds_of_leapLasts hlasts)]

theorem nanos_shift_of_leapEnds (hends : time.moment.LeapEnds nanos) :
    (time.shift nanos).nanos = (time.nanos + nanos - nanosPerSecond) % nanosPerDay := by
  have hleap : ¬ (time.moment.shift nanos).IsLeap := fun hleap =>
    Moment.not_leapEnds_of_leapLasts (Moment.isLeap_shift_iff.mp hleap) hends
  rw [shift, nanos_ofMoment hleap, Moment.nanos_shift_of_leapEnds hends, TimeOfDay.nanos]

theorem nanos_shift (hlasts : ¬ time.moment.LeapLasts nanos)
    (hends : ¬ time.moment.LeapEnds nanos) :
    (time.shift nanos).nanos = (time.nanos + nanos) % nanosPerDay := by
  rw [shift, nanos_ofMoment (mt Moment.isLeap_shift_iff.mp hlasts), Moment.nanos_shift hends,
    TimeOfDay.nanos]

/-- Days that pass between two shifts do not matter. -/
theorem shift_shift (time : TimeOfDay) (nanos more : Int) :
    (time.shift nanos).shift more = ofMoment ((time.moment.shift nanos).shift more) := by
  rw [shift, shift, moment_ofMoment, Moment.shift_shiftSeconds, ofMoment_shiftSeconds]

/-- A shift around the clock is undone by its opposite, unless it leaves a leap second. -/
theorem shift_neg_iff :
    (time.shift nanos).shift (-nanos) = time ↔ (time.IsLeap → (time.shift nanos).IsLeap) := by
  constructor
  · intro hback hleap
    rw [← hback, isLeap_shift_iff] at hleap
    exact hleap.1
  · intro hstays
    rw [shift_shift, Moment.shift_neg_iff.mpr hstays, ofMoment_moment]

end

end TimeOfDay

namespace LocalDateTime

variable {point later : LocalDateTime}

/-- A datetime is found at its moment, and at no other. -/
theorem ofMoment?_eq_some_iff {moment : Moment} :
    ofMoment? moment = some point ↔ point.moment = moment := by
  simp only [ofMoment?, Option.map_eq_some_iff, Date.ofDayNumber?_eq_some_iff]
  constructor
  · rintro ⟨date, hdate, rfl⟩
    rw [LocalDateTime.moment, TimeOfDay.moment_ofMoment, Moment.shiftSeconds_shiftSeconds, hdate,
      Int.neg_mul, Int.add_left_neg, Moment.shiftSeconds_zero]
  · rintro rfl
    have hseconds := point.time.seconds_lt
    refine ⟨point.date, ?_, ?_⟩
    · simp only [LocalDateTime.moment, Moment.shiftSeconds, TimeOfDay.moment]
      omega
    · rw [LocalDateTime.moment, TimeOfDay.ofMoment_shiftSeconds, TimeOfDay.ofMoment_moment]

theorem moment_injective (hmoment : point.moment = later.moment) : point = later := by
  have hpoint := ofMoment?_eq_some_iff.mpr hmoment
  rw [ofMoment?_eq_some_iff.mpr rfl] at hpoint
  exact (Option.some.inj hpoint).symm

theorem shift_eq_some_iff {nanos : Int} :
    point.shift nanos = some later ↔ later.moment = point.moment.shift nanos :=
  ofMoment?_eq_some_iff

end LocalDateTime

namespace ZonedDateTime

variable {point later : ZonedDateTime}

theorem fields_of_make? {clock : LocalDateTime} {offset : Int}
    (hmade : make? clock offset = some point) : point.clock = clock ∧ point.offset = offset := by
  unfold make? at hmade
  split at hmade
  · split at hmade
    · cases hmade
      exact ⟨rfl, rfl⟩
    · cases hmade
  · cases hmade

/-- In one zone the moment tells datetimes apart. -/
theorem eq_of_moment_eq (hoffset : point.offset = later.offset)
    (hmoment : point.moment = later.moment) : point = later := by
  have hclock : point.clock = later.clock := by
    apply LocalDateTime.moment_injective
    rw [moment, moment, hoffset] at hmoment
    exact Moment.shiftSeconds_inj.mp hmoment
  cases point
  cases later
  cases hoffset
  cases hclock
  rfl

end ZonedDateTime

end CypherExpr
