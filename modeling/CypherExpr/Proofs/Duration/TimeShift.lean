import CypherExpr.Proofs.Calendar.Timeline
import CypherExpr.Proofs.Duration.DateShift
import CypherExpr.Proofs.Evaluation.Operators

/-!
# Datetimes and times moved by durations

Without months, a duration is so many days and nanoseconds, and it advances the moment of every
datetime by just these: the steps through the calendar, the clock and the zone come to nothing else.
Outside leap seconds this is a translation, so that what was added can be subtracted again, and two
durations can be added one after the other or at once.  A leap second that a duration leaves is lost
to both.  A time of day is moved around the clock by the part below a day alone.
-/

namespace CypherExpr

namespace Value

/-- A local datetime at a moment on the clock on the wall, which is in no zone, or a zoned one at a
moment in UTC with its offset. -/
inductive IsAt : Value → Option Int → Moment → Prop where
  | localDateTime {point : LocalDateTime} {moment : Moment} (hmoment : point.moment = moment) :
      IsAt (.localDateTime point) none moment
  | dateTime {point : ZonedDateTime} {offset : Int} {moment : Moment}
      (hoffset : point.offset = offset) (hmoment : point.moment = moment) :
      IsAt (.dateTime point) (some offset) moment

variable {zone : Option Int} {moment : Moment} {first second : Value}

theorem IsAt.isPoint (hfirst : first.IsAt zone moment) : Arithmetic.IsPoint first := by
  cases hfirst with
  | localDateTime _ => exact .localDateTime _
  | dateTime _ _ => exact .dateTime _

/-- In one zone there is one datetime at a moment. -/
theorem IsAt.unique (hfirst : first.IsAt zone moment) (hsecond : second.IsAt zone moment) :
    first = second := by
  cases hfirst with
  | localDateTime hmoment =>
      cases hsecond with
      | localDateTime hmoment' =>
          exact congrArg Value.localDateTime
            (LocalDateTime.moment_injective (hmoment.trans hmoment'.symm))
  | dateTime hoffset hmoment =>
      cases hsecond with
      | dateTime hoffset' hmoment' =>
          exact congrArg Value.dateTime (ZonedDateTime.eq_of_moment_eq
            (hoffset.trans hoffset'.symm) (hmoment.trans hmoment'.symm))

theorem IsAt.moment_unique {other : Moment} (hfirst : first.IsAt zone moment)
    (hother : first.IsAt zone other) : moment = other := by
  cases hfirst with
  | localDateTime hmoment =>
      cases hother with
      | localDateTime hmoment' => exact hmoment.symm.trans hmoment'
  | dateTime _ hmoment =>
      cases hother with
      | dateTime _ hmoment' => exact hmoment.symm.trans hmoment'

end Value

namespace Duration

/-! ## Advances of datetimes -/

section

variable {duration left right : Duration}

theorem months_eq_zero_iff : duration.months = 0 ↔ duration.months.toInt = 0 :=
  Int64.toInt_inj.symm

theorem fields_of_negate {negated : Duration} (hmonths : duration.months = 0)
    (hnegated : duration.negate = some negated) :
    negated.months = 0 ∧ negated.days.toInt = -duration.days.toInt ∧
      negated.subDay = -duration.subDay := by
  rw [months_eq_zero_iff] at hmonths ⊢
  rw [negate_eq, ofExact?_eq_some_iff] at hnegated
  obtain ⟨hnegatedMonths, hdays, hsubDay⟩ := hnegated
  rw [hnegatedMonths, hmonths, Int.neg_zero]
  exact ⟨rfl, hdays, hsubDay⟩

theorem fields_of_add {sum : Duration} (hleft : left.months = 0) (hright : right.months = 0)
    (hsum : left.add right = some sum) :
    sum.months = 0 ∧ sum.days.toInt = left.days.toInt + right.days.toInt ∧
      sum.subDay = left.subDay + right.subDay := by
  rw [months_eq_zero_iff] at hleft hright ⊢
  rw [add_eq, ofExact?_eq_some_iff] at hsum
  obtain ⟨hmonths, hdays, hsubDay⟩ := hsum
  rw [hmonths, hleft, hright, Int.add_zero]
  exact ⟨rfl, hdays, hsubDay⟩

theorem eq_subDay_of_clockShift {nanos : Int} (hshift : duration.clockShift = some nanos) :
    nanos = duration.subDay := by
  unfold clockShift at hshift
  split at hshift
  · cases hshift
    rfl
  · cases hshift

theorem moment_of_addToLocal {point later : LocalDateTime} (hmonths : duration.months = 0)
    (hlater : duration.addToLocal point = some later) :
    later.moment = point.moment.advance duration.days.toInt duration.subDay := by
  simp only [addToLocal, months_eq_zero_iff.mp hmonths, Option.bind_eq_some_iff,
    Date.shiftMonths_eq_some_iff, Date.monthsLater_zero_iff, exists_eq_left,
    Date.shiftDays_eq_some_iff, LocalDateTime.shift_eq_some_iff] at hlater
  obtain ⟨date, hdate, nanos, hnanos, hmoment⟩ := hlater
  have hbetween : LocalDateTime.moment ⟨date, point.time⟩ =
      point.moment.shiftSeconds (duration.days.toInt * 86400) := by
    rw [LocalDateTime.moment, LocalDateTime.moment, Moment.shiftSeconds_shiftSeconds, hdate,
      Int.add_mul]
  rw [hmoment, hbetween, eq_subDay_of_clockShift hnanos, Moment.advance]

theorem moment_of_addToZoned {point later : ZonedDateTime} (hmonths : duration.months = 0)
    (hlater : duration.addToZoned point = some later) :
    later.offset = point.offset ∧
      later.moment = point.moment.advance duration.days.toInt duration.subDay := by
  obtain ⟨clock, hclock, hmade⟩ := Option.bind_eq_some_iff.mp hlater
  obtain ⟨hlaterClock, hoffset⟩ := ZonedDateTime.fields_of_make? hmade
  refine ⟨hoffset, ?_⟩
  rw [ZonedDateTime.moment, ZonedDateTime.moment, hlaterClock, hoffset,
    moment_of_addToLocal hmonths hclock, Moment.advance_shiftSeconds]

end

section

variable {duration : Duration} {zone : Option Int} {moment : Moment} {point later : Value}

theorem isAt_of_shift? (hmonths : duration.months = 0) (hpoint : point.IsAt zone moment)
    (hlater : Arithmetic.shift? duration point = some (some later)) :
    later.IsAt zone (moment.advance duration.days.toInt duration.subDay) := by
  cases hpoint with
  | localDateTime hmoment =>
      obtain ⟨_, hmoved, rfl⟩ := Option.map_eq_some_iff.mp (Option.some.inj hlater)
      rw [← hmoment]
      exact .localDateTime (moment_of_addToLocal hmonths hmoved)
  | dateTime hoffset hmoment =>
      obtain ⟨_, hmoved, rfl⟩ := Option.map_eq_some_iff.mp (Option.some.inj hlater)
      obtain ⟨hoffset', hmoment'⟩ := moment_of_addToZoned hmonths hmoved
      rw [← hmoment]
      exact .dateTime (hoffset'.trans hoffset) hmoment'

theorem isAt_of_add (hmonths : duration.months = 0) (hpoint : point.IsAt zone moment)
    (hlater : Arithmetic.add point (.duration duration) = .ok later) :
    later.IsAt zone (moment.advance duration.days.toInt duration.subDay) :=
  isAt_of_shift? hmonths hpoint ((Arithmetic.add_duration_eq_ok_iff hpoint.isPoint).mp hlater)

theorem isAt_of_subtract (hmonths : duration.months = 0) (hpoint : point.IsAt zone moment)
    (hearlier : Arithmetic.subtract point (.duration duration) = .ok later) :
    later.IsAt zone (moment.advance (-duration.days.toInt) (-duration.subDay)) := by
  rw [Arithmetic.subtract_duration_eq_ok_iff hpoint.isPoint] at hearlier
  obtain ⟨negated, hnegated, hmoved⟩ := hearlier
  obtain ⟨hnegatedMonths, hdays, hsubDay⟩ := fields_of_negate hmonths hnegated
  rw [← hdays, ← hsubDay]
  exact isAt_of_shift? hnegatedMonths hpoint hmoved

/-- What is subtracted again leads back, unless a leap second was left. -/
theorem eq_iff_of_add_of_subtract {back : Value} (hmonths : duration.months = 0)
    (hpoint : point.IsAt zone moment)
    (hlater : Arithmetic.add point (.duration duration) = .ok later)
    (hback : Arithmetic.subtract later (.duration duration) = .ok back) :
    back = point ↔
      (moment.IsLeap → (moment.advance duration.days.toInt duration.subDay).IsLeap) := by
  have hreturned := isAt_of_subtract hmonths (isAt_of_add hmonths hpoint hlater) hback
  rw [← Moment.advance_neg_iff]
  constructor
  · rintro rfl
    exact hreturned.moment_unique hpoint
  · intro hmoment
    rw [hmoment] at hreturned
    exact hreturned.unique hpoint

/-- Two durations lead as far in turn as at once, unless the first leaves a leap second and both
together do not leave it on the same side. -/
theorem eq_iff_of_add_of_add {more sum : Duration} {inTurn atOnce : Value}
    (hmonths : duration.months = 0) (hmore : more.months = 0) (hpoint : point.IsAt zone moment)
    (hlater : Arithmetic.add point (.duration duration) = .ok later)
    (hinTurn : Arithmetic.add later (.duration more) = .ok inTurn)
    (hsum : duration.add more = some sum)
    (hatOnce : Arithmetic.add point (.duration sum) = .ok atOnce) :
    inTurn = atOnce ↔
      (moment.IsLeap → (moment.advance duration.days.toInt duration.subDay).IsLeap) ∨
        ¬ moment.LeapLasts (duration.subDay + more.subDay) ∧
          (moment.LeapEnds duration.subDay ↔
            moment.LeapEnds (duration.subDay + more.subDay)) := by
  have hfurther := isAt_of_add hmore (isAt_of_add hmonths hpoint hlater) hinTurn
  obtain ⟨hsumMonths, hdays, hsubDay⟩ := fields_of_add hmonths hmore hsum
  have htogether := isAt_of_add hsumMonths hpoint hatOnce
  rw [hdays, hsubDay] at htogether
  rw [← Moment.advance_advance_iff more.days.toInt]
  constructor
  · rintro rfl
    exact hfurther.moment_unique htogether
  · intro hmoment
    rw [hmoment] at hfurther
    exact hfurther.unique htogether

end

theorem add_dateTime_eq_ok {duration : Duration} {point later : ZonedDateTime}
    (hlater : duration.addToZoned point = some later) :
    Arithmetic.add (.dateTime point) (.duration duration) = .ok (.dateTime later) := by
  apply (Arithmetic.add_duration_eq_ok_iff (.dateTime point)).mpr
  rw [Arithmetic.shift?, hlater]
  rfl

/-! ## Turns around the clock -/

theorem eq_shift_of_addToTime {duration : Duration} {time later : TimeOfDay}
    (hlater : duration.addToTime time = some later) : later = time.shift duration.subDay := by
  obtain ⟨nanos, hnanos, rfl⟩ := Option.map_eq_some_iff.mp hlater
  rw [eq_subDay_of_clockShift hnanos]

theorem exists_of_shift?_time {duration : Duration} {time : TimeOfDay} {later : Value}
    (hlater : Arithmetic.shift? duration (.time time) = some (some later)) :
    ∃ moved, duration.addToTime time = some moved ∧ later = .time moved := by
  obtain ⟨moved, hmoved, rfl⟩ := Option.map_eq_some_iff.mp (Option.some.inj hlater)
  exact ⟨moved, hmoved, rfl⟩

theorem eq_time_of_add {duration : Duration} {time later : TimeOfDay} {moved : Value}
    (hlater : duration.addToTime time = some later)
    (hadd : Arithmetic.add (.time time) (.duration duration) = .ok moved) :
    moved = .time later := by
  rw [Arithmetic.add_duration_eq_ok_iff (.time time)] at hadd
  obtain ⟨other, hother, rfl⟩ := exists_of_shift?_time hadd
  exact congrArg Value.time (Option.some.inj (hother.symm.trans hlater))

/-- What is subtracted again leads to the time from which it was added, unless a leap second was
left. -/
theorem eq_iff_of_add_of_subtract_time {duration : Duration} {time later : TimeOfDay}
    {back : Value} (hlater : duration.addToTime time = some later)
    (hback : Arithmetic.subtract (.time later) (.duration duration) = .ok back) :
    back = .time time ↔ (time.IsLeap → later.IsLeap) := by
  rw [Arithmetic.subtract_duration_eq_ok_iff (.time later)] at hback
  obtain ⟨negated, hnegated, hreturned⟩ := hback
  obtain ⟨returned, hreturn, rfl⟩ := exists_of_shift?_time hreturned
  rw [negate_eq, ofExact?_eq_some_iff] at hnegated
  rw [Value.time.injEq, eq_shift_of_addToTime hreturn, eq_shift_of_addToTime hlater, hnegated.2.2]
  exact TimeOfDay.shift_neg_iff

end Duration

namespace Engine

open Duration (ofFields firstOfMarch twoDaysLessHour add_dateTime_eq_ok)

/-- Where expressions have the values of a datetime and of durations without months, a sum of the
datetime and a duration is in the same zone, as many nanoseconds later as the days, seconds and
nanoseconds of the duration come to, or a second less if the end of a leap second has passed.
Subtracting the duration from the sum gives the datetime back, and adding the durations one after
the other gives what adding their sum gives, unless a leap second was left: nothing leads back into
it, and the sum must leave it on the same side as the first duration. -/
theorem evaluate_datetime_translated (engine : Engine) {context : Context}
    {point span other : Expr} {start later : Value} {zone : Option Int} {moment : Moment}
    {duration more : Duration} (hmonths : duration.months = 0) (hmore : more.months = 0)
    (hstart : start.IsAt zone moment)
    (hpoint : engine.evaluate point context = .ok start)
    (hspan : engine.evaluate span context = .ok (.duration duration))
    (hother : engine.evaluate other context = .ok (.duration more))
    (hlater : engine.evaluate (.binary .add point span) context = .ok later) :
    ∃ moved : Moment, later.IsAt zone moved ∧
      (¬ moment.LeapEnds duration.subDay →
        moved.nanos = moment.nanos + (duration.days.toInt * nanosPerDay +
          (duration.seconds.toInt * nanosPerSecond + duration.nanos))) ∧
      (moment.LeapEnds duration.subDay →
        moved.nanos = moment.nanos + (duration.days.toInt * nanosPerDay +
          (duration.seconds.toInt * nanosPerSecond + duration.nanos)) - nanosPerSecond) ∧
      (∀ back,
        engine.evaluate (.binary .subtract (.binary .add point span) span) context = .ok back →
        (back = start ↔ (moment.IsLeap → moved.IsLeap))) ∧
      (∀ inTurn atOnce,
        engine.evaluate (.binary .add (.binary .add point span) other) context = .ok inTurn →
        engine.evaluate (.binary .add point (.binary .add span other)) context = .ok atOnce →
        (inTurn = atOnce ↔ (moment.IsLeap → moved.IsLeap) ∨
          ¬ moment.LeapLasts (duration.subDay + more.subDay) ∧
            (moment.LeapEnds duration.subDay ↔
              moment.LeapEnds (duration.subDay + more.subDay)))) := by
  have hadd := engine.binary_of_evaluate hlater hpoint hspan
  refine ⟨moment.advance duration.days.toInt duration.subDay,
    Duration.isAt_of_add hmonths hstart hadd, Moment.nanos_advance,
    Moment.nanos_advance_of_leapEnds, fun back hback => ?_,
    fun inTurn atOnce hinTurn hatOnce => ?_⟩
  · have hsubtract := engine.binary_of_evaluate hback hlater hspan
    exact Duration.eq_iff_of_add_of_subtract hmonths hstart hadd hsubtract
  · have hfurther := engine.binary_of_evaluate hinTurn hlater hother
    obtain ⟨_, both, hpoint', hboth, htogether⟩ := engine.exists_of_evaluate_binary hatOnce
    cases hpoint.symm.trans hpoint'
    obtain ⟨sum, hsum, rfl⟩ :=
      Arithmetic.exists_of_add_durations (engine.binary_of_evaluate hboth hspan hother)
    exact Duration.eq_iff_of_add_of_add hmonths hmore hstart hadd hfurther hsum htogether

/-- 23:59:59.75 on 28 February 2024, five and a half hours east of UTC. -/
def lateFebruary : ZonedDateTime where
  clock := ⟨⟨2024, 2, 28, by decide⟩, ⟨86399, 750000000, by decide, by decide⟩⟩
  offset := 19800
  offset_lt := by decide
  inSpan := by decide

/-- 22:59:59.25 on 1 March 2024 in the same zone. -/
def earlyMarch : ZonedDateTime where
  clock := ⟨firstOfMarch, ⟨82799, 250000000, by decide, by decide⟩⟩
  offset := 19800
  offset_lt := by decide
  inSpan := by decide

/-- 23:00:00.249999999 on 1 March 2023 in the same zone. -/
def yearBefore : ZonedDateTime where
  clock := ⟨⟨2023, 3, 1, by decide⟩, ⟨82800, 249999999, by decide, by decide⟩⟩
  offset := 19800
  offset_lt := by decide
  inSpan := by decide

/-- 366 days back and all but a nanosecond of a second forth. -/
def leapYearBack : Duration := ofFields 0 (-366) 0 999999999

/-- The datetime and the durations under the names `p`, `d` and `e`. -/
def rowOfMoves : Context :=
  ⟨[("p", .dateTime lateFebruary), ("d", .duration twoDaysLessHour),
    ("e", .duration leapYearBack)], [], []⟩

/-- Two days less an hour and half a second lead over the leap day to 1 March.  From there 366 days
back lead to 1 March of the year before. -/
theorem evaluate_datetime_translated_zoned :
    (twoDaysLessHour.months = 0 ∧ leapYearBack.months = 0 ∧
      (Value.dateTime lateFebruary).IsAt (some 19800) lateFebruary.moment ∧
      standard.evaluate (.variable "p") rowOfMoves = .ok (.dateTime lateFebruary) ∧
      standard.evaluate (.variable "d") rowOfMoves = .ok (.duration twoDaysLessHour) ∧
      standard.evaluate (.variable "e") rowOfMoves = .ok (.duration leapYearBack) ∧
      standard.evaluate (.binary .add (.variable "p") (.variable "d")) rowOfMoves =
        .ok (.dateTime earlyMarch)) ∧
    earlyMarch.moment.nanos = lateFebruary.moment.nanos + 169199500000000 ∧
    (∀ back, standard.evaluate (.binary .subtract (.binary .add (.variable "p") (.variable "d"))
        (.variable "d")) rowOfMoves = .ok back → back = .dateTime lateFebruary) ∧
    ∀ atOnce, standard.evaluate (.binary .add (.variable "p")
        (.binary .add (.variable "d") (.variable "e"))) rowOfMoves = .ok atOnce →
      Value.dateTime yearBefore = atOnce := by
  have hp : standard.evaluate (.variable "p") rowOfMoves = .ok (.dateTime lateFebruary) := rfl
  have hd : standard.evaluate (.variable "d") rowOfMoves = .ok (.duration twoDaysLessHour) := rfl
  have he : standard.evaluate (.variable "e") rowOfMoves = .ok (.duration leapYearBack) := rfl
  have hsum : standard.eval 512 (.binary .add (.variable "p") (.variable "d")) rowOfMoves =
      .ok (.dateTime earlyMarch) := rfl
  have hlater := standard.eval_eq_ok_of_le (Nat.le_succ 512) hsum
  have hfurther : Arithmetic.add (.dateTime earlyMarch) (.duration leapYearBack) =
      .ok (.dateTime yearBefore) := add_dateTime_eq_ok (by decide)
  have hinTurn : standard.evaluate (.binary .add (.binary .add (.variable "p")
      (.variable "d")) (.variable "e")) rowOfMoves = .ok (.dateTime yearBefore) :=
    standard.eval_binary_eq_ok hsum rfl hfurther
  have hstart : (Value.dateTime lateFebruary).IsAt (some 19800) lateFebruary.moment :=
    .dateTime rfl rfl
  have hleap : ¬ lateFebruary.moment.IsLeap := by decide
  have hnanos : earlyMarch.moment.nanos = lateFebruary.moment.nanos + 169199500000000 := by decide
  obtain ⟨_, _, _, _, hback, htogether⟩ := standard.evaluate_datetime_translated
    (by decide) (by decide) hstart hp hd he hlater
  exact ⟨⟨by decide, by decide, hstart, hp, hd, he, hlater⟩, hnanos,
    fun back hevaluate => (hback back hevaluate).mpr fun hmoment => absurd hmoment hleap,
    fun atOnce hatOnce =>
      (htogether _ atOnce hinTurn hatOnce).mpr (.inl fun hmoment => absurd hmoment hleap)⟩

/-! ## A leap second that is left -/

/-- 23:59:60.5. -/
def leapTime : TimeOfDay := ⟨86399, 1500000000, by decide, by decide⟩

/-- 23:59:59.5. -/
def secondBeforeLeap : TimeOfDay := ⟨86399, 500000000, by decide, by decide⟩

/-- 00:00:00.5. -/
def secondAfterLeap : TimeOfDay := ⟨0, 500000000, by decide, by decide⟩

def lastOf2016 : Date := ⟨2016, 12, 31, by decide⟩

def firstOf2017 : Date := ⟨2017, 1, 1, by decide⟩

/-- A datetime and a time within a leap second, a second and its opposite under the names `p`, `t`,
`d` and `e`. -/
def rowOfLeapSecond : Context :=
  ⟨[("p", .localDateTime ⟨lastOf2016, leapTime⟩), ("t", .time leapTime),
    ("d", .duration (ofFields 0 0 1 0)), ("e", .duration (ofFields 0 0 (-1) 0))], [], []⟩

/-- A second after the middle of the leap second at the end of 2016 the clock shows only half of one
more than at its beginning.  A second back from there is the middle of the second before, be it
subtracted or added as its opposite, while the second and its opposite together move nothing. -/
theorem evaluate_datetime_leapSecond :
    standard.evaluate (.binary .add (.variable "p") (.variable "d")) rowOfLeapSecond =
        .ok (.localDateTime ⟨firstOf2017, secondAfterLeap⟩) ∧
      (LocalDateTime.mk firstOf2017 secondAfterLeap).moment.nanos ≠
        (LocalDateTime.mk lastOf2016 leapTime).moment.nanos + 1000000000 ∧
      standard.evaluate (.binary .subtract (.binary .add (.variable "p") (.variable "d"))
        (.variable "d")) rowOfLeapSecond = .ok (.localDateTime ⟨lastOf2016, secondBeforeLeap⟩) ∧
      standard.evaluate (.binary .add (.binary .add (.variable "p") (.variable "d"))
        (.variable "e")) rowOfLeapSecond = .ok (.localDateTime ⟨lastOf2016, secondBeforeLeap⟩) ∧
      standard.evaluate (.binary .add (.variable "p") (.binary .add (.variable "d")
        (.variable "e"))) rowOfLeapSecond = .ok (.localDateTime ⟨lastOf2016, leapTime⟩) ∧
      secondBeforeLeap ≠ leapTime :=
  ⟨rfl, by decide, rfl, rfl, rfl, by decide⟩

/-- A time of day is moved by the seconds and nanoseconds of a duration, around the clock where they
pass midnight, and not by its months or days.  Within a leap second nothing is wrapped around, and
past its end the time is a second less far.  Unless a leap second was left, subtracting the duration
from the sum gives the time back. -/
theorem evaluate_time_wraps (duration : Duration) {time later : TimeOfDay}
    (hlater : duration.addToTime time = some later) :
    (¬ time.moment.LeapLasts duration.subDay → ¬ time.moment.LeapEnds duration.subDay →
      later.nanos = (time.nanos + duration.seconds.toInt * nanosPerSecond + duration.nanos) %
        (86400 * nanosPerSecond)) ∧
    (time.moment.LeapLasts duration.subDay → later.IsLeap ∧
      later.nanos = time.nanos + duration.seconds.toInt * nanosPerSecond + duration.nanos) ∧
    (time.moment.LeapEnds duration.subDay →
      later.nanos = (time.nanos + duration.seconds.toInt * nanosPerSecond + duration.nanos -
        nanosPerSecond) % (86400 * nanosPerSecond)) ∧
    (∀ (engine : Engine) (context : Context) (point span : Expr) (back : Value),
      engine.evaluate point context = .ok (.time time) →
      engine.evaluate span context = .ok (.duration duration) →
      engine.evaluate (.binary .subtract (.binary .add point span) span) context = .ok back →
      (back = .time time ↔ (time.IsLeap → later.IsLeap))) := by
  have hshift := Duration.eq_shift_of_addToTime hlater
  simp only [Int.add_assoc]
  refine ⟨?_, ?_, ?_, fun engine context point span back hpoint hspan hback => ?_⟩
  · intro hlasts hends
    rw [hshift, TimeOfDay.nanos_shift hlasts hends]
    rfl
  · intro hlasts
    rw [hshift]
    exact TimeOfDay.nanos_shift_of_leapLasts hlasts
  · intro hends
    rw [hshift, TimeOfDay.nanos_shift_of_leapEnds hends]
    rfl
  · obtain ⟨moved, _, hadd, hspan', hsubtract⟩ := engine.exists_of_evaluate_binary hback
    cases hspan.symm.trans hspan'
    have hmoved : moved = .time later :=
      Duration.eq_time_of_add hlater (engine.binary_of_evaluate hadd hpoint hspan)
    rw [hmoved] at hsubtract
    exact Duration.eq_iff_of_add_of_subtract_time hlater hsubtract

def halfPastMidnight : TimeOfDay := (TimeOfDay.make? 0 30 0 0).get (by decide)

/-- Five months, and back by three days and by another three days, two hours and half a second. -/
def backOverMidnights : Duration := ofFields 5 (-3) (-266401) 500000000

/-- The time and the duration under the names `t` and `d`. -/
def rowOfTime : Context :=
  ⟨[("t", .time halfPastMidnight), ("d", .duration backOverMidnights)], [], []⟩

/-- Four midnights before half past midnight it is 22:29:59.5, and half past midnight again once the
duration is subtracted. -/
theorem evaluate_time_wraps_backward :
    (backOverMidnights.addToTime halfPastMidnight =
        some ⟨80999, 500000000, by decide, by decide⟩ ∧
      standard.evaluate (.variable "t") rowOfTime = .ok (.time halfPastMidnight) ∧
      standard.evaluate (.variable "d") rowOfTime = .ok (.duration backOverMidnights)) ∧
    (80999500000000 : Int) =
      (1800000000000 + -266401 * nanosPerSecond + 500000000) % (86400 * nanosPerSecond) ∧
    ∃ back, standard.evaluate (.binary .subtract (.binary .add (.variable "t") (.variable "d"))
        (.variable "d")) rowOfTime = .ok back ∧ back = .time halfPastMidnight := by
  have hlater : backOverMidnights.addToTime halfPastMidnight =
      some ⟨80999, 500000000, by decide, by decide⟩ := by decide
  have ht : standard.evaluate (.variable "t") rowOfTime = .ok (.time halfPastMidnight) := rfl
  have hd : standard.evaluate (.variable "d") rowOfTime = .ok (.duration backOverMidnights) := rfl
  have hback : standard.evaluate (.binary .subtract (.binary .add (.variable "t")
      (.variable "d")) (.variable "d")) rowOfTime = .ok (.time halfPastMidnight) := rfl
  obtain ⟨hnanos, _, _, hreturn⟩ := evaluate_time_wraps backOverMidnights hlater
  have hlasts : ¬ halfPastMidnight.moment.LeapLasts backOverMidnights.subDay := by decide
  have hends : ¬ halfPastMidnight.moment.LeapEnds backOverMidnights.subDay := by decide
  have hleap : ¬ halfPastMidnight.IsLeap := by decide
  exact ⟨⟨hlater, ht, hd⟩, hnanos hlasts hends, _, hback,
    (hreturn standard _ _ _ _ ht hd hback).mpr fun htime => absurd htime hleap⟩

/-- A second after the middle of the last leap second of a day it is half a second after midnight,
and a second before that the middle of the second before. -/
theorem evaluate_time_leapSecond :
    (ofFields 0 0 1 0).addToTime leapTime = some secondAfterLeap ∧
      secondAfterLeap.nanos ≠ (leapTime.nanos + 1000000000) % (86400 * nanosPerSecond) ∧
      standard.evaluate (.binary .subtract (.binary .add (.variable "t") (.variable "d"))
        (.variable "d")) rowOfLeapSecond = .ok (.time secondBeforeLeap) ∧
      secondBeforeLeap ≠ leapTime :=
  ⟨by decide, by decide, rfl, by decide⟩

end Engine

end CypherExpr
