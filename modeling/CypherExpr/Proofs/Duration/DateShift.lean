import CypherExpr.Proofs.Calendar.DayNumbers
import CypherExpr.Proofs.Duration.Exactness
import CypherExpr.Proofs.Duration.Points

/-!
# Dates moved by durations

A duration moves a date by its months, where the day stops at the end of a shorter month, and then
by its days together with the whole days in its seconds.  Both moves keep the order of dates, and
the second one also keeps dates apart.

The whole days in the seconds are those in the part below a day, truncated toward zero, but for one
case.  The nanoseconds of a duration are never negative, so a negative part below a day has its
seconds rounded away from zero, and they reach a whole number of days up to a second before the part
does.  Then the date moves back by one day more.
-/

namespace CypherExpr

namespace Date

/-! ## Months and days later -/

/-- The date so many months later: on the same day, or on the last day of a shorter month. -/
structure MonthsLater (date : Date) (months : Int) (later : Date) : Prop where
  monthIndex_eq : later.monthIndex = date.monthIndex + months
  day_eq : later.day = min date.day (monthLength later.year later.month)

/-- The date so many months later and then so many days later. -/
def Moved (date : Date) (months days : Int) (later : Date) : Prop :=
  ∃ between, date.MonthsLater months between ∧ later.dayNumber = between.dayNumber + days

section

variable {date later : Date} {months days : Int}

theorem shiftMonths_eq_some_iff :
    date.shiftMonths months = some later ↔ date.MonthsLater months later := by
  simp only [shiftMonths, make?_eq_some_iff]
  constructor
  · rintro ⟨hyear, hmonth, hday⟩
    have hindex : later.monthIndex = date.monthIndex + months := by
      rw [monthIndex]
      omega
    rw [← hyear, ← hmonth] at hday
    exact ⟨hindex, hday⟩
  · rintro ⟨hindex, hday⟩
    rw [← hindex, monthIndex_div, monthIndex_mod]
    exact ⟨rfl, rfl, hday⟩

theorem shiftDays_eq_some_iff :
    date.shiftDays days = some later ↔ later.dayNumber = date.dayNumber + days :=
  ofDayNumber?_eq_some_iff

theorem monthsLater_zero_iff : date.MonthsLater 0 later ↔ later = date := by
  have hlength := date.day_le_lengthOfMonth
  constructor
  · intro hlater
    have hindex : later.monthIndex = date.monthIndex := by
      rw [hlater.monthIndex_eq, Int.add_zero]
    have hday := hlater.day_eq
    rw [← lengthOfMonth_monthIndex, hindex, Nat.min_eq_left hlength] at hday
    exact eq_of_monthIndex_of_day hindex hday
  · rintro rfl
    rw [lengthOfMonth_monthIndex] at hlength
    exact ⟨(Int.add_zero _).symm, (Nat.min_eq_left hlength).symm⟩

theorem MonthsLater.unique {other : Date} (hlater : date.MonthsLater months later)
    (hother : date.MonthsLater months other) : later = other := by
  have hindex : later.monthIndex = other.monthIndex := by
    rw [hlater.monthIndex_eq, hother.monthIndex_eq]
  have hday : later.day = other.day := by
    rw [hlater.day_eq, hother.day_eq, ← lengthOfMonth_monthIndex, ← lengthOfMonth_monthIndex,
      hindex]
  exact eq_of_monthIndex_of_day hindex hday

/-- A move by months can bring the ends of two months together, but it cannot reverse them. -/
theorem MonthsLater.monotone {left right laterLeft laterRight : Date}
    (hleft : left.MonthsLater months laterLeft) (hright : right.MonthsLater months laterRight)
    (hle : left ≤ right) : laterLeft ≤ laterRight := by
  have hleftIndex := hleft.monthIndex_eq
  have hrightIndex := hright.monthIndex_eq
  rw [le_iff_dayNumber_le] at hle ⊢
  rcases lt_trichotomy left.monthIndex right.monthIndex with hlt | heq | hgt
  · have hindex : laterLeft.monthIndex < laterRight.monthIndex := by omega
    exact (dayNumber_lt_of_monthIndex_lt hindex).le
  · have hindex : laterLeft.monthIndex = laterRight.monthIndex := by omega
    have hleftDay := hleft.day_eq
    have hrightDay := hright.day_eq
    rw [dayNumber_eq left, dayNumber_eq right, heq] at hle
    rw [← lengthOfMonth_monthIndex, hindex] at hleftDay
    rw [← lengthOfMonth_monthIndex] at hrightDay
    rw [dayNumber_eq laterLeft, dayNumber_eq laterRight, hindex]
    omega
  · have hnumber := dayNumber_lt_of_monthIndex_lt hgt
    omega

theorem Moved.monotone {left right laterLeft laterRight : Date}
    (hleft : left.Moved months days laterLeft) (hright : right.Moved months days laterRight)
    (hle : left ≤ right) : laterLeft ≤ laterRight := by
  obtain ⟨betweenLeft, hmonthsLeft, hdaysLeft⟩ := hleft
  obtain ⟨betweenRight, hmonthsRight, hdaysRight⟩ := hright
  have hbetween := hmonthsLeft.monotone hmonthsRight hle
  rw [le_iff_dayNumber_le] at hbetween ⊢
  omega

theorem moved_zero_iff :
    date.Moved 0 days later ↔ later.dayNumber = date.dayNumber + days := by
  simp only [Moved, monthsLater_zero_iff, exists_eq_left]

theorem Moved.strictMono {left right laterLeft laterRight : Date}
    (hleft : left.Moved 0 days laterLeft) (hright : right.Moved 0 days laterRight)
    (hlt : left < right) : laterLeft < laterRight := by
  rw [moved_zero_iff] at hleft hright
  rw [lt_iff_dayNumber_lt] at hlt ⊢
  omega

/-- A date is reached by one number of days. -/
theorem Moved.iff_days_eq {other : Int} (hmoved : date.Moved months days later) :
    date.Moved months other later ↔ other = days := by
  obtain ⟨between, hmonths, hdays⟩ := hmoved
  constructor
  · rintro ⟨between', hmonths', hdays'⟩
    cases hmonths.unique hmonths'
    omega
  · rintro rfl
    exact ⟨between, hmonths, hdays⟩

end

end Date

namespace Duration

/-! ## The move of a date -/

/-- A date is moved by the months, and then by the days and the whole days in the seconds, wherever
this ends within the supported span. -/
theorem addToDate_eq_some_iff {duration : Duration} {date later : Date} :
    duration.addToDate date = some later ↔
      date.Moved duration.months.toInt
        (duration.days.toInt + duration.seconds.toInt.tdiv secondsPerDay) later := by
  simp only [addToDate, Option.bind_eq_some_iff, Date.shiftMonths_eq_some_iff,
    Date.shiftDays_eq_some_iff, Checked.narrow_eq_some_iff]
  constructor
  · rintro ⟨between, hmonths, shift, hshift, hdays⟩
    rw [hshift] at hdays
    exact ⟨between, hmonths, hdays⟩
  · rintro ⟨between, hmonths, hdays⟩
    have hlater := later.natAbs_dayNumber_lt
    have hbetween := between.natAbs_dayNumber_lt
    have hfits : Checked.Fits
        (duration.days.toInt + duration.seconds.toInt.tdiv secondsPerDay) := by
      simp only [Checked.Fits]
      omega
    refine ⟨between, hmonths, Int64.ofInt _, Checked.toInt_ofInt hfits, ?_⟩
    rw [Checked.toInt_ofInt hfits]
    exact hdays

/-! ## The whole days below a day -/

/-- So many nanoseconds are less than a second short of a positive whole number of days. -/
def JustShortOfDays (nanos : Int) : Prop :=
  0 < nanos ∧ (nanosPerDay - nanosPerSecond : Int) < nanos % nanosPerDay

instance (nanos : Int) : Decidable (JustShortOfDays nanos) := by
  unfold JustShortOfDays
  infer_instance

theorem tdiv_of_nonpos {value : Int} (hvalue : value ≤ 0) (divisor : Int) :
    value.tdiv divisor = -(-value / divisor) := by
  rw [← Int.tdiv_eq_ediv_of_nonneg (Int.neg_nonneg_of_nonpos hvalue), Int.neg_tdiv, Int.neg_neg]

/-- The days in the whole seconds are those in the part below a day, or a day less where that part
is negative and just short of days. -/
theorem tdiv_secondsPerDay (duration : Duration) :
    duration.seconds.toInt.tdiv secondsPerDay =
      duration.subDay.tdiv nanosPerDay -
        if JustShortOfDays (-duration.subDay) then 1 else 0 := by
  have hseconds := duration.subDay_div
  by_cases hsign : 0 ≤ duration.subDay
  · have hlong : ¬ JustShortOfDays (-duration.subDay) := fun hshort => by
      have hpositive := hshort.1
      omega
    rw [if_neg hlong]
    simp only [nanosPerDay, nanosPerSecond, secondsPerDay] at hseconds ⊢
    rw [Int.tdiv_eq_ediv_of_nonneg hsign, Int.tdiv_eq_ediv_of_nonneg (by omega)]
    omega
  · have hnegative : duration.subDay ≤ 0 := by omega
    have hsecondsNegative : duration.seconds.toInt ≤ 0 := by
      simp only [nanosPerSecond] at hseconds
      omega
    rw [tdiv_of_nonpos hnegative, tdiv_of_nonpos hsecondsNegative]
    by_cases hshort : JustShortOfDays (-duration.subDay)
    · rw [if_pos hshort]
      simp only [JustShortOfDays, nanosPerDay, nanosPerSecond, secondsPerDay] at hseconds hshort ⊢
      omega
    · rw [if_neg hshort]
      simp only [JustShortOfDays, nanosPerDay, nanosPerSecond, secondsPerDay] at hseconds hshort ⊢
      omega

theorem wholeDays_eq_iff (duration : Duration) :
    duration.subDay.tdiv nanosPerDay = duration.seconds.toInt.tdiv secondsPerDay ↔
      ¬ JustShortOfDays (-duration.subDay) := by
  rw [tdiv_secondsPerDay]
  by_cases hshort : JustShortOfDays (-duration.subDay)
  · simp only [hshort, if_true, not_true, iff_false]
    omega
  · simp only [hshort, if_false, not_false_iff, Int.sub_zero]

theorem tdiv_nanosPerDay_eq_zero {nanos : Int} (hnanos : nanos.natAbs < nanosPerDay) :
    nanos.tdiv nanosPerDay = 0 := by
  rw [← Int.natAbs_eq_zero, Int.natAbs_tdiv]
  exact Nat.div_eq_of_lt hnanos

/-! ## Sums and differences with dates -/

theorem shift?_date_eq_some_iff {duration : Duration} {date later : Date} :
    Arithmetic.shift? duration (.date date) = some (some (.date later)) ↔
      duration.addToDate date = some later := by
  simp [Arithmetic.shift?]

theorem add_date_eq_ok_iff {duration : Duration} {date later : Date} :
    Arithmetic.add (.date date) (.duration duration) = .ok (.date later) ↔
      duration.addToDate date = some later := by
  rw [Arithmetic.add_duration_eq_ok_iff (.date date), shift?_date_eq_some_iff]

theorem subtract_date_eq_ok_iff {duration : Duration} {date later : Date} :
    Arithmetic.subtract (.date date) (.duration duration) = .ok (.date later) ↔
      ∃ negated, duration.negate = some negated ∧ negated.addToDate date = some later := by
  simp only [Arithmetic.subtract_duration_eq_ok_iff (.date date), shift?_date_eq_some_iff]

/-- Without months, the sum with a duration and the difference move a date by opposite numbers of
days, if neither the part below a day nor its negation is just short of days. -/
theorem opposite_iff {duration : Duration} {date later earlier : Date}
    (hmonths : duration.months = 0)
    (hlater : Arithmetic.add (.date date) (.duration duration) = .ok (.date later))
    (hearlier : Arithmetic.subtract (.date date) (.duration duration) = .ok (.date earlier)) :
    later.dayNumber - date.dayNumber = -(earlier.dayNumber - date.dayNumber) ↔
      ¬ JustShortOfDays duration.subDay ∧ ¬ JustShortOfDays (-duration.subDay) := by
  obtain ⟨negated, hnegated, hearlier⟩ := subtract_date_eq_ok_iff.mp hearlier
  rw [negate_eq, ofExact?_eq_some_iff] at hnegated
  obtain ⟨hnegatedMonths, hnegatedDays, hnegatedSubDay⟩ := hnegated
  rw [add_date_eq_ok_iff, addToDate_eq_some_iff, hmonths, tdiv_secondsPerDay] at hlater
  rw [addToDate_eq_some_iff, hnegatedMonths, hmonths, hnegatedDays, tdiv_secondsPerDay,
    hnegatedSubDay, Int.neg_neg, Int.neg_tdiv] at hearlier
  have hlaterDays := Date.moved_zero_iff.mp hlater
  have hearlierDays := Date.moved_zero_iff.mp hearlier
  split_ifs at hlaterDays hearlierDays with hback hahead hahead
  · simp only [hback, hahead, not_true, and_self, iff_false]
    omega
  · simp only [hback, hahead, not_true, and_false, iff_false]
    omega
  · simp only [hback, hahead, not_true, false_and, iff_false]
    omega
  · simp only [hback, hahead, not_false_iff, and_self, iff_true]
    omega

/-- A date is moved by the days in the part below a day, truncated toward zero, and by a day less
where that part is negative and just short of days.  So it is the date that truncation gives, a part
of less than a day does not move it, and without months the sum and the difference with a duration
move it by opposite numbers of days, exactly if the parts in question are not just short of days. -/
theorem addToDate_truncates_iff (duration : Duration) (date : Date) :
    (∀ later, duration.addToDate date = some later ↔
      date.Moved duration.months.toInt
        (duration.days.toInt + (duration.subDay.tdiv nanosPerDay -
          if JustShortOfDays (-duration.subDay) then 1 else 0)) later) ∧
    (∀ later, duration.addToDate date = some later →
      (date.Moved duration.months.toInt
          (duration.days.toInt + duration.subDay.tdiv nanosPerDay) later ↔
        ¬ JustShortOfDays (-duration.subDay))) ∧
    (duration.subDay.natAbs < nanosPerDay → ∀ later, duration.addToDate date = some later →
      (date.Moved duration.months.toInt duration.days.toInt later ↔
        ¬ JustShortOfDays (-duration.subDay))) ∧
    (duration.months = 0 → ∀ later earlier,
      Arithmetic.add (.date date) (.duration duration) = .ok (.date later) →
      Arithmetic.subtract (.date date) (.duration duration) = .ok (.date earlier) →
      (later.dayNumber - date.dayNumber = -(earlier.dayNumber - date.dayNumber) ↔
        ¬ JustShortOfDays duration.subDay ∧ ¬ JustShortOfDays (-duration.subDay))) := by
  have htruncated : ∀ later, duration.addToDate date = some later →
      (date.Moved duration.months.toInt
          (duration.days.toInt + duration.subDay.tdiv nanosPerDay) later ↔
        ¬ JustShortOfDays (-duration.subDay)) := by
    intro later hlater
    rw [(addToDate_eq_some_iff.mp hlater).iff_days_eq, ← wholeDays_eq_iff]
    omega
  refine ⟨?_, htruncated, ?_, ?_⟩
  · intro later
    rw [← tdiv_secondsPerDay]
    exact addToDate_eq_some_iff
  · intro hsmall later hlater
    have hmoved := htruncated later hlater
    rw [tdiv_nanosPerDay_eq_zero hsmall, Int.add_zero] at hmoved
    exact hmoved
  · intro hmonths later earlier hlater hearlier
    exact opposite_iff hmonths hlater hearlier

def lastOfFebruary : Date := ⟨2024, 2, 29, by decide⟩

def firstOfMarch : Date := ⟨2024, 3, 1, by decide⟩

def secondOfMarch : Date := ⟨2024, 3, 2, by decide⟩

/-- Two days less an hour and half a second. -/
def twoDaysLessHour : Duration := ofFields 0 2 (-3601) 500000000

/-- The date moves by the two days, there and back. -/
theorem addToDate_truncates_iff_twoDays :
    (twoDaysLessHour.subDay.natAbs < nanosPerDay ∧
      twoDaysLessHour.addToDate lastOfFebruary = some secondOfMarch ∧
      twoDaysLessHour.months = 0 ∧
      Arithmetic.add (.date lastOfFebruary) (.duration twoDaysLessHour) =
        .ok (.date secondOfMarch) ∧
      Arithmetic.subtract (.date lastOfFebruary) (.duration twoDaysLessHour) =
        .ok (.date ⟨2024, 2, 27, by decide⟩)) ∧
    lastOfFebruary.Moved 0 2 secondOfMarch ∧
    secondOfMarch.dayNumber - lastOfFebruary.dayNumber =
      -(Date.dayNumberOf 2024 2 27 - lastOfFebruary.dayNumber) := by
  have hsmall : twoDaysLessHour.subDay.natAbs < nanosPerDay := by decide
  have hmoved : twoDaysLessHour.addToDate lastOfFebruary = some secondOfMarch := by decide
  have hadded : Arithmetic.add (.date lastOfFebruary) (.duration twoDaysLessHour) =
      .ok (.date secondOfMarch) :=
    add_date_eq_ok_iff.mpr hmoved
  have hsubtracted : Arithmetic.subtract (.date lastOfFebruary) (.duration twoDaysLessHour) =
      .ok (.date ⟨2024, 2, 27, by decide⟩) :=
    subtract_date_eq_ok_iff.mpr ⟨ofFields 0 (-2) 3600 500000000, by decide, by decide⟩
  obtain ⟨_, _, hwithin, hopposite⟩ := addToDate_truncates_iff twoDaysLessHour lastOfFebruary
  refine ⟨⟨hsmall, hmoved, by decide, hadded, hsubtracted⟩, ?_, ?_⟩
  · exact (hwithin hsmall secondOfMarch hmoved).mpr (by decide)
  · exact (hopposite (by decide) secondOfMarch _ hadded hsubtracted).mpr (by decide)

/-- Half a second short of a day, back. -/
def almostDayBack : Duration := ofFields 0 0 (-86400) 500000000

/-- A date is moved a day back by less than a day, while taking that away leaves it where it is. -/
theorem addToDate_almostDayBack :
    almostDayBack.subDay.natAbs < nanosPerDay ∧
    Arithmetic.add (.date firstOfMarch) (.duration almostDayBack) = .ok (.date lastOfFebruary) ∧
    ¬ firstOfMarch.Moved almostDayBack.months.toInt
      (almostDayBack.days.toInt + almostDayBack.subDay.tdiv nanosPerDay) lastOfFebruary ∧
    Arithmetic.subtract (.date firstOfMarch) (.duration almostDayBack) =
      .ok (.date firstOfMarch) := by
  have hmoved : almostDayBack.addToDate firstOfMarch = some lastOfFebruary := by decide
  refine ⟨by decide, add_date_eq_ok_iff.mpr hmoved, ?_, ?_⟩
  · rw [(addToDate_eq_some_iff.mp hmoved).iff_days_eq]
    decide
  · exact subtract_date_eq_ok_iff.mpr ⟨ofFields 0 0 86399 500000000, by decide, by decide⟩

/-! ## The order of moved dates -/

/-- Dates moved by one duration keep their order.  Without months they also stay apart. -/
theorem addToDate_monotone {duration : Duration} {left right laterLeft laterRight : Date}
    (hleft : duration.addToDate left = some laterLeft)
    (hright : duration.addToDate right = some laterRight) :
    (left ≤ right → laterLeft ≤ laterRight) ∧
      (duration.months = 0 → left < right → laterLeft < laterRight) := by
  rw [addToDate_eq_some_iff] at hleft hright
  refine ⟨hleft.monotone hright, ?_⟩
  intro hmonths
  rw [hmonths] at hleft hright
  exact hleft.strictMono hright

/-- A month moves two days of January to the one last day of February; a day back keeps two days
apart. -/
theorem addToDate_monotone_aroundFebruary :
    ((ofMonths 1).addToDate ⟨2024, 1, 30, by decide⟩ = some lastOfFebruary ∧
      (ofMonths 1).addToDate ⟨2024, 1, 31, by decide⟩ = some lastOfFebruary ∧
      (⟨2024, 1, 30, by decide⟩ : Date) ≤ ⟨2024, 1, 31, by decide⟩ ∧
      lastOfFebruary ≤ lastOfFebruary) ∧
    ((ofDays (-1)).addToDate firstOfMarch = some lastOfFebruary ∧
      (ofDays (-1)).addToDate secondOfMarch = some firstOfMarch ∧
      firstOfMarch < secondOfMarch ∧ lastOfFebruary < firstOfMarch) := by
  have hthirtieth : (ofMonths 1).addToDate ⟨2024, 1, 30, by decide⟩ = some lastOfFebruary := by
    decide
  have hthirtyFirst : (ofMonths 1).addToDate ⟨2024, 1, 31, by decide⟩ = some lastOfFebruary := by
    decide
  have hfirst : (ofDays (-1)).addToDate firstOfMarch = some lastOfFebruary := by decide
  have hsecond : (ofDays (-1)).addToDate secondOfMarch = some firstOfMarch := by decide
  have hapart : firstOfMarch < secondOfMarch := by decide
  have hordered : (⟨2024, 1, 30, by decide⟩ : Date) ≤ ⟨2024, 1, 31, by decide⟩ := by decide
  refine ⟨⟨hthirtieth, hthirtyFirst, hordered, ?_⟩, hfirst, hsecond, hapart, ?_⟩
  · exact (addToDate_monotone hthirtieth hthirtyFirst).1 hordered
  · exact (addToDate_monotone hfirst hsecond).2 (by decide) hapart

end Duration

end CypherExpr
