import CypherExpr.Calendar.Date
import Mathlib.Order.Monotone.Basic
import Mathlib.Tactic.IntervalCases

/-!
# Day numbers of the calendar

Day numbers count the days one after another: each month starts where the one before it ends.  So
the order of day numbers is the order of the calendar, by year, then month, then day, and no two
dates share a number.  The fields that are read off a number are those of the day it belongs to, so
the number finds a date again, and any number within the supported span finds one.
-/

namespace CypherExpr.Date

/-! ## Years and months -/

/-- Days before 1 March of the given year, counted from 1 March of year zero. -/
def yearStart (year : Int) : Int := 365 * year + year / 4 - year / 100 + year / 400

/-- A year counted from March ends with the February of the next one. -/
theorem yearStart_succ (year : Int) :
    yearStart (year + 1) = yearStart year + if isLeap (year + 1) then 366 else 365 := by
  simp only [yearStart, isLeap, Bool.and_eq_true, Bool.or_eq_true, beq_iff_eq, bne_iff_ne]
  split <;> omega

theorem yearStart_cycles (year cycle : Int) :
    yearStart (year + 400 * cycle) = yearStart year + 146097 * cycle := by
  simp only [yearStart]
  omega

/-- The number of the first day of a month; months are counted from January of year zero. -/
def monthStart (index : Int) : Int :=
  yearStart ((index - 2) / 12) + (153 * ((index - 2) % 12) + 2) / 5 - 719468

def lengthOfMonth (index : Int) : Nat := monthLength (index / 12) ((index % 12).toNat + 1)

theorem monthStart_succ (index : Int) :
    monthStart (index + 1) = monthStart index + lengthOfMonth index := by
  by_cases hfebruary : index % 12 = 1
  · have hlast : (index - 2) % 12 = 11 := by omega
    have hmarch : (index + 1 - 2) % 12 = 0 := by omega
    have hyear : (index + 1 - 2) / 12 = index / 12 := by omega
    have hnext : index / 12 = (index - 2) / 12 + 1 := by omega
    have hleap : yearStart (index / 12) =
        yearStart ((index - 2) / 12) + if isLeap (index / 12) then 366 else 365 := by
      rw [hnext, yearStart_succ]
    simp only [monthStart, lengthOfMonth, monthLength, hlast, hmarch, hyear, hleap, hfebruary]
    split <;> simp <;> omega
  · -- within a year from March the lengths are read off the fifths of 153 days
    have hlast : (index - 2) % 12 = (index % 12 + 10) % 12 := by omega
    have hnext : (index + 1 - 2) % 12 = (index % 12 + 11) % 12 := by omega
    have hyear : (index + 1 - 2) / 12 = (index - 2) / 12 := by omega
    have hmonth : 0 ≤ index % 12 ∧ index % 12 < 12 := by omega
    simp only [monthStart, lengthOfMonth, monthLength, hlast, hnext, hyear]
    generalize index % 12 = month at hmonth hfebruary ⊢
    obtain ⟨hleast, hmost⟩ := hmonth
    interval_cases month <;> simp at hfebruary ⊢ <;> omega

theorem monthStart_monotone {left right : Int} (hle : left ≤ right) :
    monthStart left ≤ monthStart right := by
  apply monotone_int_of_le_succ _ hle
  intro index
  rw [monthStart_succ]
  omega

theorem dayNumberOf_eq (year : Int) {month : Nat} (hmonth : 1 ≤ month ∧ month ≤ 12) (day : Nat) :
    dayNumberOf year month day = monthStart (12 * year + (month - 1)) + (day - 1) := by
  have hyear : (12 * year + ((month : Int) - 1) - 2) / 12 =
      if month ≤ 2 then year - 1 else year := by
    split <;> omega
  have hrest : (12 * year + ((month : Int) - 1) - 2) % 12 = ((month : Int) + 9) % 12 := by omega
  simp only [dayNumberOf, monthStart, yearStart, hyear, hrest]
  omega

/-- The numbers of two months do not overlap. -/
theorem eq_of_monthStart_le {left right number : Int}
    (hleft : monthStart left ≤ number) (hleftEnd : number < monthStart (left + 1))
    (hright : monthStart right ≤ number) (hrightEnd : number < monthStart (right + 1)) :
    left = right := by
  rcases lt_trichotomy left right with hlt | heq | hgt
  · have hle := monthStart_monotone (Int.add_one_le_of_lt hlt)
    omega
  · exact heq
  · have hle := monthStart_monotone (Int.add_one_le_of_lt hgt)
    omega

/-! ## The order of dates -/

/-- The order of the calendar: by year, then by month, then by day. -/
instance : LT Date where
  lt left right := left.year < right.year ∨
    left.year = right.year ∧ (left.month < right.month ∨
      left.month = right.month ∧ left.day < right.day)

instance : LE Date where
  le left right := left < right ∨ left = right

instance (left right : Date) : Decidable (left < right) :=
  inferInstanceAs (Decidable (left.year < right.year ∨
    left.year = right.year ∧ (left.month < right.month ∨
      left.month = right.month ∧ left.day < right.day)))

instance (left right : Date) : Decidable (left ≤ right) :=
  inferInstanceAs (Decidable (left < right ∨ left = right))

section

variable {left right : Date}

theorem monthIndex_div (date : Date) : date.monthIndex / 12 = date.year := by
  obtain ⟨_, _, hleast, hmost, _⟩ := date.valid
  rw [monthIndex]
  omega

theorem monthIndex_mod (date : Date) : (date.monthIndex % 12).toNat + 1 = date.month := by
  obtain ⟨_, _, hleast, hmost, _⟩ := date.valid
  rw [monthIndex]
  omega

theorem lengthOfMonth_monthIndex (date : Date) :
    lengthOfMonth date.monthIndex = monthLength date.year date.month := by
  rw [lengthOfMonth, monthIndex_div, monthIndex_mod]

theorem one_le_day (date : Date) : 1 ≤ date.day := by
  obtain ⟨_, _, _, _, hday, _⟩ := date.valid
  exact hday

theorem day_le_lengthOfMonth (date : Date) : date.day ≤ lengthOfMonth date.monthIndex := by
  obtain ⟨_, _, _, _, _, hday⟩ := date.valid
  rw [lengthOfMonth_monthIndex]
  exact hday

/-- The supported span lies within a hundred million days of 1970. -/
theorem natAbs_dayNumber_lt (date : Date) : date.dayNumber.natAbs < 100000000 := by
  obtain ⟨hleast, hmost, _, _, _, hday⟩ := date.valid
  have hlength : monthLength date.year date.month ≤ 31 := by
    simp only [monthLength]
    split_ifs <;> decide
  simp only [dayNumber, dayNumberOf, minYear, maxYear] at hleast hmost ⊢
  omega

theorem eq_of_monthIndex_of_day (hindex : left.monthIndex = right.monthIndex)
    (hday : left.day = right.day) : left = right := by
  have hyear : left.year = right.year := by
    rw [← monthIndex_div left, hindex, monthIndex_div]
  have hmonth : left.month = right.month := by
    rw [← monthIndex_mod left, hindex, monthIndex_mod]
  cases left
  cases right
  cases hyear
  cases hmonth
  cases hday
  rfl

theorem dayNumber_eq (date : Date) :
    date.dayNumber = monthStart date.monthIndex + (date.day - 1) := by
  obtain ⟨_, _, hleast, hmost, _⟩ := date.valid
  rw [dayNumber, dayNumberOf_eq date.year ⟨hleast, hmost⟩, monthIndex]

theorem monthStart_le_dayNumber (date : Date) :
    monthStart date.monthIndex ≤ date.dayNumber := by
  have hday := date.one_le_day
  rw [dayNumber_eq]
  omega

theorem dayNumber_lt_monthStart (date : Date) :
    date.dayNumber < monthStart (date.monthIndex + 1) := by
  have hday := date.day_le_lengthOfMonth
  rw [dayNumber_eq, monthStart_succ]
  omega

theorem lt_iff_monthIndex : left < right ↔
    left.monthIndex < right.monthIndex ∨
      left.monthIndex = right.monthIndex ∧ left.day < right.day := by
  obtain ⟨_, _, hleast, hmost, _⟩ := left.valid
  obtain ⟨_, _, hleast', hmost', _⟩ := right.valid
  change (left.year < right.year ∨ _) ↔ _
  simp only [monthIndex]
  omega

theorem dayNumber_lt_of_monthIndex_lt (hindex : left.monthIndex < right.monthIndex) :
    left.dayNumber < right.dayNumber :=
  calc
    left.dayNumber < monthStart (left.monthIndex + 1) := left.dayNumber_lt_monthStart
    _ ≤ monthStart right.monthIndex := monthStart_monotone (Int.add_one_le_of_lt hindex)
    _ ≤ right.dayNumber := right.monthStart_le_dayNumber

theorem lt_iff_dayNumber_lt : left < right ↔ left.dayNumber < right.dayNumber := by
  rw [lt_iff_monthIndex]
  rcases lt_trichotomy left.monthIndex right.monthIndex with hlt | heq | hgt
  · have hnumber := dayNumber_lt_of_monthIndex_lt hlt
    omega
  · rw [dayNumber_eq left, dayNumber_eq right, heq]
    omega
  · have hnumber := dayNumber_lt_of_monthIndex_lt hgt
    omega

theorem dayNumber_injective (hnumber : left.dayNumber = right.dayNumber) : left = right := by
  have hindex : left.monthIndex = right.monthIndex := by
    apply eq_of_monthStart_le left.monthStart_le_dayNumber left.dayNumber_lt_monthStart
    · rw [hnumber]
      exact right.monthStart_le_dayNumber
    · rw [hnumber]
      exact right.dayNumber_lt_monthStart
  apply eq_of_monthIndex_of_day hindex
  rw [dayNumber_eq left, dayNumber_eq right, hindex] at hnumber
  omega

theorem le_iff_dayNumber_le : left ≤ right ↔ left.dayNumber ≤ right.dayNumber := by
  change (left < right ∨ left = right) ↔ _
  rw [lt_iff_dayNumber_lt, Int.le_iff_lt_or_eq]
  exact or_congr_right ⟨congrArg dayNumber, dayNumber_injective⟩

end

/-! ## The date of a day number -/

/-- The days of a cycle of 400 years so far, without the leap days that have passed. -/
def withoutLeapDays (dayOfCycle : Int) : Int :=
  dayOfCycle - dayOfCycle / 1460 + dayOfCycle / 36524 - dayOfCycle / 146096

theorem withoutLeapDays_monotone {left right : Int} (hle : left ≤ right) :
    withoutLeapDays left ≤ withoutLeapDays right := by
  simp only [withoutLeapDays]
  omega

/-- Without leap days, the count comes to a multiple of 365 just when a year ends. -/
theorem yearStart_le_iff {year day : Int} (hleast : 1 ≤ year) (hmost : year ≤ 400) :
    yearStart year ≤ day ↔ 365 * year ≤ withoutLeapDays day := by
  have htable : ∀ number : Fin 401, 1 ≤ number.val →
      withoutLeapDays (yearStart number.val - 1) < 365 * number.val ∧
        365 * number.val ≤ withoutLeapDays (yearStart number.val) := by
    decide +kernel
  obtain ⟨number, rfl⟩ := Int.eq_ofNat_of_zero_le (by omega : 0 ≤ year)
  obtain ⟨hbefore, hstart⟩ : withoutLeapDays (yearStart number - 1) < 365 * number ∧
      365 * number ≤ withoutLeapDays (yearStart number) :=
    htable ⟨number, by omega⟩ (Int.ofNat_le.mp hleast)
  constructor
  · intro hday
    exact hstart.trans (withoutLeapDays_monotone hday)
  · intro hcount
    by_contra hday
    have hle := withoutLeapDays_monotone (Int.le_sub_one_of_lt (Int.not_le.mp hday))
    omega

theorem yearStart_le_of_cycle {day : Int} (hleast : 0 ≤ day) (hmost : day < 146097) :
    (0 ≤ withoutLeapDays day / 365 ∧ withoutLeapDays day / 365 < 400) ∧
      yearStart (withoutLeapDays day / 365) ≤ day ∧
        day < yearStart (withoutLeapDays day / 365 + 1) := by
  have hfirst : 0 ≤ withoutLeapDays day := withoutLeapDays_monotone hleast
  have hlast : withoutLeapDays day ≤ 145999 :=
    withoutLeapDays_monotone (Int.le_sub_one_of_lt hmost)
  generalize hyear : withoutLeapDays day / 365 = year
  refine ⟨⟨by omega, by omega⟩, ?_, ?_⟩
  · by_cases hzero : year = 0
    · subst hzero
      exact hleast
    · rw [yearStart_le_iff (by omega) (by omega)]
      omega
  · rw [← Int.not_le, yearStart_le_iff (by omega) (by omega)]
    omega

/-- The month of a day, counted from March. -/
def monthOfYear (dayOfYear : Int) : Int := (5 * dayOfYear + 2) / 153

theorem monthOfYear_le {year day : Int} (hstart : yearStart year ≤ day)
    (hend : day < yearStart (year + 1)) :
    0 ≤ monthOfYear (day - yearStart year) ∧ monthOfYear (day - yearStart year) ≤ 11 := by
  rw [yearStart_succ] at hend
  simp only [monthOfYear]
  split at hend <;> omega

theorem monthStart_eq (year : Int) {month : Int} (hleast : 0 ≤ month) (hmost : month ≤ 11) :
    monthStart (12 * year + month + 2) = yearStart year + (153 * month + 2) / 5 - 719468 := by
  have hyear : (12 * year + month + 2 - 2) / 12 = year := by omega
  have hmonth : (12 * year + month + 2 - 2) % 12 = month := by omega
  rw [monthStart, hyear, hmonth]

theorem lt_monthStart_next {year day : Int} (hstart : yearStart year ≤ day)
    (hend : day < yearStart (year + 1)) :
    day - 719468 < monthStart (12 * year + monthOfYear (day - yearStart year) + 2 + 1) := by
  obtain ⟨hleast, hmost⟩ := monthOfYear_le hstart hend
  have hmonth : monthOfYear (day - yearStart year) = (5 * (day - yearStart year) + 2) / 153 := rfl
  generalize monthOfYear (day - yearStart year) = month at *
  by_cases hlast : month = 11
  · have hnext : 12 * year + month + 2 + 1 = 12 * (year + 1) + 0 + 2 := by omega
    rw [hnext, monthStart_eq (year + 1) (by decide) (by decide)]
    omega
  · have hnext : 12 * year + month + 2 + 1 = 12 * year + (month + 1) + 2 := by omega
    rw [hnext, monthStart_eq year (by omega) (by omega)]
    omega

/-- The fields of a day number are those of the month that it lies in. -/
theorem exists_fieldsOfDayNumber (number : Int) : ∃ index,
    (monthStart index ≤ number ∧ number < monthStart (index + 1)) ∧
      fieldsOfDayNumber number =
        (index / 12, (index % 12).toNat + 1, (number - monthStart index + 1).toNat) := by
  have hcycle : 0 ≤ (number + 719468) % 146097 ∧ (number + 719468) % 146097 < 146097 := by omega
  have hnumber : number + 719468 =
      (number + 719468) % 146097 + 146097 * ((number + 719468) / 146097) := by omega
  obtain ⟨hyear, hstart, hend⟩ := yearStart_le_of_cycle hcycle.1 hcycle.2
  rw [fieldsOfDayNumber, ← withoutLeapDays]
  generalize (number + 719468) / 146097 = cycle at *
  generalize (number + 719468) % 146097 = dayOfCycle at *
  generalize withoutLeapDays dayOfCycle / 365 = year at *
  -- the same day of the same year, cycles later
  have hlater := yearStart_cycles year cycle
  have hday : number + 719468 - yearStart (year + 400 * cycle) =
      dayOfCycle - yearStart year := by omega
  have hlaterEnd : number + 719468 < yearStart (year + 400 * cycle + 1) := by
    rw [Int.add_right_comm, yearStart_cycles]
    omega
  have hbefore := lt_monthStart_next (by omega) hlaterEnd
  obtain ⟨hleast, hmost⟩ := monthOfYear_le hstart hend
  have hmonth : monthOfYear (dayOfCycle - yearStart year) =
      (5 * (dayOfCycle - yearStart year) + 2) / 153 := rfl
  have hdays : 365 * year + year / 4 - year / 100 = yearStart year := by
    simp only [yearStart]
    omega
  rw [hday] at hbefore
  simp only [hdays, ← hmonth]
  generalize monthOfYear (dayOfCycle - yearStart year) = month at *
  have hmonthStart := monthStart_eq (year + 400 * cycle) hleast hmost
  refine ⟨12 * (year + 400 * cycle) + month + 2, ⟨by omega, by omega⟩, ?_⟩
  rw [hmonthStart, Prod.mk.injEq, Prod.mk.injEq]
  refine ⟨?_, ?_, ?_⟩
  · split_ifs <;> omega
  · split_ifs <;> omega
  · omega

theorem make?_eq_some_iff {year : Int} {month day : Nat} {date : Date} :
    make? year month day = some date ↔
      date.year = year ∧ date.month = month ∧ date.day = day := by
  constructor
  · intro hmade
    unfold make? at hmade
    split at hmade
    · cases hmade
      exact ⟨rfl, rfl, rfl⟩
    · cases hmade
  · rintro ⟨rfl, rfl, rfl⟩
    exact dif_pos date.valid

/-- A date is found by its number, and by no other. -/
theorem ofDayNumber?_eq_some_iff {number : Int} {date : Date} :
    ofDayNumber? number = some date ↔ date.dayNumber = number := by
  obtain ⟨index, ⟨hstart, hend⟩, hfields⟩ := exists_fieldsOfDayNumber number
  simp only [ofDayNumber?, hfields, make?_eq_some_iff]
  constructor
  · rintro ⟨hyear, hmonth, hday⟩
    have hindex : date.monthIndex = index := by
      rw [monthIndex]
      omega
    rw [dayNumber_eq, hindex]
    omega
  · rintro rfl
    have hindex : date.monthIndex = index :=
      eq_of_monthStart_le date.monthStart_le_dayNumber date.dayNumber_lt_monthStart hstart hend
    rw [← hindex, monthIndex_div, monthIndex_mod, dayNumber_eq]
    have hday := date.one_le_day
    exact ⟨rfl, rfl, by omega⟩

end CypherExpr.Date
