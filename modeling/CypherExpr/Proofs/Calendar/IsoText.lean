import CypherExpr.Calendar.IsoReader

/-!
# ISO 8601 text reads back

A reader splits its part off the front of a text and leaves the rest.  What was written is read back
before any rest that cannot be taken for more of it: no digit may follow a number, and no point a
time that has no fraction.  Dates, times and local datetimes are thus the points that their texts
stand for, and so is a zoned datetime whose offset is a whole number of minutes; other offsets are
rounded when they are written.
-/

namespace CypherExpr

namespace Iso

/-! ## Numbers -/

/-- The text does not go on with a digit. -/
def NoDigitAhead (rest : List Char) : Prop := ∀ c ∈ rest.head?, c.isDigit = false

theorem noDigitAhead_nil : NoDigitAhead [] := nofun

theorem noDigitAhead_cons {c : Char} (hc : c.isDigit = false) (rest : List Char) :
    NoDigitAhead (c :: rest) := by
  intro first hfirst
  cases hfirst
  exact hc

section Digits

variable {digits rest : List Char}

theorem takeWhile_digits (hdigits : ∀ c ∈ digits, c.isDigit = true)
    (hrest : NoDigitAhead rest) : (digits ++ rest).takeWhile Char.isDigit = digits := by
  have hnone : rest.takeWhile Char.isDigit = [] := by
    cases rest with
    | nil => rfl
    | cons c more => rw [List.takeWhile_cons, hrest c rfl, if_neg Bool.false_ne_true]
  rw [List.takeWhile_append_of_pos hdigits, hnone, List.append_nil]

theorem dropWhile_digits (hdigits : ∀ c ∈ digits, c.isDigit = true)
    (hrest : NoDigitAhead rest) : (digits ++ rest).dropWhile Char.isDigit = rest := by
  rw [List.dropWhile_append_of_pos hdigits]
  cases rest with
  | nil => rfl
  | cons c more => rw [List.dropWhile_cons, hrest c rfl, if_neg Bool.false_ne_true]

theorem splitNumber_digits {most : Nat} (hdigits : ∀ c ∈ digits, c.isDigit = true)
    (hsome : digits ≠ []) (hmost : digits.length ≤ most) (hrest : NoDigitAhead rest) :
    splitNumber most (digits ++ rest) = some (Decimal.naturalOf digits, rest) := by
  have hempty : digits.isEmpty = false := List.isEmpty_eq_false_iff.mpr hsome
  have hshort : decide (most < digits.length) = false := decide_eq_false (Nat.not_lt.mpr hmost)
  rw [splitNumber, takeWhile_digits hdigits hrest, dropWhile_digits hdigits hrest, hempty, hshort]
  rfl

end Digits

theorem toList_padded (width number : Nat) :
    (padded width number).toList =
      List.replicate (width - (Nat.toDigits 10 number).length) '0' ++ Nat.toDigits 10 number :=
  String.toList_ofList

theorem isDigit_of_mem_padded (width number : Nat) :
    ∀ c ∈ (padded width number).toList, c.isDigit = true := by
  intro c hc
  rw [toList_padded] at hc
  rcases List.mem_append.mp hc with hzero | hdigit
  · rw [List.eq_of_mem_replicate hzero]
    rfl
  · exact Nat.isDigit_of_mem_toDigits (by decide) (by decide) hdigit

theorem padded_ne_nil (width number : Nat) : (padded width number).toList ≠ [] := by
  rw [toList_padded]
  exact List.append_ne_nil_of_right_ne_nil _ Nat.toDigits_ne_nil

/-- Zeros in front do not change the number. -/
theorem naturalOf_padded (width number : Nat) :
    Decimal.naturalOf (padded width number).toList = number := by
  have hfold : ∀ digits, Decimal.naturalOf digits = Nat.ofDigitChars 10 digits 0 := fun _ => rfl
  rw [hfold, toList_padded, Nat.ofDigitChars_append, Nat.ofDigitChars_replicate_zero,
    Nat.mul_zero, Nat.ofDigitChars_ten_toDigits]

/-- A number that fits is as wide as asked for. -/
theorem length_padded {width number : Nat} (hwidth : 0 < width)
    (hfits : number < Nat.pow 10 width) : (padded width number).toList.length = width := by
  have hle := (Nat.length_toDigits_le_iff (b := 10) (by decide) hwidth).mpr hfits
  rw [toList_padded, List.length_append, List.length_replicate]
  omega

theorem splitNumber_padded {width number : Nat} {rest : List Char} (hwidth : 0 < width)
    (hfits : number < Nat.pow 10 width) (hrest : NoDigitAhead rest) :
    splitNumber width ((padded width number).toList ++ rest) = some (number, rest) := by
  have hsplit := splitNumber_digits (isDigit_of_mem_padded width number)
    (padded_ne_nil width number) (Nat.le_of_eq (length_padded hwidth hfits)) hrest
  rw [hsplit, naturalOf_padded]

/-! ## Dates -/

theorem splitYear_of_isDigit {c : Char} (hc : c.isDigit = true) (rest : List Char) :
    splitYear (c :: rest) =
      (splitNumber 4 (c :: rest)).map fun (year, more) => ((year : Int), more) := by
  unfold splitYear
  split
  · next heq =>
    cases heq
    cases hc
  · next heq =>
    cases heq
    cases hc
  · rfl

/-- After a sign a year may have any number of digits. -/
theorem splitNumber_padded_of_sign (width number : Nat) {rest : List Char}
    (hrest : NoDigitAhead rest) :
    splitNumber ((padded width number).toList ++ rest).length
        ((padded width number).toList ++ rest) = some (number, rest) := by
  have hlength : (padded width number).toList.length ≤
      ((padded width number).toList ++ rest).length := by
    rw [List.length_append]
    omega
  have hsplit := splitNumber_digits (isDigit_of_mem_padded width number)
    (padded_ne_nil width number) hlength hrest
  rw [hsplit, naturalOf_padded]

theorem splitYear_yearText (year : Int) {rest : List Char} (hrest : NoDigitAhead rest) :
    splitYear ((yearText year).toList ++ rest) = some (year, rest) := by
  rw [yearText]
  split
  · next hshort =>
    have hfits : year.toNat < Nat.pow 10 4 := by
      change year.toNat < 10000
      omega
    have hsplit := splitNumber_padded (by decide) hfits hrest
    obtain ⟨c, more, htext⟩ := List.exists_cons_of_ne_nil (padded_ne_nil 4 year.toNat)
    have hc : c.isDigit = true :=
      isDigit_of_mem_padded 4 year.toNat c (htext ▸ List.mem_cons_self)
    rw [htext, List.cons_append] at hsplit ⊢
    rw [splitYear_of_isDigit hc, hsplit]
    simp only [Option.map_some, Int.toNat_of_nonneg hshort.1]
  · next hlong =>
    have hsplit := splitNumber_padded_of_sign 4 year.natAbs hrest
    rw [String.toList_append, List.append_assoc]
    split
    · next hnegative =>
      have hyear : -(year.natAbs : Int) = year := by omega
      simp only [String.reduceToList, List.cons_append, List.nil_append, splitYear, hsplit,
        Option.map_some, hyear]
    · next hpositive =>
      have hyear : (year.natAbs : Int) = year := by omega
      simp only [String.reduceToList, List.cons_append, List.nil_append, splitYear, hsplit,
        Option.map_some, hyear]

end Iso

theorem Date.make?_fields (date : Date) :
    Date.make? date.year date.month date.day = some date := dif_pos date.valid

theorem Date.month_lt (date : Date) : date.month < Nat.pow 10 2 := by
  obtain ⟨_, _, _, hmonth, _⟩ := date.valid
  change date.month < 100
  omega

theorem Date.day_lt (date : Date) : date.day < Nat.pow 10 2 := by
  obtain ⟨_, _, _, _, _, hday⟩ := date.valid
  have hlength : Date.monthLength date.year date.month ≤ 31 := by
    rw [Date.monthLength]
    repeat' split
    all_goals omega
  change date.day < 100
  omega

namespace Iso

theorem splitDate_render (date : Date) {rest : List Char} (hrest : NoDigitAhead rest) :
    splitDate (date.render.toList ++ rest) = some (date, rest) := by
  have hdash : ∀ more, NoDigitAhead ('-' :: more) := noDigitAhead_cons rfl
  have htext : date.render.toList ++ rest =
      (yearText date.year).toList ++
        '-' :: ((padded 2 date.month).toList ++ '-' :: ((padded 2 date.day).toList ++ rest)) := by
    simp [Date.render]
  have hyear := splitYear_yearText date.year
    (hdash ((padded 2 date.month).toList ++ '-' :: ((padded 2 date.day).toList ++ rest)))
  have hmonth := splitNumber_padded (by decide) date.month_lt
    (hdash ((padded 2 date.day).toList ++ rest))
  have hday := splitNumber_padded (by decide) date.day_lt hrest
  simp [splitDate, htext, hyear, splitMark, hmonth, hday, Date.make?_fields]

/-! ## Times -/

/-- The text does not go on with a digit or a point. -/
def NoFractionAhead (rest : List Char) : Prop :=
  NoDigitAhead rest ∧ rest.head? ≠ some '.'

/-- A fraction with fewer than nine digits is scaled up to nanoseconds. -/
theorem splitFraction_padded {width number nanosecond : Nat} {rest : List Char}
    (hwidth : 0 < width) (hnine : width ≤ 9) (hfits : number < Nat.pow 10 width)
    (hscale : number * Nat.pow 10 (9 - width) = nanosecond) (hrest : NoDigitAhead rest) :
    splitFraction (("." ++ padded width number).toList ++ rest) = some (nanosecond, rest) := by
  have htext : ("." ++ padded width number).toList ++ rest =
      '.' :: ((padded width number).toList ++ rest) := by
    simp
  have hdigits := isDigit_of_mem_padded width number
  have hlength := length_padded hwidth hfits
  have hempty : (padded width number).toList.isEmpty = false :=
    List.isEmpty_eq_false_iff.mpr (padded_ne_nil width number)
  have hcounted : (padded width number).toList.take 9 = (padded width number).toList :=
    List.take_of_length_le (Nat.le_trans (Nat.le_of_eq hlength) hnine)
  have hfraction : fractionOf (padded width number).toList = nanosecond := by
    rw [fractionOf, hcounted, naturalOf_padded, hlength, hscale]
  simp only [htext, splitFraction, takeWhile_digits hdigits hrest,
    dropWhile_digits hdigits hrest, hempty, hfraction]
  rfl

theorem splitFraction_fractionText {nanosecond : Nat} (hbound : nanosecond < nanosPerSecond)
    {rest : List Char} (hrest : NoFractionAhead rest) :
    splitFraction ((fractionText nanosecond).toList ++ rest) = some (nanosecond, rest) := by
  change nanosecond < 1000000000 at hbound
  rw [fractionText]
  split
  · next hzero =>
    rw [hzero]
    change splitFraction rest = _
    unfold splitFraction
    split
    · exact absurd rfl hrest.2
    · rfl
  · split
    · next hmilli =>
      have hfits : nanosecond / 1000000 < 1000 := by omega
      have hscale : nanosecond / 1000000 * 1000000 = nanosecond := by omega
      exact splitFraction_padded (by decide) (by decide) hfits hscale hrest.1
    · split
      · next hmicro =>
        have hfits : nanosecond / 1000 < 1000000 := by omega
        have hscale : nanosecond / 1000 * 1000 = nanosecond := by omega
        exact splitFraction_padded (by decide) (by decide) hfits hscale hrest.1
      · exact splitFraction_padded (by decide) (by decide) hbound (Nat.mul_one _) hrest.1

end Iso

/-! ## Times -/

/-- A leap second ends a minute, as no other has a numeral. -/
def TimeOfDay.LeapEndsMinute (time : TimeOfDay) : Prop := time.IsLeap → time.second = 59

theorem TimeOfDay.fields_in_range (time : TimeOfDay) :
    time.hour < 24 ∧ time.minute < 60 ∧ time.second < 60 ∧
      time.nanosecond < 2 * nanosPerSecond := by
  have hday := time.seconds_lt
  refine ⟨?_, ?_, ?_, time.fraction_lt⟩ <;>
    simp only [TimeOfDay.hour, TimeOfDay.minute, TimeOfDay.second] <;> omega

theorem TimeOfDay.seconds_of_fields (time : TimeOfDay) :
    (time.hour * 60 + time.minute) * 60 + time.second = time.seconds := by
  simp only [TimeOfDay.hour, TimeOfDay.minute, TimeOfDay.second]
  omega

theorem TimeOfDay.make?_fields {time : TimeOfDay} (hleap : time.LeapEndsMinute) :
    TimeOfDay.make? time.hour time.minute time.second time.nanosecond = some time := by
  rw [TimeOfDay.make?, dif_pos ⟨time.fields_in_range, hleap⟩]
  simp only [time.seconds_of_fields, TimeOfDay.nanosecond]

namespace Iso

/-- The second of a clock and its fraction are found from the second and the fraction that are
written. -/
theorem timeOfFields?_written {time : TimeOfDay} (hleap : time.LeapEndsMinute) :
    timeOfFields? time.hour time.minute (time.second + time.nanosecond / nanosPerSecond)
      (time.nanosecond % nanosPerSecond) = some time := by
  obtain ⟨_, _, hsecond, hnanosecond⟩ := time.fields_in_range
  have hmade := TimeOfDay.make?_fields hleap
  by_cases hwithin : time.IsLeap
  · have hwhole : time.nanosecond / nanosPerSecond = 1 :=
      Nat.div_eq_of_lt_le (by rwa [Nat.one_mul]) hnanosecond
    have hfraction : nanosPerSecond + time.nanosecond % nanosPerSecond = time.nanosecond := by
      have hparts := Nat.div_add_mod time.nanosecond nanosPerSecond
      rwa [hwhole, Nat.mul_one] at hparts
    rw [hleap hwithin] at hmade ⊢
    rw [timeOfFields?, hwhole, if_pos rfl, hfraction, hmade]
  · have hless : time.nanosecond < nanosPerSecond := Nat.not_le.mp hwithin
    rw [Nat.div_eq_of_lt hless, Nat.mod_eq_of_lt hless, Nat.add_zero, timeOfFields?,
      if_neg (Nat.ne_of_lt hsecond), hmade]

end Iso

namespace Iso

theorem noDigitAhead_fractionText (nanosecond : Nat) {rest : List Char}
    (hrest : NoDigitAhead rest) : NoDigitAhead ((fractionText nanosecond).toList ++ rest) := by
  have hpoint : ∀ digits : String, NoDigitAhead (("." ++ digits).toList ++ rest) := by
    intro digits
    rw [String.toList_append]
    exact noDigitAhead_cons rfl _
  rw [fractionText]
  split
  · exact hrest
  · split
    · exact hpoint _
    · split
      · exact hpoint _
      · exact hpoint _

theorem splitTime_render {time : TimeOfDay} (hleap : time.LeapEndsMinute) {rest : List Char}
    (hrest : NoFractionAhead rest) :
    splitTime (time.render.toList ++ rest) = some (time, rest) := by
  obtain ⟨hhour, hminute, hsecond, hnanosecond⟩ := time.fields_in_range
  have htwo : ∀ {number}, number < 60 → number < Nat.pow 10 2 := by
    intro number hnumber
    change number < 100
    omega
  have hcolon : ∀ more, NoDigitAhead (':' :: more) := noDigitAhead_cons rfl
  let second : Nat := time.second + time.nanosecond / nanosPerSecond
  let nanosecond : Nat := time.nanosecond % nanosPerSecond
  let fraction : List Char := (fractionText nanosecond).toList ++ rest
  have htext : time.render.toList ++ rest =
      (padded 2 time.hour).toList ++ ':' :: ((padded 2 time.minute).toList ++
        ':' :: ((padded 2 second).toList ++ fraction)) := by
    simp [TimeOfDay.render, fraction, second, nanosecond]
  have hhours := splitNumber_padded (by decide) (htwo (Nat.lt_trans hhour (by decide)))
    (hcolon ((padded 2 time.minute).toList ++ ':' :: ((padded 2 second).toList ++ fraction)))
  have hminutes := splitNumber_padded (by decide) (htwo hminute)
    (hcolon ((padded 2 second).toList ++ fraction))
  have hfits : second < Nat.pow 10 2 := by
    have hwhole : time.nanosecond / nanosPerSecond < 2 :=
      Nat.div_lt_of_lt_mul (by rwa [Nat.mul_comm])
    change time.second + time.nanosecond / nanosPerSecond < 100
    omega
  have hahead : NoDigitAhead fraction := noDigitAhead_fractionText nanosecond hrest.1
  have hseconds := splitNumber_padded (by decide) hfits hahead
  have hfraction : splitFraction fraction = some (nanosecond, rest) :=
    splitFraction_fractionText (Nat.mod_lt _ (by decide)) hrest
  simp [splitTime, htext, hhours, splitMark, hminutes, hseconds, hfraction, second, nanosecond,
    timeOfFields?_written hleap]

theorem splitLocal_render {point : LocalDateTime} (hleap : point.time.LeapEndsMinute)
    {rest : List Char} (hrest : NoFractionAhead rest) :
    splitLocal (point.render.toList ++ rest) = some (point, rest) := by
  have htext : point.render.toList ++ rest =
      point.date.render.toList ++ 'T' :: (point.time.render.toList ++ rest) := by
    simp [LocalDateTime.render]
  have hdate := splitDate_render point.date
    (noDigitAhead_cons (c := 'T') rfl (point.time.render.toList ++ rest))
  have htime := splitTime_render hleap hrest
  simp [splitLocal, htext, hdate, splitMark, htime]

/-! ## Offsets -/

theorem readHoursMinutes_padded {hours minutes : Nat} (hhours : hours < Nat.pow 10 2)
    (hminutes : minutes < 60) :
    readHoursMinutes ((padded 2 hours).toList ++ ':' :: (padded 2 minutes).toList) =
      some ((3600 * hours + 60 * minutes : Nat) : Int) := by
  have hfirst := splitNumber_padded (by decide) hhours
    (noDigitAhead_cons (c := ':') rfl (padded 2 minutes).toList)
  have hfits : minutes < Nat.pow 10 2 := Nat.lt_trans hminutes (by decide)
  have hsecond := splitNumber_padded (by decide) hfits noDigitAhead_nil
  rw [List.append_nil] at hsecond
  simp [readHoursMinutes, hfirst, splitMark, hsecond, hminutes]

/-- An offset of whole minutes is written without rounding. -/
theorem readOffset_offsetText {offset : Int} (hday : -86400 < offset ∧ offset < 86400)
    (hminutes : offset % 60 = 0) : readOffset (offsetText offset).toList = some offset := by
  let minutes : Nat := (offset.natAbs + 30) / 60
  have hsize : 3600 * (minutes / 60) + 60 * (minutes % 60) = offset.natAbs := by
    simp only [minutes]
    omega
  have hhours : minutes / 60 < Nat.pow 10 2 := by
    change minutes / 60 < 100
    omega
  have hread := readHoursMinutes_padded hhours (Nat.mod_lt minutes (by decide : 0 < 60))
  have htext : (offsetText offset).toList = (signText offset).toList ++
      ((padded 2 (minutes / 60)).toList ++ ':' :: (padded 2 (minutes % 60)).toList) := by
    simp [offsetText, minutes]
  rw [hsize] at hread
  rw [htext, signText]
  split
  · next hnegative =>
    have hoffset : -(offset.natAbs : Int) = offset := by omega
    simp only [String.reduceToList, List.cons_append, List.nil_append, readOffset, hread,
      Option.map_some, hoffset]
  · next hpositive =>
    have hoffset : (offset.natAbs : Int) = offset := by omega
    simp only [String.reduceToList, List.cons_append, List.nil_append, readOffset, hread, hoffset]

theorem noFractionAhead_offsetText (offset : Int) :
    NoFractionAhead (offsetText offset).toList := by
  rw [offsetText, String.toList_append, String.toList_append, String.toList_append, signText]
  split
  · exact ⟨noDigitAhead_cons (c := '-') rfl _, nofun⟩
  · exact ⟨noDigitAhead_cons (c := '+') rfl _, nofun⟩

theorem noFractionAhead_nil : NoFractionAhead [] := ⟨noDigitAhead_nil, nofun⟩

end Iso

/-! ## Whole texts -/

theorem Date.read?_render (date : Date) : Date.read? date.render = some date := by
  have hsplit := Iso.splitDate_render date Iso.noDigitAhead_nil
  rw [List.append_nil] at hsplit
  rw [Date.read?, hsplit]
  rfl

theorem TimeOfDay.read?_render {time : TimeOfDay} (hleap : time.LeapEndsMinute) :
    TimeOfDay.read? time.render = some time := by
  have hsplit := Iso.splitTime_render hleap Iso.noFractionAhead_nil
  rw [List.append_nil] at hsplit
  rw [TimeOfDay.read?, hsplit]
  rfl

theorem LocalDateTime.read?_render {point : LocalDateTime} (hleap : point.time.LeapEndsMinute) :
    LocalDateTime.read? point.render = some point := by
  have hsplit := Iso.splitLocal_render hleap Iso.noFractionAhead_nil
  rw [List.append_nil] at hsplit
  rw [LocalDateTime.read?, hsplit]
  rfl

theorem ZonedDateTime.make?_fields (point : ZonedDateTime) :
    ZonedDateTime.make? point.clock point.offset = some point := by
  rw [ZonedDateTime.make?, dif_pos point.offset_lt, dif_pos point.inSpan]

/-- A zoned datetime is read back if its offset is a whole number of minutes. -/
theorem ZonedDateTime.read?_renderUtc {point : ZonedDateTime}
    (hleap : point.clock.time.LeapEndsMinute) (hminutes : point.offset % 60 = 0) :
    ZonedDateTime.read? point.renderUtc = some point := by
  have hread : ∀ {zone : List Char}, Iso.NoFractionAhead zone →
      Iso.readOffset zone = some point.offset → point.renderUtc.toList =
        point.clock.render.toList ++ zone → ZonedDateTime.read? point.renderUtc = some point := by
    intro zone hrest hoffset htext
    have hsplit := Iso.splitLocal_render hleap hrest
    simp [ZonedDateTime.read?, htext, hsplit, hoffset, point.make?_fields]
  by_cases hzero : point.offset = 0
  · have hrest : Iso.NoFractionAhead ['Z'] := ⟨Iso.noDigitAhead_cons rfl _, nofun⟩
    apply hread hrest
    · rw [hzero]
      rfl
    · rw [ZonedDateTime.renderUtc, if_pos hzero, String.toList_append]
      rfl
  · apply hread (Iso.noFractionAhead_offsetText point.offset)
    · exact Iso.readOffset_offsetText point.offset_lt hminutes
    · rw [ZonedDateTime.renderUtc, if_neg hzero, String.toList_append]

end CypherExpr
