import CypherExpr.Duration.Iso
import CypherExpr.Proofs.Calendar.IsoText
import CypherExpr.Proofs.Duration.Exactness
import Mathlib.Data.List.TakeWhile

/-!
# ISO 8601 text tells durations apart

The text of a duration is a row of numbers, each with the letter of its unit behind it, and those
that are zero are left out.  Numbers hold no letters and units come in a fixed order, so a text can
be taken apart from the front: a part is there just if its letter is the first one ahead.  Years and
months add up to the months, and hours, minutes and seconds, which all bear the sign of the part
below a day, to that part.
-/

namespace CypherExpr.Duration

/-! ## Numbers with a unit -/

/-- A character of a signed decimal number. -/
def isNumeral (c : Char) : Bool := c.isDigit || c == '-' || c == '.'

/-- The character behind the number that a text begins with. -/
def unitAhead (chars : List Char) : Option Char := (chars.dropWhile isNumeral).head?

/-- The text of one part of a duration: a number with its unit, or nothing. -/
inductive Measure (unit : Char) : List Char → Prop where
  | absent : Measure unit []
  | number {digits : List Char} (hdigits : ∀ c ∈ digits, isNumeral c = true) :
      Measure unit (digits ++ [unit])

section

variable {unit other : Char} {digits rest rest' left right : List Char}

theorem dropWhile_numeral (hdigits : ∀ c ∈ digits, isNumeral c = true)
    (hunit : isNumeral unit = false) :
    (digits ++ [unit] ++ rest).dropWhile isNumeral = unit :: rest := by
  rw [List.append_assoc, List.dropWhile_append_of_pos hdigits, List.singleton_append,
    List.dropWhile_cons, hunit, if_neg Bool.false_ne_true]

theorem takeWhile_numeral (hdigits : ∀ c ∈ digits, isNumeral c = true)
    (hunit : isNumeral unit = false) :
    (digits ++ [unit] ++ rest).takeWhile isNumeral = digits := by
  rw [List.append_assoc, List.takeWhile_append_of_pos hdigits, List.singleton_append,
    List.takeWhile_cons, hunit, if_neg Bool.false_ne_true, List.append_nil]

theorem unitAhead_number (hdigits : ∀ c ∈ digits, isNumeral c = true)
    (hunit : isNumeral unit = false) : unitAhead (digits ++ [unit] ++ rest) = some unit := by
  rw [unitAhead, dropWhile_numeral hdigits hunit]
  rfl

theorem unitAhead_cons (hunit : isNumeral unit = false) : unitAhead (unit :: rest) = some unit := by
  have hnone : ∀ c ∈ ([] : List Char), isNumeral c = true := nofun
  exact unitAhead_number hnone hunit

/-- A unit is not ahead if it is neither that of the first part nor ahead behind it. -/
theorem Measure.unitAhead_ne (hleft : Measure other left) (hother : isNumeral other = false)
    (hunit : other ≠ unit) (hrest : unitAhead rest ≠ some unit) :
    unitAhead (left ++ rest) ≠ some unit := by
  cases hleft with
  | absent => exact hrest
  | number hdigits =>
      rw [unitAhead_number hdigits hother]
      exact fun hequal => hunit (Option.some.inj hequal)

/-- The first part of a text is determined by its unit, which is not ahead again behind the part. -/
theorem Measure.append_inj (hunit : isNumeral unit = false) (hleft : Measure unit left)
    (hright : Measure unit right) (hrest : unitAhead rest ≠ some unit)
    (hrest' : unitAhead rest' ≠ some unit) (htext : left ++ rest = right ++ rest') :
    left = right ∧ rest = rest' := by
  cases hleft with
  | absent =>
      cases hright with
      | absent => exact ⟨rfl, htext⟩
      | number hdigits =>
          rw [List.nil_append] at htext
          rw [htext] at hrest
          exact absurd (unitAhead_number hdigits hunit) hrest
  | number hdigits =>
      cases hright with
      | absent =>
          rw [List.nil_append] at htext
          rw [← htext] at hrest'
          exact absurd (unitAhead_number hdigits hunit) hrest'
      | number hdigits' =>
          have htake := congrArg (List.takeWhile isNumeral) htext
          have hdrop := congrArg (List.dropWhile isNumeral) htext
          rw [takeWhile_numeral hdigits hunit, takeWhile_numeral hdigits' hunit] at htake
          rw [dropWhile_numeral hdigits hunit, dropWhile_numeral hdigits' hunit] at hdrop
          rw [htake]
          exact ⟨rfl, List.tail_eq_of_cons_eq hdrop⟩

end

/-! ## Signed numbers -/

theorem isNumeral_of_isDigit {c : Char} (hc : c.isDigit = true) : isNumeral c = true := by
  rw [isNumeral, hc]
  rfl

theorem toList_toString (number : Nat) :
    (toString number).toList = Nat.toDigits 10 number := by
  rw [Nat.toString_eq_repr, Nat.toList_repr]

theorem isDigit_of_mem_toString {number : Nat} :
    ∀ c ∈ (toString number).toList, c.isDigit = true := by
  intro c hc
  rw [toList_toString] at hc
  exact Nat.isDigit_of_mem_toDigits (by decide) (by decide) hc

/-- The digits of a number read back. -/
theorem nat_eq_of_toString_eq {left right : Nat}
    (htext : (toString left).toList = (toString right).toList) : left = right := by
  rw [toList_toString, toList_toString] at htext
  calc left
      = Nat.ofDigitChars 10 (Nat.toDigits 10 left) 0 := Nat.ofDigitChars_ten_toDigits.symm
    _ = Nat.ofDigitChars 10 (Nat.toDigits 10 right) 0 := by rw [htext]
    _ = right := Nat.ofDigitChars_ten_toDigits

theorem head?_toString_append_ne (number : Nat) (rest : List Char) :
    ((toString number).toList ++ rest).head? ≠ some '-' := by
  have hsome : (toString number).toList ≠ [] := by
    rw [toList_toString]
    exact Nat.toDigits_ne_nil
  obtain ⟨c, more, htext⟩ := List.exists_cons_of_ne_nil hsome
  have hc : c.isDigit = true := isDigit_of_mem_toString c (htext ▸ List.mem_cons_self)
  rw [htext]
  rintro ⟨⟩
  cases hc

/-- The sign of a value before the digits of its size. -/
def signed (value : Int) (size : List Char) : List Char :=
  (if value < 0 then ['-'] else []) ++ size

theorem toList_toString_int (count : Int) :
    (toString count).toList = signed count (toString count.natAbs).toList := by
  cases count with
  | ofNat number => rfl
  | negSucc number =>
      rw [signed, if_pos (Int.negSucc_lt_zero number)]
      exact String.toList_append

theorem isNumeral_of_mem_signed {value : Int} {size : List Char}
    (hsize : ∀ c ∈ size, isNumeral c = true) : ∀ c ∈ signed value size, isNumeral c = true := by
  intro c hc
  rcases List.mem_append.mp hc with hsign | hdigit
  · split at hsign
    · rw [List.mem_singleton.mp hsign]
      rfl
    · cases hsign
  · exact hsize c hdigit

theorem signed_inj {left right : Int} {size size' : List Char} (hleft : size.head? ≠ some '-')
    (hright : size'.head? ≠ some '-') (htext : signed left size = signed right size') :
    (left < 0 ↔ right < 0) ∧ size = size' := by
  unfold signed at htext
  split at htext <;> split at htext
  · exact ⟨by omega, List.append_cancel_left htext⟩
  · exact absurd (congrArg List.head? htext).symm hright
  · exact absurd (congrArg List.head? htext) hleft
  · exact ⟨by omega, htext⟩

/-! ## Counts -/

theorem measure_countText (count : Int) {unit : String} {letter : Char}
    (hunit : unit.toList = [letter]) : Measure letter (countText count unit).toList := by
  unfold countText
  split
  · exact .absent
  · rw [String.toList_append, hunit, toList_toString_int]
    apply Measure.number
    apply isNumeral_of_mem_signed
    exact fun c hc => isNumeral_of_isDigit (isDigit_of_mem_toString c hc)

theorem int_eq_of_toString_eq {left right : Int}
    (htext : (toString left).toList = (toString right).toList) : left = right := by
  rw [toList_toString_int, toList_toString_int] at htext
  have hhead : ∀ number : Nat, (toString number).toList.head? ≠ some '-' := by
    intro number
    rw [← List.append_nil (toString number).toList]
    exact head?_toString_append_ne number []
  obtain ⟨hsign, hsize⟩ := signed_inj (hhead _) (hhead _) htext
  have hnatAbs := nat_eq_of_toString_eq hsize
  omega

theorem countText_injective {left right : Int} {unit : String} {letter : Char}
    (hunit : unit.toList = [letter])
    (htext : (countText left unit).toList = (countText right unit).toList) : left = right := by
  unfold countText at htext
  split at htext <;> split at htext
  · omega
  · simp [hunit] at htext
  · simp [hunit] at htext
  · rw [String.toList_append, String.toList_append] at htext
    exact int_eq_of_toString_eq (List.append_cancel_right htext)

/-- A count in front of a text is determined by it, and so is what is behind. -/
theorem append_countText_inj {left right : Int} {unit : String} {letter : Char}
    {rest rest' : List Char} (hunit : unit.toList = [letter]) (hletter : isNumeral letter = false)
    (hrest : unitAhead rest ≠ some letter) (hrest' : unitAhead rest' ≠ some letter)
    (htext : (countText left unit).toList ++ rest = (countText right unit).toList ++ rest') :
    left = right ∧ rest = rest' := by
  have hleft := measure_countText left hunit
  have hright := measure_countText right hunit
  obtain ⟨hcount, hbehind⟩ := hleft.append_inj hletter hright hrest hrest' htext
  exact ⟨countText_injective hunit hcount, hbehind⟩

/-! ## Fractions -/

/-- The digits of a fraction lack nothing but zeros at the end. -/
theorem exists_padded_eq (nanos : Nat) : ∃ count,
    (Iso.padded 9 nanos).toList = (fractionDigits nanos).toList ++ List.replicate count '0' := by
  let reversed := (Iso.padded 9 nanos).toList.reverse
  let zeros := reversed.takeWhile (· == '0')
  have hzeros : zeros = List.replicate zeros.length '0' := by
    apply List.eq_replicate_of_mem
    intro c hc
    have hzero := List.mem_takeWhile_imp hc
    exact beq_iff_eq.mp hzero
  have hdigits : (fractionDigits nanos).toList = (reversed.dropWhile (· == '0')).reverse :=
    String.toList_ofList
  apply Exists.intro zeros.length
  calc (Iso.padded 9 nanos).toList
      = (zeros ++ reversed.dropWhile (· == '0')).reverse := by
        rw [List.takeWhile_append_dropWhile, List.reverse_reverse]
    _ = (reversed.dropWhile (· == '0')).reverse ++ zeros.reverse := List.reverse_append
    _ = (fractionDigits nanos).toList ++ (List.replicate zeros.length '0').reverse := by
        rw [hdigits, ← hzeros]
    _ = (fractionDigits nanos).toList ++ List.replicate zeros.length '0' := by
        rw [List.reverse_replicate]

theorem isDigit_of_mem_fractionDigits {nanos : Nat} :
    ∀ c ∈ (fractionDigits nanos).toList, c.isDigit = true := by
  intro c hc
  obtain ⟨count, hpadded⟩ := exists_padded_eq nanos
  apply Iso.isDigit_of_mem_padded 9 nanos c
  rw [hpadded]
  exact List.mem_append_left _ hc

theorem fractionDigits_injective {left right : Nat} (hleft : left < nanosPerSecond)
    (hright : right < nanosPerSecond)
    (htext : (fractionDigits left).toList = (fractionDigits right).toList) : left = right := by
  obtain ⟨count, hpadded⟩ := exists_padded_eq left
  obtain ⟨count', hpadded'⟩ := exists_padded_eq right
  have hlength : (Iso.padded 9 left).toList.length = 9 := Iso.length_padded (by decide) hleft
  have hlength' : (Iso.padded 9 right).toList.length = 9 := Iso.length_padded (by decide) hright
  rw [hpadded, List.length_append, List.length_replicate] at hlength
  rw [hpadded', List.length_append, List.length_replicate, ← htext] at hlength'
  have hcount : count = count' := by omega
  calc left
      = Decimal.naturalOf (Iso.padded 9 left).toList := (Iso.naturalOf_padded 9 left).symm
    _ = Decimal.naturalOf (Iso.padded 9 right).toList := by
        rw [hpadded, hpadded', htext, hcount]
    _ = right := Iso.naturalOf_padded 9 right

/-- The fraction of a second behind its point, nothing for zero. -/
def fractionPart (fraction : Nat) : List Char :=
  if fraction = 0 then [] else '.' :: (fractionDigits fraction).toList

theorem noDigitAhead_fractionPart (fraction : Nat) : Iso.NoDigitAhead (fractionPart fraction) := by
  unfold fractionPart
  split
  · exact Iso.noDigitAhead_nil
  · exact Iso.noDigitAhead_cons rfl _

theorem fractionPart_injective {left right : Nat} (hleft : left < nanosPerSecond)
    (hright : right < nanosPerSecond) (htext : fractionPart left = fractionPart right) :
    left = right := by
  unfold fractionPart at htext
  split at htext <;> split at htext
  · omega
  · cases htext
  · cases htext
  · exact fractionDigits_injective hleft hright (List.tail_eq_of_cons_eq htext)

/-- Nanoseconds as a decimal number of seconds. -/
def secondsText (nanos : Int) : List Char :=
  signed nanos ((toString (nanos.natAbs / nanosPerSecond)).toList ++
    fractionPart (nanos.natAbs % nanosPerSecond))

theorem isNumeral_of_mem_secondsText {nanos : Int} :
    ∀ c ∈ secondsText nanos, isNumeral c = true := by
  apply isNumeral_of_mem_signed
  intro c hc
  rcases List.mem_append.mp hc with hwhole | hfraction
  · exact isNumeral_of_isDigit (isDigit_of_mem_toString c hwhole)
  · unfold fractionPart at hfraction
    split at hfraction
    · cases hfraction
    · rcases List.mem_cons.mp hfraction with hpoint | hdigit
      · rw [hpoint]
        rfl
      · exact isNumeral_of_isDigit (isDigit_of_mem_fractionDigits c hdigit)

theorem secondsText_injective {left right : Int} (htext : secondsText left = secondsText right) :
    left = right := by
  obtain ⟨hsign, hsize⟩ :=
    signed_inj (head?_toString_append_ne _ _) (head?_toString_append_ne _ _) htext
  have htake := congrArg (List.takeWhile Char.isDigit) hsize
  have hdrop := congrArg (List.dropWhile Char.isDigit) hsize
  rw [Iso.takeWhile_digits isDigit_of_mem_toString (noDigitAhead_fractionPart _),
    Iso.takeWhile_digits isDigit_of_mem_toString (noDigitAhead_fractionPart _)] at htake
  rw [Iso.dropWhile_digits isDigit_of_mem_toString (noDigitAhead_fractionPart _),
    Iso.dropWhile_digits isDigit_of_mem_toString (noDigitAhead_fractionPart _)] at hdrop
  have hwhole := nat_eq_of_toString_eq htake
  have hfraction :=
    fractionPart_injective (Nat.mod_lt _ (by decide)) (Nat.mod_lt _ (by decide)) hdrop
  simp only [nanosPerSecond] at hwhole hfraction
  omega

/-! ## The part below a day -/

/-- A size with the sign of a value. -/
def withSign (value : Int) (size : Nat) : Int := if value < 0 then -size else size

theorem natAbs_withSign (value : Int) (size : Nat) : (withSign value size).natAbs = size := by
  unfold withSign
  split <;> omega

theorem countText_withSign (value : Int) (size : Nat) (unit : String) :
    countText (withSign value size) unit =
      if size = 0 then "" else (if value < 0 then "-" else "") ++ toString size ++ unit := by
  have hnatAbs := natAbs_withSign value size
  by_cases hsize : size = 0
  · rw [countText, if_pos hsize, if_pos (by omega)]
  · rw [countText, if_neg hsize, if_neg (by omega)]
    congr 1
    apply String.toList_inj.mp
    have hsign : withSign value size < 0 ↔ value < 0 := by
      unfold withSign
      split <;> omega
    rw [toList_toString_int, hnatAbs, signed, String.toList_append]
    simp only [hsign, apply_ite String.toList]
    rfl

def hoursOf (subDay : Int) : Int := withSign subDay (subDay.natAbs / (3600 * nanosPerSecond))

def minutesOf (subDay : Int) : Int := withSign subDay (subDay.natAbs / (60 * nanosPerSecond) % 60)

/-- The seconds below a minute in nanoseconds. -/
def secondsOf (subDay : Int) : Int := withSign subDay (subDay.natAbs % (60 * nanosPerSecond))

theorem eq_of_clock_eq {left right : Int} (hhours : hoursOf left = hoursOf right)
    (hminutes : minutesOf left = minutesOf right) (hseconds : secondsOf left = secondsOf right) :
    left = right := by
  simp only [hoursOf, minutesOf, secondsOf, withSign, nanosPerSecond] at hhours hminutes hseconds
  omega

/-- The last part of a clock text.  Zero seconds are written only if there is nothing before. -/
def secondsPart (subDay : Int) : List Char :=
  if secondsOf subDay = 0 ∧ subDay ≠ 0 then [] else secondsText (secondsOf subDay) ++ ['S']

theorem measure_secondsPart (subDay : Int) : Measure 'S' (secondsPart subDay) := by
  unfold secondsPart
  split
  · exact .absent
  · exact .number isNumeral_of_mem_secondsText

theorem secondsPart_injective {left right : Int} (htext : secondsPart left = secondsPart right) :
    secondsOf left = secondsOf right := by
  unfold secondsPart at htext
  split at htext <;> split at htext
  · omega
  · simp at htext
  · simp at htext
  · exact secondsText_injective (List.append_cancel_right htext)

/-- The text of the part below a day, which is `T0S` for zero. -/
def clockChars (subDay : Int) : List Char :=
  'T' :: ((countText (hoursOf subDay) "H").toList ++
    ((countText (minutesOf subDay) "M").toList ++ secondsPart subDay))

theorem clockChars_injective {left right : Int} (htext : clockChars left = clockChars right) :
    left = right := by
  -- No letter is ahead a second time, since all parts that follow have other letters.
  have hminutesBehind : ∀ subDay, ∀ unit, 'S' ≠ unit →
      unitAhead (secondsPart subDay) ≠ some unit := by
    intro subDay unit hunit
    rw [← List.append_nil (secondsPart subDay)]
    exact (measure_secondsPart subDay).unitAhead_ne rfl hunit nofun
  have hhoursBehind : ∀ subDay, unitAhead ((countText (minutesOf subDay) "M").toList ++
      secondsPart subDay) ≠ some 'H' := by
    intro subDay
    apply (measure_countText _ rfl).unitAhead_ne rfl (by decide)
    exact hminutesBehind subDay 'H' (by decide)
  obtain ⟨hhours, hchars⟩ := append_countText_inj rfl rfl (hhoursBehind left) (hhoursBehind right)
    (List.tail_eq_of_cons_eq htext)
  obtain ⟨hminutes, hchars⟩ := append_countText_inj rfl rfl
    (hminutesBehind left 'M' (by decide)) (hminutesBehind right 'M' (by decide)) hchars
  exact eq_of_clock_eq hhours hminutes (secondsPart_injective hchars)

theorem secondsPart_eq {subDay : Int} (hsome : subDay ≠ 0) :
    secondsPart subDay =
      (if subDay.natAbs / nanosPerSecond % 60 = 0 ∧ subDay.natAbs % nanosPerSecond = 0 then ""
        else (if subDay < 0 then "-" else "") ++ toString (subDay.natAbs / nanosPerSecond % 60)
          ++ (if subDay.natAbs % nanosPerSecond = 0 then ""
              else "." ++ fractionDigits (subDay.natAbs % nanosPerSecond)) ++ "S").toList := by
  have hsize : (secondsOf subDay).natAbs = subDay.natAbs % (60 * nanosPerSecond) :=
    natAbs_withSign _ _
  have hwhole : (secondsOf subDay).natAbs / nanosPerSecond =
      subDay.natAbs / nanosPerSecond % 60 := by
    simp only [hsize, nanosPerSecond]
    omega
  have hfraction : (secondsOf subDay).natAbs % nanosPerSecond =
      subDay.natAbs % nanosPerSecond := by
    simp only [hsize, nanosPerSecond]
    omega
  have hnone : secondsOf subDay = 0 ↔
      subDay.natAbs / nanosPerSecond % 60 = 0 ∧ subDay.natAbs % nanosPerSecond = 0 := by
    rw [← hwhole, ← hfraction]
    simp only [nanosPerSecond]
    omega
  by_cases hzero : secondsOf subDay = 0
  · rw [secondsPart, if_pos ⟨hzero, hsome⟩, if_pos (hnone.mp hzero)]
    rfl
  · have hsign : secondsOf subDay < 0 ↔ subDay < 0 := by
      unfold secondsOf withSign at hzero ⊢
      split <;> omega
    rw [secondsPart, if_neg fun h => hzero h.1, if_neg (mt hnone.mpr hzero), secondsText, signed,
      fractionPart, hwhole, hfraction]
    simp only [hsign, String.toList_append, apply_ite String.toList, List.append_assoc]
    rfl

theorem toList_clockText {subDay : Int} (hsome : subDay ≠ 0) :
    (clockText subDay).toList = clockChars subDay := by
  rw [clockChars, secondsPart_eq hsome, hoursOf, minutesOf, countText_withSign, countText_withSign,
    clockText]
  simp only [String.toList_append, List.append_assoc]
  rfl

/-! ## Whole texts -/

/-- The text below the days, which is there for the zero duration as well. -/
def clockPart (duration : Duration) : List Char :=
  if duration.subDay = 0 ∧ duration ≠ zero then [] else clockChars duration.subDay

theorem unitAhead_clockPart_ne (duration : Duration) {unit : Char} (hunit : 'T' ≠ unit) :
    unitAhead duration.clockPart ≠ some unit := by
  unfold clockPart
  split
  · nofun
  · rw [clockChars, unitAhead_cons rfl]
    exact fun hequal => hunit (Option.some.inj hequal)

theorem clockPart_injective {left right : Duration} (htext : left.clockPart = right.clockPart) :
    left.subDay = right.subDay := by
  unfold clockPart at htext
  split at htext <;> split at htext
  · omega
  · cases htext
  · cases htext
  · exact clockChars_injective htext

theorem toList_render (duration : Duration) :
    duration.render.toList =
      'P' :: ((countText (duration.months.toInt.tdiv 12) "Y").toList ++
        ((countText (duration.months.toInt.tmod 12) "M").toList ++
          ((countText duration.days.toInt "D").toList ++ duration.clockPart))) := by
  by_cases hzero : duration = zero
  · subst hzero
    decide +kernel
  · rw [render, isZero, decide_eq_false hzero, if_neg Bool.false_ne_true, clockPart]
    by_cases hsubDay : duration.subDay = 0
    · rw [if_pos hsubDay, if_pos ⟨hsubDay, hzero⟩]
      simp only [String.toList_append, List.append_assoc]
      rfl
    · rw [if_neg hsubDay, if_neg fun h => hsubDay h.1, ← toList_clockText hsubDay]
      simp only [String.toList_append, List.append_assoc]
      rfl

theorem eq_of_components_eq {left right : Duration}
    (hmonths : left.months.toInt = right.months.toInt)
    (hdays : left.days.toInt = right.days.toInt) (hsubDay : left.subDay = right.subDay) :
    left = right := by
  have hleft : ofExact? right.months.toInt right.days.toInt right.subDay = some left :=
    ofExact?_eq_some_iff.mpr ⟨hmonths, hdays, hsubDay⟩
  have hright : ofExact? right.months.toInt right.days.toInt right.subDay = some right :=
    ofExact?_eq_some_iff.mpr ⟨rfl, rfl, rfl⟩
  exact Option.some.inj (hleft.symm.trans hright)

/-- Durations of one text are equal in their months, days, seconds and nanoseconds. -/
theorem render_injective : Function.Injective render := by
  intro left right htext
  -- Months and minutes share a letter, but the letter of the clock comes in between.
  have hmonthsBehind : ∀ duration : Duration, ∀ unit, 'D' ≠ unit → 'T' ≠ unit →
      unitAhead ((countText duration.days.toInt "D").toList ++ duration.clockPart) ≠
        some unit := by
    intro duration unit hday hclock
    apply (measure_countText _ rfl).unitAhead_ne rfl hday
    exact unitAhead_clockPart_ne duration hclock
  have hyearsBehind : ∀ duration : Duration,
      unitAhead ((countText (duration.months.toInt.tmod 12) "M").toList ++
        ((countText duration.days.toInt "D").toList ++ duration.clockPart)) ≠ some 'Y' := by
    intro duration
    apply (measure_countText _ rfl).unitAhead_ne rfl (by decide)
    exact hmonthsBehind duration 'Y' (by decide) (by decide)
  have hchars := congrArg String.toList htext
  rw [toList_render, toList_render] at hchars
  obtain ⟨hyears, hchars⟩ := append_countText_inj rfl rfl (hyearsBehind left)
    (hyearsBehind right) (List.tail_eq_of_cons_eq hchars)
  obtain ⟨hmonthsOfYear, hchars⟩ := append_countText_inj rfl rfl
    (hmonthsBehind left 'M' (by decide) (by decide))
    (hmonthsBehind right 'M' (by decide) (by decide)) hchars
  obtain ⟨hdays, hclock⟩ := append_countText_inj rfl rfl
    (unitAhead_clockPart_ne left (by decide)) (unitAhead_clockPart_ne right (by decide)) hchars
  have hmonths : left.months.toInt = right.months.toInt := by
    calc left.months.toInt
        = 12 * left.months.toInt.tdiv 12 + left.months.toInt.tmod 12 :=
          (Int.mul_tdiv_add_tmod _ 12).symm
      _ = 12 * right.months.toInt.tdiv 12 + right.months.toInt.tmod 12 := by
          rw [hyears, hmonthsOfYear]
      _ = right.months.toInt := Int.mul_tdiv_add_tmod _ 12
  exact eq_of_components_eq hmonths hdays (clockPart_injective hclock)

/-- A year and two months, three days, four hours, five minutes and six and a half seconds, of which
the last may be written with the second before it among the nanoseconds. -/
theorem render_injective_carriedSecond :
    (ofFields 14 3 14706 500000000).render = (ofFields 14 3 14705 1500000000).render ∧
      ofFields 14 3 14706 500000000 = ofFields 14 3 14705 1500000000 := by
  have htext : (ofFields 14 3 14706 500000000).render =
      (ofFields 14 3 14705 1500000000).render := by
    decide +kernel
  exact ⟨htext, render_injective htext⟩

end CypherExpr.Duration
