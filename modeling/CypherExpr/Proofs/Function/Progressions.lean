import CypherExpr.Function.Scalar
import CypherExpr.Proofs.Number.Words

/-!
# Progressions

The terms of a progression are found by adding the step until the stop is passed or the sum is no
word.  A sum that is no word is past the stop as well, since it is past all words in the direction
of the step.  So the terms are those that exact integers have, as many as steps fit between the two
bounds and one more, although neither the distance of the bounds nor the next term has to be a word.
-/

namespace CypherExpr.Scalar

/-- The value lies beyond the stop, in the direction of the step. -/
def Passed (stop step value : Int) : Prop :=
  (0 < step ∧ stop < value) ∨ (step < 0 ∧ value < stop)

instance (stop step value : Int) : Decidable (Passed stop step value) := by
  unfold Passed
  infer_instance

/-- How many terms `start, start + step, …` has up to `stop`. -/
def termCount (start stop step : Int) : Nat :=
  if Passed stop step start then 0 else (stop - start).natAbs / step.natAbs + 1

/-- The first terms of a progression in exact integers. -/
def exactTerms (start step : Int) (count : Nat) : List Int :=
  (List.range count).map fun (index : Nat) => start + index * step

theorem exactTerms_succ (start step : Int) (count : Nat) :
    exactTerms start step (count + 1) = start :: exactTerms (start + step) step count := by
  have hfirst : start + (0 : Nat) * step = start := by simp
  have hnext : ∀ index ∈ List.range count,
      start + (index.succ : Int) * step = start + step + index * step := by
    intro index _
    rw [Int.natCast_succ, Int.add_mul, Int.one_mul]
    omega
  rw [exactTerms, List.range_succ_eq_map, List.map_cons, List.map_map, hfirst]
  exact congrArg (start :: ·) (List.map_congr_left hnext)

theorem termCount_of_passed {start stop step : Int} (hpassed : Passed stop step start) :
    termCount start stop step = 0 := if_pos hpassed

/-- A start that has not passed the stop is one term more than there are from the next one on. -/
theorem termCount_eq_succ {start stop step : Int} (hstep : step ≠ 0)
    (hstart : ¬ Passed stop step start) :
    termCount start stop step = termCount (start + step) stop step + 1 := by
  have hsize : 0 < step.natAbs := Int.natAbs_pos.mpr hstep
  rw [termCount, if_neg hstart]
  congr 1
  by_cases hnext : Passed stop step (start + step)
  · have hshort : (stop - start).natAbs < step.natAbs := by
      unfold Passed at hstart hnext
      omega
    rw [termCount_of_passed hnext, Nat.div_eq_of_lt hshort]
  · have hlong : (stop - start).natAbs = (stop - (start + step)).natAbs + step.natAbs := by
      unfold Passed at hstart hnext
      omega
    rw [termCount, if_neg hnext, hlong, Nat.add_div_right _ hsize]

variable {stop step : Int64}

/-- Where the sum is no word, the exact sum has passed the stop. -/
theorem passed_of_not_fits {value : Int64}
    (hsum : ¬ Checked.Fits (value.toInt + step.toInt)) :
    Passed stop.toInt step.toInt (value.toInt + step.toInt) := by
  have hword := Checked.fits_toInt value
  have hstop := Checked.fits_toInt stop
  unfold Checked.Fits at hword hstop hsum
  unfold Passed
  omega

/-- The terms from a value on, which is a word or has passed the stop, are the exact ones. -/
theorem toInt_terms (hstep : step ≠ 0) {current : Option Int64} {value : Int}
    (hcurrent : current = Checked.narrow value)
    (hvalue : ¬ Checked.Fits value → Passed stop.toInt step.toInt value) :
    (terms stop step hstep current).map Int64.toInt =
      exactTerms value step.toInt (termCount value stop.toInt step.toInt) := by
  fun_induction terms stop step hstep current generalizing value with
  | case1 =>
      rw [termCount_of_passed (hvalue (Checked.narrow_eq_none_iff.mp hcurrent.symm))]
      rfl
  | case2 word hpast =>
      obtain rfl := Checked.narrow_eq_some_iff.mp hcurrent.symm
      rw [termCount_of_passed (isPast_iff.mp hpast)]
      rfl
  | case3 word hpast ih =>
      obtain rfl := Checked.narrow_eq_some_iff.mp hcurrent.symm
      have hopen : ¬ Passed stop.toInt step.toInt word.toInt := mt isPast_iff.mpr hpast
      have hlater := ih rfl passed_of_not_fits
      rw [termCount_eq_succ (Checked.toInt_ne_zero hstep) hopen, exactTerms_succ, List.map_cons,
        hlater]

/-- No term is before the value from which the terms are taken, and none has passed the stop. -/
theorem not_passed_of_mem_terms (hstep : step ≠ 0) {current : Option Int64} {term : Int64}
    (hterm : term ∈ terms stop step hstep current) :
    ¬ Passed stop.toInt step.toInt term.toInt ∧
      ∀ value ∈ current, ¬ Passed term.toInt step.toInt value.toInt := by
  fun_induction terms stop step hstep current with
  | case1 => cases hterm
  | case2 => cases hterm
  | case3 word hpast ih =>
      rcases List.mem_cons.mp hterm with rfl | hlater
      · refine ⟨mt isPast_iff.mpr hpast, ?_⟩
        rintro _ ⟨⟩
        unfold Passed
        omega
      · obtain ⟨hstop, hnext⟩ := ih hlater
        refine ⟨hstop, ?_⟩
        rintro _ ⟨⟩
        cases hsum : Checked.add word step with
        | none =>
            rw [hsum, terms] at hlater
            cases hlater
        | some next =>
            have hafter := hnext next hsum
            have hexact := Checked.narrow_eq_some_iff.mp hsum
            unfold Passed at hafter ⊢
            omega

/-- From any start to any stop by any step but zero a range has a value: the progression that exact
integers have, with as many terms as the distance of the bounds has whole steps and one more, or
with none if the start has passed the stop.  All terms are words between the two bounds. -/
theorem range_terms (start stop step : Int64) (hstep : step ≠ 0) :
    ∃ found : List Int64,
      range [.integer start, .integer stop, .integer step] = .ok (.list (found.map .integer)) ∧
      found.map Int64.toInt =
        (List.range (termCount start.toInt stop.toInt step.toInt)).map
          (fun (index : Nat) => start.toInt + index * step.toInt) ∧
      ∀ term ∈ found, (start.toInt ≤ term.toInt ∧ term.toInt ≤ stop.toInt) ∨
        (stop.toInt ≤ term.toInt ∧ term.toInt ≤ start.toInt) := by
  refine ⟨terms stop step hstep (some start), ?_, ?_, fun term hterm => ?_⟩
  · change rangeBetween (.integer start) (.integer stop) (.integer step) = _
    exact dif_neg hstep
  · exact toInt_terms hstep (Checked.narrow_toInt start).symm
      fun hfits => absurd (Checked.fits_toInt start) hfits
  · obtain ⟨hstop, hstart⟩ := not_passed_of_mem_terms hstep hterm
    have hbefore := hstart start rfl
    have hzero := Checked.toInt_ne_zero hstep
    unfold Passed at hstop hbefore
    omega

/-- From the least word to the greatest in steps of the greatest: the distance of the bounds is no
word, and neither is the term after the third. -/
theorem range_terms_allWords :
    Int64.maxValue ≠ 0 ∧
    range [.integer Int64.minValue, .integer Int64.maxValue, .integer Int64.maxValue] =
      .ok (.list [.integer Int64.minValue, .integer (-1), .integer 9223372036854775806]) ∧
    ¬ Checked.Fits (Int64.maxValue.toInt - Int64.minValue.toInt) ∧
    ¬ Checked.Fits ((9223372036854775806 : Int64).toInt + Int64.maxValue.toInt) := by
  have hstep : Int64.maxValue ≠ 0 := by decide
  obtain ⟨found, hrange, hterms, _⟩ :=
    range_terms Int64.minValue Int64.maxValue Int64.maxValue hstep
  have hfound : found = [Int64.minValue, -1, 9223372036854775806] := by
    rw [← List.map_inj_right fun _ _ => Int64.toInt_inj.mp, hterms]
    decide
  subst hfound
  exact ⟨hstep, hrange, by decide, by decide⟩

end CypherExpr.Scalar
