import CypherExpr.Number.Checked

/-!
# Bounds of 64-bit words

Words are too small to leave their range by much.  Only the least one has no negation, a divisor
other than 1 and -1 takes away at least half, and a remainder is smaller than the divisor.  So the
least word divided by -1 is the one quotient that does not fit, and what is taken apart by a
division can be put together again.
-/

namespace CypherExpr.Checked

theorem natAbs_toInt_le (word : Int64) : word.toInt.natAbs ≤ 9223372036854775808 := by
  have hword := fits_toInt word
  simp only [Fits] at hword
  omega

theorem natAbs_div_le_half (word : Int64) {size : Nat} (hsize : 2 ≤ size) :
    word.toInt.natAbs / size ≤ 4611686018427387904 :=
  calc
    word.toInt.natAbs / size ≤ word.toInt.natAbs / 2 := Nat.div_le_div_left hsize (by decide)
    _ ≤ 9223372036854775808 / 2 := Nat.div_le_div_right (natAbs_toInt_le word)

theorem natAbs_tmod_lt (value : Int) {divisor : Int} (hdivisor : divisor ≠ 0) :
    (value.tmod divisor).natAbs < divisor.natAbs := by
  rw [Int.natAbs_tmod]
  exact Nat.mod_lt _ (Int.natAbs_pos.mpr hdivisor)

theorem fits_neg_iff (word : Int64) : Fits (-word.toInt) ↔ word ≠ Int64.minValue := by
  have hword := fits_toInt word
  rw [Ne, ← Int64.toInt_inj, Int64.toInt_minValue]
  simp only [Fits] at hword ⊢
  omega

/-- What fits is its own nearest word. -/
theorem toInt_clamp {value : Int} (hfits : Fits value) : (clamp value).toInt = value := by
  rw [clamp, narrow, if_pos hfits, Option.getD_some, toInt_ofInt hfits]

theorem toInt_ne_zero {word : Int64} (hword : word ≠ 0) : word.toInt ≠ 0 :=
  fun hzero => hword (Int64.toInt_inj.mp hzero)

/-! ## Quotients and remainders -/

/-- To divide twice toward zero is to divide once by the product. -/
theorem tdiv_tdiv (value : Int) (inner outer : Nat) :
    (value.tdiv inner).tdiv outer = value.tdiv (inner * outer : Nat) := by
  have hnatural (size : Nat) :
      ((size : Int).tdiv inner).tdiv outer = (size : Int).tdiv (inner * outer : Nat) := by
    simp only [Int.natCast_tdiv_eq_ediv, ← Int.natCast_ediv, Nat.div_div_eq_div_mul]
  obtain ⟨size, rfl | rfl⟩ := value.eq_nat_or_neg
  · exact hnatural size
  · rw [Int.neg_tdiv, Int.neg_tdiv, Int.neg_tdiv, hnatural]

variable {left right : Int64}

theorem fits_tdiv_of_two_le (left : Int64) (hright : 2 ≤ right.toInt.natAbs) :
    Fits (left.toInt.tdiv right.toInt) := by
  have hhalf : (left.toInt.tdiv right.toInt).natAbs ≤ 4611686018427387904 := by
    rw [Int.natAbs_tdiv]
    exact natAbs_div_le_half left hright
  unfold Fits
  omega

theorem fits_tdiv_iff (left : Int64) (hright : right ≠ 0) :
    Fits (left.toInt.tdiv right.toInt) ↔ ¬ (left = Int64.minValue ∧ right = -1) := by
  by_cases hminus : right = -1
  · have hnegated : left.toInt.tdiv right.toInt = -left.toInt := by
      rw [hminus]
      exact (Int.tdiv_neg _ 1).trans (congrArg Neg.neg (Int.tdiv_one _))
    rw [hnegated, fits_neg_iff, and_iff_left hminus]
  · -- Every other divisor but 1 takes away half of the dividend or more.
    apply iff_of_true _ fun h => hminus h.2
    by_cases hone : right = 1
    · have hself : left.toInt.tdiv right.toInt = left.toInt := by
        rw [hone]
        exact Int.tdiv_one _
      rw [hself]
      exact fits_toInt left
    · have hzero : right.toInt ≠ 0 := toInt_ne_zero hright
      have hone' : right.toInt ≠ 1 := fun h => hone (Int64.toInt_inj.mp h)
      have hminus' : right.toInt ≠ -1 := fun h => hminus (Int64.toInt_inj.mp h)
      exact fits_tdiv_of_two_le left (by omega)

theorem fits_tmod (left : Int64) (hright : right ≠ 0) : Fits (left.toInt.tmod right.toInt) := by
  have hless := natAbs_tmod_lt left.toInt (toInt_ne_zero hright)
  have hword := natAbs_toInt_le right
  unfold Fits
  omega

/-- What division loses lies between zero and the dividend. -/
theorem fits_tdiv_mul (left : Int64) (divisor : Int) :
    Fits (left.toInt.tdiv divisor * divisor) := by
  have hsum := Int.tdiv_mul_add_tmod left.toInt divisor
  have hsize : (left.toInt.tmod divisor).natAbs ≤ left.toInt.natAbs := by
    rw [Int.natAbs_tmod]
    exact Nat.mod_le _ _
  have hword := fits_toInt left
  unfold Fits at hword ⊢
  rcases Int.le_total 0 left.toInt with hpositive | hnegative
  · have hsign := Int.tmod_nonneg divisor hpositive
    omega
  · have hsign := Int.tmod_nonneg divisor (Int.neg_nonneg_of_nonpos hnegative)
    rw [Int.neg_tmod] at hsign
    omega

theorem remainder_eq_narrow (hquotient : Fits (left.toInt.tdiv right.toInt)) (hright : right ≠ 0) :
    remainder left right = narrow (left.toInt.tmod right.toInt) := by
  rw [remainder, quotient, narrow, if_pos hquotient, narrow, if_pos (fits_tmod left hright)]
  rfl

theorem remainder_eq_narrow_iff (hright : right ≠ 0) :
    remainder left right = narrow (left.toInt.tmod right.toInt) ↔
      ¬ (left = Int64.minValue ∧ right = -1) := by
  rw [← fits_tdiv_iff left hright]
  constructor
  · intro hexact
    apply Decidable.byContradiction
    intro hnone
    rw [remainder, quotient, narrow_eq_none_iff.mpr hnone, Option.map_none] at hexact
    exact narrow_eq_none_iff.mp hexact.symm (fits_tmod left hright)
  · exact fun hquotient => remainder_eq_narrow hquotient hright

/-- The quotient times the divisor, plus the remainder, is the dividend, and no step overflows. -/
theorem exists_of_fits_tdiv (hquotient : Fits (left.toInt.tdiv right.toInt)) (hright : right ≠ 0) :
    ∃ whole product rest, quotient left right = some whole ∧
      multiply whole right = some product ∧ remainder left right = some rest ∧
      add product rest = some left := by
  refine ⟨.ofInt (left.toInt.tdiv right.toInt), .ofInt (left.toInt.tdiv right.toInt * right.toInt),
    .ofInt (left.toInt.tmod right.toInt), ?_, ?_, ?_, ?_⟩
  · exact if_pos hquotient
  · rw [multiply, toInt_ofInt hquotient]
    exact if_pos (fits_tdiv_mul left right.toInt)
  · rw [remainder_eq_narrow hquotient hright]
    exact if_pos (fits_tmod left hright)
  · rw [add, toInt_ofInt (fits_tdiv_mul left right.toInt), toInt_ofInt (fits_tmod left hright),
      Int.tdiv_mul_add_tmod]
    exact narrow_toInt left

end CypherExpr.Checked
