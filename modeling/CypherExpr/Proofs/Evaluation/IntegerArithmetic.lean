import CypherExpr.Proofs.Evaluation.Operators
import CypherExpr.Proofs.Number.Words

/-!
# Exactness of integer arithmetic

An operation on integers gives the exact result where a 64-bit word can hold it and overflows
elsewhere, so an overflow is never a mere precaution.  There is one exception: the remainder is
taken along with the quotient and overflows where that does, although a remainder fits always.
Quotients overflow only where the least integer is divided by -1.
-/

namespace CypherExpr

/-! ## Exact outcomes -/

namespace Outcome

/-- The outcome is an overflow of the operation. -/
def Overflows (outcome : Outcome Value) (operation : String) : Prop :=
  ∃ error, outcome = .error error ∧ error.root = .overflow operation

/-- The outcome is the integer with an exact value if there is one, and an overflow exactly if
there is none. -/
structure IsExact (outcome : Outcome Value) (operation : String) (exact : Int) : Prop where
  value_iff : ∀ word : Int64, outcome = .ok (.integer word) ↔ word.toInt = exact
  overflows_iff : outcome.Overflows operation ↔ ¬ Checked.Fits exact

variable {operation : String}

theorem overflows_leaving_iff {result : Option Int64} {expr : Expr} :
    Overflows ((ofResult (Arithmetic.checked operation .integer result)).leaving expr) operation ↔
      result = none := by
  cases result with
  | none =>
      apply iff_of_true _ rfl
      exact ⟨_, rfl, EvalError.root_leaving _ expr⟩
  | some word =>
      apply iff_of_false _ nofun
      rintro ⟨_, hvalue, _⟩
      cases hvalue

theorem leaving_checked_eq_ok_iff {result : Option Int64} {expr : Expr} {word : Int64} :
    (ofResult (Arithmetic.checked operation .integer result)).leaving expr = .ok (.integer word) ↔
      result = some word := by
  rw [leaving_eq_ok_iff, ofResult_eq_ok_iff]
  cases result <;> simp [Arithmetic.checked]

/-- An operation is exact just if its checked result is the exact one, narrowed. -/
theorem isExact_iff {result : Option Int64} {expr : Expr} {exact : Int} :
    IsExact ((ofResult (Arithmetic.checked operation .integer result)).leaving expr)
      operation exact ↔ result = Checked.narrow exact := by
  constructor
  · intro hexact
    cases hresult : result with
    | none =>
        rw [Checked.narrow_eq_none_iff.mpr]
        exact hexact.overflows_iff.mp (overflows_leaving_iff.mpr hresult)
    | some word =>
        rw [Checked.narrow_eq_some_iff.mpr]
        exact (hexact.value_iff word).mp (leaving_checked_eq_ok_iff.mpr hresult)
  · rintro rfl
    constructor
    · intro word
      rw [leaving_checked_eq_ok_iff, Checked.narrow_eq_some_iff]
    · rw [overflows_leaving_iff, Checked.narrow_eq_none_iff]

theorem isExact_of_eq {outcome : Outcome Value} {expr : Expr} {exact : Int}
    (houtcome : outcome =
      (ofResult (Arithmetic.checked operation .integer (Checked.narrow exact))).leaving expr) :
    outcome.IsExact operation exact := by
  rw [houtcome]
  exact isExact_iff.mpr rfl

end Outcome

namespace Engine

open Outcome (ofResult isExact_iff isExact_of_eq overflows_leaving_iff)

variable (engine : Engine) {context : Context} {left right : Expr} {a b : Int64}

section

variable {budget : Nat} (hleft : engine.eval budget left context = .ok (.integer a))
  (hright : engine.eval budget right context = .ok (.integer b))

include hleft hright

theorem eval_divide (hb : b ≠ 0) :
    engine.eval (budget + 1) (.binary .divide left right) context =
      (ofResult (Arithmetic.checked "/" .integer (Checked.quotient a b))).leaving
        (.binary .divide left right) := by
  rw [engine.eval_binary .divide hleft hright, Eval.binary, Arithmetic.divide, if_neg hb]

theorem eval_modulo (hb : b ≠ 0) :
    engine.eval (budget + 1) (.binary .modulo left right) context =
      (ofResult (Arithmetic.checked "%" .integer (Checked.remainder a b))).leaving
        (.binary .modulo left right) := by
  rw [engine.eval_binary .modulo hleft hright, Eval.binary, Arithmetic.modulo, if_neg hb]

end

theorem eval_call_scalar {budget : Nat} {name registered : String} {returns : ValueType}
    {run : List Value → Result Value} {value : Value} (distinct : Bool)
    (hfound : engine.registry.find? name = some (.scalar registered returns run))
    (hleft : engine.eval budget left context = .ok value) :
    engine.eval (budget + 1) (.call name [left] distinct) context =
      (ofResult (run [value])).leaving (.call name [left] distinct) := by
  simp only [eval, Eval.level, Eval.call, hfound, Eval.all, hleft]
  rfl

theorem abs_integer (a : Int64) :
    Scalar.abs [.integer a] = Arithmetic.checked "abs" .integer (Checked.magnitude a) := by
  change Scalar.ofChecked "abs" (Checked.magnitude a) = _
  cases Checked.magnitude a <;> rfl

/-- Where the quotient does not overflow, the quotient times the divisor plus the remainder has the
dividend for its value. -/
theorem evaluate_quotient_mul_add_remainder {depth : Nat}
    (hdepth : engine.options.maxDepth = depth + 2) (hb : b ≠ 0)
    (hquotient : Checked.Fits (a.toInt.tdiv b.toInt))
    (hleft : engine.eval depth left context = .ok (.integer a))
    (hright : engine.eval depth right context = .ok (.integer b)) :
    engine.evaluate (.binary .add (.binary .multiply (.binary .divide left right) right)
      (.binary .modulo left right)) context = .ok (.integer a) := by
  obtain ⟨whole, product, rest, hwhole, hproduct, hrest, hsum⟩ :=
    Checked.exists_of_fits_tdiv hquotient hb
  have hleft' := engine.eval_eq_ok_of_le (Nat.le_succ depth) hleft
  have hright' := engine.eval_eq_ok_of_le (Nat.le_succ depth) hright
  have hdivide : engine.eval (depth + 1) (.binary .divide left right) context =
      .ok (.integer whole) := by
    rw [engine.eval_divide hleft hright hb, hwhole]
    rfl
  have hmultiply : engine.eval (depth + 2)
      (.binary .multiply (.binary .divide left right) right) context = .ok (.integer product) := by
    rw [engine.eval_binary .multiply hdivide hright', Eval.binary, Arithmetic.multiply, hproduct]
    rfl
  have hmodulo : engine.eval (depth + 2) (.binary .modulo left right) context =
      .ok (.integer rest) := by
    rw [engine.eval_modulo hleft' hright' hb, hrest]
    rfl
  rw [evaluate, hdepth, engine.eval_binary .add hmultiply hmodulo, Eval.binary, Arithmetic.add,
    hsum]
  rfl

/-- Where the operands are integers, sums, differences, products, negations and magnitudes are
exact, and so are quotients by all but zero.  Remainders are exact save that of the least integer
and -1.  Where the quotient does not overflow it can be multiplied by the divisor, and the remainder
added, to give the dividend. -/
theorem evaluate_integer_isExact
    (habs : engine.registry.find? "abs" = Standard.registry.find? "abs")
    (hleft : engine.eval engine.options.maxDepth left context = .ok (.integer a))
    (hright : engine.eval engine.options.maxDepth right context = .ok (.integer b)) :
    (engine.evaluate (.binary .add left right) context).IsExact "+" (a.toInt + b.toInt) ∧
    (engine.evaluate (.binary .subtract left right) context).IsExact "-" (a.toInt - b.toInt) ∧
    (engine.evaluate (.binary .multiply left right) context).IsExact "*" (a.toInt * b.toInt) ∧
    (engine.evaluate (.unary .negate left) context).IsExact "negation" (-a.toInt) ∧
    (∀ distinct, (engine.evaluate (.call "abs" [left] distinct) context).IsExact "abs"
      a.toInt.natAbs) ∧
    (b ≠ 0 →
      (engine.evaluate (.binary .divide left right) context).IsExact "/" (a.toInt.tdiv b.toInt) ∧
      ((engine.evaluate (.binary .modulo left right) context).IsExact "%"
        (a.toInt.tmod b.toInt) ↔ ¬ (a = Int64.minValue ∧ b = -1)) ∧
      (∀ depth, engine.options.maxDepth = depth + 2 →
        engine.eval depth left context = .ok (.integer a) →
        engine.eval depth right context = .ok (.integer b) →
        ¬ (engine.evaluate (.binary .divide left right) context).Overflows "/" →
        engine.evaluate (.binary .add (.binary .multiply (.binary .divide left right) right)
          (.binary .modulo left right)) context = .ok (.integer a))) := by
  have hmagnitude : engine.registry.find? "abs" = some (.scalar "abs" .number Scalar.abs) := by
    rw [habs]
    rfl
  refine ⟨isExact_of_eq (engine.eval_binary .add hleft hright),
    isExact_of_eq (engine.eval_binary .subtract hleft hright),
    isExact_of_eq (engine.eval_binary .multiply hleft hright),
    isExact_of_eq (engine.eval_unary .negate hleft), fun distinct => ?_, fun hb => ⟨?_, ?_, ?_⟩⟩
  · apply isExact_of_eq
    rw [evaluate, engine.eval_call_scalar distinct hmagnitude hleft, abs_integer]
    rfl
  · exact isExact_of_eq (engine.eval_divide hleft hright hb)
  · rw [evaluate, engine.eval_modulo hleft hright hb, isExact_iff]
    exact Checked.remainder_eq_narrow_iff hb
  · intro depth hdepth hleft' hright' hquotient
    rw [evaluate, engine.eval_divide hleft hright hb, overflows_leaving_iff, Checked.quotient,
      Checked.narrow_eq_none_iff, Decidable.not_not] at hquotient
    exact engine.evaluate_quotient_mul_add_remainder hdepth hb hquotient hleft' hright'

/-- Two integers under the names `a` and `b`. -/
def rowOfIntegers (a b : Int64) : Context := ⟨[("a", .integer a), ("b", .integer b)], [], []⟩

/-- The least integer has no magnitude and overflows when it is tripled.  Divided by 3 it leaves -2,
and is there again when that is added to three times the quotient. -/
theorem evaluate_integer_isExact_least :
    (standard.registry.find? "abs" = Standard.registry.find? "abs" ∧
      standard.eval 512 (.variable "a") (rowOfIntegers Int64.minValue 3) =
        .ok (.integer Int64.minValue) ∧
      standard.eval 512 (.variable "b") (rowOfIntegers Int64.minValue 3) = .ok (.integer 3) ∧
      (3 : Int64) ≠ 0 ∧ ¬ (Int64.minValue = Int64.minValue ∧ (3 : Int64) = -1) ∧
      standard.eval 510 (.variable "a") (rowOfIntegers Int64.minValue 3) =
        .ok (.integer Int64.minValue) ∧
      standard.eval 510 (.variable "b") (rowOfIntegers Int64.minValue 3) = .ok (.integer 3) ∧
      standard.evaluate (.binary .divide (.variable "a") (.variable "b"))
        (rowOfIntegers Int64.minValue 3) = .ok (.integer (-3074457345618258602))) ∧
    (standard.evaluate (.call "abs" [.variable "a"] false)
      (rowOfIntegers Int64.minValue 3)).Overflows "abs" ∧
    (standard.evaluate (.binary .multiply (.variable "a") (.variable "b"))
      (rowOfIntegers Int64.minValue 3)).Overflows "*" ∧
    standard.evaluate (.binary .modulo (.variable "a") (.variable "b"))
      (rowOfIntegers Int64.minValue 3) = .ok (.integer (-2)) ∧
    standard.evaluate (.binary .add
        (.binary .multiply (.binary .divide (.variable "a") (.variable "b")) (.variable "b"))
        (.binary .modulo (.variable "a") (.variable "b"))) (rowOfIntegers Int64.minValue 3) =
      .ok (.integer Int64.minValue) := by
  have ha : ∀ budget, standard.eval (budget + 1) (.variable "a")
      (rowOfIntegers Int64.minValue 3) = .ok (.integer Int64.minValue) := fun _ => rfl
  have hb : ∀ budget, standard.eval (budget + 1) (.variable "b")
      (rowOfIntegers Int64.minValue 3) = .ok (.integer 3) := fun _ => rfl
  have hquotient : standard.evaluate (.binary .divide (.variable "a") (.variable "b"))
      (rowOfIntegers Int64.minValue 3) = .ok (.integer (-3074457345618258602)) := rfl
  have hsome : (3 : Int64) ≠ 0 := by decide
  have hother : ¬ (Int64.minValue = Int64.minValue ∧ (3 : Int64) = -1) := by decide
  have hnone : ¬ (standard.evaluate (.binary .divide (.variable "a") (.variable "b"))
      (rowOfIntegers Int64.minValue 3)).Overflows "/" := by
    rintro ⟨_, herror, _⟩
    cases hquotient.symm.trans herror
  obtain ⟨_, _, hproduct, _, habs, hdivision⟩ :=
    standard.evaluate_integer_isExact rfl (ha 511) (hb 511)
  obtain ⟨_, hremainder, hback⟩ := hdivision hsome
  refine ⟨⟨rfl, ha 511, hb 511, hsome, hother, ha 509, hb 509, hquotient⟩, ?_, ?_, ?_, ?_⟩
  · exact (habs false).overflows_iff.mpr (by decide)
  · exact hproduct.overflows_iff.mpr (by decide)
  · exact ((hremainder.mpr hother).value_iff (-2)).mpr (by decide)
  · exact hback 510 rfl (ha 509) (hb 509) hnone

/-- The least integer leaves nothing over when it is divided by -1, and 0 fits, but its remainder
overflows. -/
theorem modulo_least_overflows :
    standard.evaluate (.binary .modulo (.variable "a") (.variable "b"))
        (rowOfIntegers Int64.minValue (-1)) =
      .error (.marked "(a % b)" (.ofCause (.overflow "%"))) ∧
    Int64.minValue.toInt.tmod (-1 : Int64).toInt = 0 ∧ Checked.Fits 0 ∧
    ¬ (standard.evaluate (.binary .modulo (.variable "a") (.variable "b"))
      (rowOfIntegers Int64.minValue (-1))).IsExact "%"
        (Int64.minValue.toInt.tmod (-1 : Int64).toInt) := by
  have herror : standard.evaluate (.binary .modulo (.variable "a") (.variable "b"))
      (rowOfIntegers Int64.minValue (-1)) =
        .error (.marked "(a % b)" (.ofCause (.overflow "%"))) := rfl
  refine ⟨herror, by decide, by decide, fun hexact => ?_⟩
  have hbeyond := hexact.overflows_iff.mp ⟨_, herror, rfl⟩
  exact absurd hbeyond (by decide)

end Engine

end CypherExpr
