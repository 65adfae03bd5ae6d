import CypherExpr.Engine.Eval
import CypherExpr.Proofs.Evaluation.Outcomes

/-!
# Causes of operators

Whatever an operator is applied to, it does not report the depth limit: that cause belongs to the
descent into an expression alone.
-/

namespace CypherExpr

/-! ## Logic -/

namespace Logic

theorem ofValue_ne_limit (value : Value) : ofValue value ≠ .error .recursionLimit := by
  cases value <;> simp [ofValue, Cause.mismatch]

theorem lift_ne_limit (connective : Option Bool → Option Bool → Option Bool)
    (left right : Value) : lift connective left right ≠ .error .recursionLimit := by
  have hleft := ofValue_ne_limit left
  have hright := ofValue_ne_limit right
  rw [lift]
  split
  · simp_all
  · split <;> simp_all

theorem negation_ne_limit (operand : Value) : negation operand ≠ .error .recursionLimit := by
  have hoperand := ofValue_ne_limit operand
  rw [negation]
  split <;> simp_all

theorem isTruthy_ne_limit (value : Value) : isTruthy value ≠ .error .recursionLimit := by
  cases value <;> simp [isTruthy, Cause.mismatch]

theorem keeps_ne_limit (value : Value) : keeps value ≠ .error .recursionLimit := by
  cases value <;> simp [keeps, Cause.mismatch]

end Logic

/-! ## Arithmetic -/

namespace Arithmetic

@[simp]
theorem unsupportedPair_ne_limit {α : Type} (symbol : String) (left right : Value) :
    (unsupportedPair symbol left right : Result α) ≠ .error .recursionLimit := by
  simp [unsupportedPair]

@[simp]
theorem checked_ne_limit {α : Type} (operation : String) (wrap : α → Value)
    (result : Option α) : checked operation wrap result ≠ .error .recursionLimit := by
  cases result <;> simp [checked]

@[simp]
theorem promoted_ne_limit (symbol : String) (operation : Float → Float → Float)
    (left right : Value) : promoted symbol operation left right ≠ .error .recursionLimit := by
  rw [promoted]
  split <;> simp

@[simp]
theorem moved_ne_limit (symbol : String) (duration : Duration) (point left right : Value) :
    moved symbol duration point left right ≠ .error .recursionLimit := by
  rw [moved]
  split <;> simp

theorem add_ne_limit (left right : Value) : add left right ≠ .error .recursionLimit := by
  unfold add
  split <;> simp

theorem subtract_ne_limit (left right : Value) :
    subtract left right ≠ .error .recursionLimit := by
  unfold subtract
  split <;> try simp
  -- only a duration on the right branches further, on whether it can be negated
  split
  · simp
  · split <;> simp

theorem multiply_ne_limit (left right : Value) :
    multiply left right ≠ .error .recursionLimit := by
  unfold multiply
  split <;> simp

theorem divide_ne_limit (left right : Value) : divide left right ≠ .error .recursionLimit := by
  unfold divide
  split <;> try simp
  all_goals split <;> simp

theorem modulo_ne_limit (left right : Value) : modulo left right ≠ .error .recursionLimit := by
  unfold modulo
  split <;> try simp
  split <;> simp

theorem power_ne_limit (left right : Value) : power left right ≠ .error .recursionLimit := by
  unfold power
  split <;> simp

theorem negate_ne_limit (operand : Value) : negate operand ≠ .error .recursionLimit := by
  cases operand <;> simp [negate, Cause.mismatch]

end Arithmetic

/-! ## Strings and containers -/

namespace StringPredicate

theorem lift_ne_limit {test : String → String → Result Bool}
    (htest : ∀ text part, test text part ≠ .error .recursionLimit) (left right : Value) :
    lift test left right ≠ .error .recursionLimit := by
  unfold lift
  split <;> try simp [Cause.mismatch]
  exact Result.map_ne_limit (htest _ _) _

theorem compile_ne_limit (pattern : String) :
    Regex.compile pattern ≠ .error .recursionLimit := by
  rw [Regex.compile]
  split <;> simp

theorem regexMatch_ne_limit (left right : Value) :
    regexMatch left right ≠ .error .recursionLimit := by
  refine lift_ne_limit (fun text pattern => ?_) left right
  exact Result.map_ne_limit (compile_ne_limit pattern) _

end StringPredicate

namespace Container

theorem isIn_ne_limit (item source : Value) : isIn item source ≠ .error .recursionLimit := by
  cases source <;> simp [isIn, Cause.mismatch]

theorem subscript_ne_limit (container key : Value) :
    subscript container key ≠ .error .recursionLimit := by
  unfold subscript
  split <;> try simp [Cause.mismatch]
  split <;> simp

theorem sliceBound_ne_limit (size default : Nat) (bound : Option Value) :
    sliceBound size default bound ≠ .error .recursionLimit := by
  unfold sliceBound
  split <;> simp [Cause.mismatch]

theorem slice_ne_limit (source : Value) (lower upper : Option Value) :
    slice source lower upper ≠ .error .recursionLimit := by
  cases source with
  | list items =>
      have hlower := sliceBound_ne_limit items.length 0 lower
      have hupper := sliceBound_ne_limit items.length items.length upper
      simp only [slice]
      split
      · simp_all
      · split
        · simp_all
        · split <;> simp
  | _ => simp [slice, Cause.mismatch]

end Container

/-! ## Operators of the evaluator -/

namespace Eval

theorem binary_ne_limit (op : BinaryOp) (left right : Value) :
    binary op left right ≠ .error .recursionLimit := by
  cases op <;> simp only [binary]
  case and | or | xor => apply Logic.lift_ne_limit
  case startsWith | endsWith | contains => exact StringPredicate.lift_ne_limit (by simp) _ _
  case regexMatch => apply StringPredicate.regexMatch_ne_limit
  case isIn => apply Container.isIn_ne_limit
  case add => apply Arithmetic.add_ne_limit
  case subtract => apply Arithmetic.subtract_ne_limit
  case multiply => apply Arithmetic.multiply_ne_limit
  case divide => apply Arithmetic.divide_ne_limit
  case modulo => apply Arithmetic.modulo_ne_limit
  case power => apply Arithmetic.power_ne_limit
  all_goals simp

theorem unary_ne_limit (op : UnaryOp) (operand : Value) :
    unary op operand ≠ .error .recursionLimit := by
  cases op with
  | not => exact Logic.negation_ne_limit operand
  | negate => exact Arithmetic.negate_ne_limit operand
  | isNull | isNotNull => simp [unary]

theorem property_ne_limit (key : String) (subject : Value) :
    property key subject ≠ .error .recursionLimit := by
  rw [property]
  split
  · simp
  · split <;> simp [Cause.mismatch]

theorem valueOf_ne_limit (context : Context) (name : String) :
    valueOf context name ≠ .error .recursionLimit := by
  rw [valueOf]
  split <;> simp

theorem parameterOf_ne_limit (context : Context) (name : String) :
    parameterOf context name ≠ .error .recursionLimit := by
  rw [parameterOf]
  split <;> simp

theorem source_ne_limit (value : Value) : source value ≠ .error .recursionLimit := by
  cases value <;> simp [source, Cause.mismatch]

theorem endpoint_ne_limit (context : Context) (expected : String)
    (idOf : Value → Option Int64) (name : Option String) :
    endpoint context expected idOf name ≠ .error .recursionLimit := by
  rw [endpoint]
  split
  · simp
  · split
    · simp
    · split <;> simp [Cause.mismatch]

end Eval

end CypherExpr
