import CypherExpr.Proofs.Evaluation.DepthLimit

/-!
# One level of an operator

An operator is applied to the values that its operands have one level down, and an error of it
leaves the expression.  Where an operation has a value at the root, its operands have values at the
root too, so operations within operations can be taken apart one by one.
-/

namespace CypherExpr.Engine

open Outcome

variable (engine : Engine) {context : Context} {budget : Nat} {a b value : Value}

theorem eval_binary (op : BinaryOp) {left right : Expr}
    (hleft : engine.eval budget left context = .ok a)
    (hright : engine.eval budget right context = .ok b) :
    engine.eval (budget + 1) (.binary op left right) context =
      (ofResult (Eval.binary op a b)).leaving (.binary op left right) := by
  simp only [eval, Eval.level, hleft, hright]
  rfl

theorem eval_unary (op : UnaryOp) {operand : Expr}
    (hoperand : engine.eval budget operand context = .ok a) :
    engine.eval (budget + 1) (.unary op operand) context =
      (ofResult (Eval.unary op a)).leaving (.unary op operand) := by
  simp only [eval, Eval.level, hoperand]
  rfl

theorem eval_binary_eq_ok {op : BinaryOp} {left right : Expr}
    (hleft : engine.eval budget left context = .ok a)
    (hright : engine.eval budget right context = .ok b)
    (hvalue : Eval.binary op a b = .ok value) :
    engine.eval (budget + 1) (.binary op left right) context = .ok value := by
  rw [engine.eval_binary op hleft hright, hvalue]
  rfl

theorem eval_unary_eq_ok {op : UnaryOp} {operand : Expr}
    (hoperand : engine.eval budget operand context = .ok a)
    (hvalue : Eval.unary op a = .ok value) :
    engine.eval (budget + 1) (.unary op operand) context = .ok value := by
  rw [engine.eval_unary op hoperand, hvalue]
  rfl

/-- The operands of an operation that has a value keep theirs at the root, under a larger budget. -/
theorem exists_of_evaluate_binary {op : BinaryOp} {left right : Expr}
    (hbinary : engine.evaluate (.binary op left right) context = .ok value) :
    ∃ a b, engine.evaluate left context = .ok a ∧ engine.evaluate right context = .ok b ∧
      Eval.binary op a b = .ok value := by
  obtain ⟨a, hleft, hrest⟩ := bind_eq_ok_iff.mp (leaving_eq_ok_iff.mp hbinary)
  obtain ⟨b, hright, hresult⟩ := bind_eq_ok_iff.mp hrest
  have hle : engine.options.maxDepth ≤ engine.options.maxDepth + 1 := Nat.le_succ _
  exact ⟨a, b, engine.eval_eq_ok_of_le hle hleft, engine.eval_eq_ok_of_le hle hright,
    ofResult_eq_ok_iff.mp hresult⟩

theorem binary_of_evaluate {op : BinaryOp} {left right : Expr}
    (hbinary : engine.evaluate (.binary op left right) context = .ok value)
    (hleft : engine.evaluate left context = .ok a)
    (hright : engine.evaluate right context = .ok b) : Eval.binary op a b = .ok value := by
  obtain ⟨a', b', hleft', hright', hvalue⟩ := engine.exists_of_evaluate_binary hbinary
  cases hleft.symm.trans hleft'
  cases hright.symm.trans hright'
  exact hvalue

end CypherExpr.Engine
