import CypherExpr.Proofs.Evaluation.Operators
import CypherExpr.Proofs.Value.Duality

/-!
# Comparisons and their negations

The operators `<` and `<=` are `>` and `>=` with the operands in the other order.  Since the order
of values reads the same from both sides, `NOT (a < b)` and `a >= b` have one value, which is null
exactly where the values cannot be ordered, and a true equality leaves no room for `<` or `>`.
-/

namespace CypherExpr

namespace Comparison

/-- Operands that change sides change what is asked of their order. -/
theorem map_order_swap (a b : Value) (test : Ordering → Bool) :
    (b.order a).map test = (a.order b).map fun outcome => test outcome.swap := by
  rw [Value.order_swap a b, Option.map_map]
  rfl

theorem less_eq (a b : Value) : less a b = .ofTruth ((a.order b).map (· == .lt)) := by
  have htest : (fun outcome : Ordering => outcome.swap == .gt) = (· == .lt) := by
    funext outcome
    cases outcome <;> rfl
  rw [less, greater, map_order_swap, htest]

theorem lessOrEqual_eq (a b : Value) :
    lessOrEqual a b = .ofTruth ((a.order b).map (· != .gt)) := by
  have htest : (fun outcome : Ordering => outcome.swap != .lt) = (· != .gt) := by
    funext outcome
    cases outcome <;> rfl
  rw [lessOrEqual, greaterOrEqual, map_order_swap, htest]

theorem negation_ofTruth (truth : Option Bool) :
    Logic.negation (.ofTruth truth) = .ok (.ofTruth (Logic.not truth)) := by
  match truth with
  | none | some true | some false => rfl

theorem negation_less (a b : Value) : Logic.negation (less a b) = .ok (greaterOrEqual a b) := by
  rw [less_eq, negation_ofTruth, Logic.not, Option.map_map]
  rfl

theorem negation_greater (a b : Value) :
    Logic.negation (greater a b) = .ok (lessOrEqual a b) := by
  rw [greater, negation_ofTruth, Logic.not, Option.map_map, lessOrEqual_eq]
  rfl

/-- What is equal is neither less nor greater. -/
theorem not_strict_of_equal {a b : Value} (hequal : equal a b = .boolean true) :
    less a b ≠ .boolean true ∧ greater a b ≠ .boolean true := by
  have hequals : a.equals b = true := by
    rw [equal, Value.equal?] at hequal
    split at hequal
    · cases hequal
    · exact Value.boolean.inj hequal
  rw [less_eq, greater]
  rcases Value.order_of_equals hequals with hnone | heq
  · rw [hnone]
    exact ⟨nofun, nofun⟩
  · rw [heq]
    exact ⟨nofun, nofun⟩

end Comparison

namespace Engine

section Root

variable (engine : Engine) {op : BinaryOp} {left right : Expr} {context : Context} {depth : Nat}
variable {a b value : Value}

/-- At the root there is one level more than an operator needs above operands two levels down. -/
theorem evaluate_binary_eq_ok (hdepth : engine.options.maxDepth = depth + 1)
    (hleft : engine.eval depth left context = .ok a)
    (hright : engine.eval depth right context = .ok b)
    (hvalue : Eval.binary op a b = .ok value) :
    engine.evaluate (.binary op left right) context = .ok value := by
  have hleft' := engine.eval_eq_ok_of_le (Nat.le_succ depth) hleft
  have hright' := engine.eval_eq_ok_of_le (Nat.le_succ depth) hright
  rw [evaluate, hdepth]
  exact engine.eval_binary_eq_ok hleft' hright' hvalue

theorem evaluate_not_binary_eq_ok {compared : Value}
    (hdepth : engine.options.maxDepth = depth + 1)
    (hleft : engine.eval depth left context = .ok a)
    (hright : engine.eval depth right context = .ok b)
    (hcompared : Eval.binary op a b = .ok compared)
    (hvalue : Logic.negation compared = .ok value) :
    engine.evaluate (.unary .not (.binary op left right)) context = .ok value := by
  rw [evaluate, hdepth]
  exact engine.eval_unary_eq_ok (engine.eval_binary_eq_ok hleft hright hcompared) hvalue

end Root

/-- The order of two values is reversed with its sides, whatever the values are.  Where two
expressions have the values `a` and `b` two levels down, `NOT (a < b)` and `a >= b` have one value,
and so do `NOT (a > b)` and `a <= b`, and `a < b` and `b > a`; each is true, false or null as the
order of `a` and `b` says.  Where `a = b` is true, neither `a < b` nor `a > b` is. -/
theorem evaluate_comparisons_dual (engine : Engine) (context : Context) (left right : Expr)
    (a b : Value) :
    b.order a = (a.order b).map Ordering.swap ∧
    ∀ depth, engine.options.maxDepth = depth + 1 →
      engine.eval depth left context = .ok a → engine.eval depth right context = .ok b →
      (engine.evaluate (.unary .not (.binary .less left right)) context =
          .ok (.ofTruth ((a.order b).map (· != .lt))) ∧
        engine.evaluate (.binary .greaterOrEqual left right) context =
          .ok (.ofTruth ((a.order b).map (· != .lt)))) ∧
      (engine.evaluate (.unary .not (.binary .greater left right)) context =
          .ok (.ofTruth ((a.order b).map (· != .gt))) ∧
        engine.evaluate (.binary .lessOrEqual left right) context =
          .ok (.ofTruth ((a.order b).map (· != .gt)))) ∧
      (engine.evaluate (.binary .less left right) context =
          .ok (.ofTruth ((a.order b).map (· == .lt))) ∧
        engine.evaluate (.binary .greater right left) context =
          .ok (.ofTruth ((a.order b).map (· == .lt)))) ∧
      (engine.evaluate (.binary .equal left right) context = .ok (.boolean true) →
        engine.evaluate (.binary .less left right) context ≠ .ok (.boolean true) ∧
        engine.evaluate (.binary .greater left right) context ≠ .ok (.boolean true)) := by
  refine ⟨Value.order_swap a b, ?_⟩
  intro depth hdepth hleft hright
  refine ⟨⟨?_, ?_⟩, ⟨?_, ?_⟩, ⟨?_, ?_⟩, ?_⟩
  · exact engine.evaluate_not_binary_eq_ok hdepth hleft hright rfl (Comparison.negation_less a b)
  · exact engine.evaluate_binary_eq_ok hdepth hleft hright rfl
  · rw [← Comparison.lessOrEqual_eq]
    exact engine.evaluate_not_binary_eq_ok hdepth hleft hright rfl (Comparison.negation_greater a b)
  · rw [← Comparison.lessOrEqual_eq]
    exact engine.evaluate_binary_eq_ok hdepth hleft hright rfl
  · rw [← Comparison.less_eq]
    exact engine.evaluate_binary_eq_ok hdepth hleft hright rfl
  · rw [← Comparison.less_eq]
    exact engine.evaluate_binary_eq_ok hdepth hright hleft rfl
  · intro hequal
    have hcompared : engine.evaluate (.binary .equal left right) context =
        .ok (Comparison.equal a b) := engine.evaluate_binary_eq_ok hdepth hleft hright rfl
    have hless : engine.evaluate (.binary .less left right) context = .ok (Comparison.less a b) :=
      engine.evaluate_binary_eq_ok hdepth hleft hright rfl
    have hgreater : engine.evaluate (.binary .greater left right) context =
        .ok (Comparison.greater a b) := engine.evaluate_binary_eq_ok hdepth hleft hright rfl
    rw [hcompared, Except.ok.injEq] at hequal
    rw [hless, hgreater, Ne, Except.ok.injEq, Ne, Except.ok.injEq]
    exact Comparison.not_strict_of_equal hequal

/-- The lists `[1, 'a']`, `[2.5, null]` and `[1, null]`. -/
def rowOfLists : Context :=
  ⟨[("x", .list [.integer 1, .string "a"]), ("y", .list [.float 2.5, .null]),
    ("z", .list [.integer 1, .null])], [], []⟩

/-- The first list comes before the second, so `NOT (x < y)` and `x >= y` are false.  The third one
is equal to itself, and neither before nor after itself. -/
theorem evaluate_comparisons_lists :
    (standard.options.maxDepth = 511 + 1 ∧
      standard.eval 511 (.variable "x") rowOfLists = .ok (.list [.integer 1, .string "a"]) ∧
      standard.eval 511 (.variable "y") rowOfLists = .ok (.list [.float 2.5, .null]) ∧
      standard.eval 511 (.variable "z") rowOfLists = .ok (.list [.integer 1, .null]) ∧
      standard.evaluate (.binary .equal (.variable "z") (.variable "z")) rowOfLists =
        .ok (.boolean true)) ∧
    standard.evaluate (.unary .not (.binary .less (.variable "x") (.variable "y"))) rowOfLists =
      .ok (.boolean false) ∧
    standard.evaluate (.binary .greaterOrEqual (.variable "x") (.variable "y")) rowOfLists =
      .ok (.boolean false) ∧
    standard.evaluate (.binary .less (.variable "z") (.variable "z")) rowOfLists ≠
      .ok (.boolean true) := by
  have hx : standard.eval 511 (.variable "x") rowOfLists =
      .ok (.list [.integer 1, .string "a"]) := rfl
  have hy : standard.eval 511 (.variable "y") rowOfLists = .ok (.list [.float 2.5, .null]) := rfl
  have hz : standard.eval 511 (.variable "z") rowOfLists =
      .ok (.list [.integer 1, .null]) := rfl
  have hequal : standard.evaluate (.binary .equal (.variable "z") (.variable "z")) rowOfLists =
      .ok (.boolean true) := rfl
  have hless : (Value.list [.integer 1, .string "a"]).order (.list [.float 2.5, .null]) =
      some .lt := by decide +kernel
  have hdual := (standard.evaluate_comparisons_dual rowOfLists _ _ _ _).2 511 rfl hx hy
  have hself := (standard.evaluate_comparisons_dual rowOfLists _ _ _ _).2 511 rfl hz hz
  rw [hless] at hdual
  exact ⟨⟨rfl, hx, hy, hz, hequal⟩, hdual.1.1, hdual.1.2, (hself.2.2.2 hequal).1⟩

end Engine

end CypherExpr
