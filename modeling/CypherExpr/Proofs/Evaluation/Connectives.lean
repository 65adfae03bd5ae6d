import CypherExpr.Proofs.Evaluation.DepthLimit
import Mathlib.Data.List.Forall2
import Mathlib.Data.List.Induction

/-!
# Conjunctions and chains of binary connectives

The chain `((true AND a) AND b) AND c` evaluates all of its operands, the first ones on the deepest
levels, and joins them in three-valued logic.  The conjunction of the same operands evaluates all of
them one level down, stops at the first that is not true and answers with true or false.  Where the
chain has a value every operand is true, false or unknown, so the conjunction has a value too and
agrees with the chain as a filter: both are true, or neither is.  Disjunctions agree with chains of
OR in the same way.
-/

namespace CypherExpr

/-- Operands joined from the left by a binary operator, after a constant truth value. -/
def Expr.chain (op : BinaryOp) (start : Bool) (operands : List Expr) : Expr :=
  operands.foldl (.binary op) (.literal (.boolean start))

theorem Value.ofTruth_injective : Function.Injective Value.ofTruth := by
  intro left right hequal
  cases left <;> cases right <;> simp_all [Value.ofTruth]

namespace Logic

theorem ofValue_eq_ok_iff {value : Value} {truth : Option Bool} :
    ofValue value = .ok truth ↔ value = .ofTruth truth := by
  cases value <;> cases truth <;> simp [ofValue, Value.ofTruth]

/-- A connective on values has a value exactly on two truth values. -/
theorem lift_eq_ok_iff {connective : Option Bool → Option Bool → Option Bool}
    {left right value : Value} :
    lift connective left right = .ok value ↔
      ∃ l r, left = .ofTruth l ∧ right = .ofTruth r ∧ value = .ofTruth (connective l r) := by
  constructor
  · intro hlift
    rw [lift] at hlift
    split at hlift
    · cases hlift
    · next l hleft =>
      split at hlift
      · cases hlift
      · next r hright =>
        cases hlift
        exact ⟨l, r, ofValue_eq_ok_iff.mp hleft, ofValue_eq_ok_iff.mp hright, rfl⟩
  · rintro ⟨l, r, rfl, rfl, rfl⟩
    rw [lift, ofValue_eq_ok_iff.mpr rfl, ofValue_eq_ok_iff.mpr rfl]

theorem isTruthy_ofTruth (truth : Option Bool) :
    isTruthy (.ofTruth truth) = .ok (truth == some true) := by
  match truth with
  | none | some true | some false => rfl

theorem and_isTrue (left right : Option Bool) :
    (and left right == some true) = (left == some true && right == some true) := by
  rcases left with _ | _ | _ <;> rcases right with _ | _ | _ <;> rfl

theorem or_isTrue (left right : Option Bool) :
    (or left right == some true) = (left == some true || right == some true) := by
  rcases left with _ | _ | _ <;> rcases right with _ | _ | _ <;> rfl

/-- A chain of AND is true if its beginning and all that follows are true. -/
theorem foldl_and_isTrue (truth : Option Bool) (truths : List (Option Bool)) :
    (truths.foldl and truth == some true) =
      (truth == some true && truths.all (· == some true)) := by
  induction truths generalizing truth with
  | nil => simp
  | cons next rest ih => rw [List.foldl_cons, ih, and_isTrue, List.all_cons, Bool.and_assoc]

/-- A chain of OR is true if its beginning or something that follows is true. -/
theorem foldl_or_isTrue (truth : Option Bool) (truths : List (Option Bool)) :
    (truths.foldl or truth == some true) =
      (truth == some true || truths.any (· == some true)) := by
  induction truths generalizing truth with
  | nil => simp
  | cons next rest ih => rw [List.foldl_cons, ih, or_isTrue, List.any_cons, Bool.or_assoc]

end Logic

namespace Eval

open Outcome

variable {sub : Evaluator} {context : Context} {operands : List Expr}
variable {truths : List (Option Bool)}

/-- The operands are true, false or unknown as listed. -/
abbrev HaveTruths (sub : Evaluator) (context : Context) :
    List Expr → List (Option Bool) → Prop :=
  List.Forall₂ fun expr truth => sub expr context = .ok (.ofTruth truth)

theorem conjunction_of_haveTruths (htruths : HaveTruths sub context operands truths) :
    conjunction sub context operands = .ok (.boolean (truths.all (· == some true))) := by
  induction htruths with
  | nil => rfl
  | @cons expr truth rest others hexpr _ ih =>
      have htruthy := ofResult_eq_ok_iff.mpr (Logic.isTruthy_ofTruth truth)
      refine bind_eq_ok_iff.mpr ⟨_, hexpr, bind_eq_ok_iff.mpr ⟨_, htruthy, ?_⟩⟩
      rw [List.all_cons]
      cases truth == some true with
      | true => exact ih
      | false => rfl

theorem disjunction_of_haveTruths (htruths : HaveTruths sub context operands truths) :
    disjunction sub context operands = .ok (.boolean (truths.any (· == some true))) := by
  induction htruths with
  | nil => rfl
  | @cons expr truth rest others hexpr _ ih =>
      have htruthy := ofResult_eq_ok_iff.mpr (Logic.isTruthy_ofTruth truth)
      refine bind_eq_ok_iff.mpr ⟨_, hexpr, bind_eq_ok_iff.mpr ⟨_, htruthy, ?_⟩⟩
      rw [List.any_cons]
      cases truth == some true with
      | true => rfl
      | false => exact ih

end Eval

namespace Engine

open Outcome

/-- A chain that has a value has operands with truth values, which it joins.  Each operand has its
truth value one level below the chain already, however deep in the chain it stands. -/
theorem eval_chain_eq_ok (engine : Engine) {op : BinaryOp}
    {connective : Option Bool → Option Bool → Option Bool}
    (hop : ∀ left right, Eval.binary op left right = Logic.lift connective left right)
    {start : Bool} {operands : List Expr} {context : Context} {budget : Nat} {value : Value}
    (hchain : engine.eval (budget + 1) (Expr.chain op start operands) context = .ok value) :
    ∃ truths, Eval.HaveTruths (engine.eval budget) context operands truths ∧
      value = .ofTruth (truths.foldl connective (some start)) := by
  induction operands using List.reverseRecOn generalizing budget value with
  | nil =>
      cases hchain
      exact ⟨[], .nil, rfl⟩
  | append_singleton front last ih =>
      rw [Expr.chain, List.foldl_append] at hchain
      obtain ⟨left, hleft, hrest⟩ := bind_eq_ok_iff.mp (leaving_eq_ok_iff.mp hchain)
      obtain ⟨right, hright, hjoined⟩ := bind_eq_ok_iff.mp hrest
      rw [ofResult_eq_ok_iff, hop, Logic.lift_eq_ok_iff] at hjoined
      obtain ⟨l, r, rfl, rfl, rfl⟩ := hjoined
      cases budget with
      | zero => cases hleft
      | succ below =>
          obtain ⟨truths, htruths, hfront⟩ := ih hleft
          have hlifted : Eval.HaveTruths (engine.eval (below + 1)) context front truths :=
            htruths.imp fun _ _ => engine.eval_eq_ok_of_le (Nat.le_succ below)
          refine ⟨truths ++ [r], List.rel_append hlifted (.cons hright .nil), ?_⟩
          rw [List.foldl_append, ← Value.ofTruth_injective hfront]
          rfl

/-- Where a chain of AND has a value, it is true, false or null, and the conjunction of the same
operands is true or false, true exactly if the chain is.  The same holds of chains of OR and the
disjunction. -/
theorem evaluate_connectives_of_chain (engine : Engine) (context : Context)
    (operands : List Expr) (value : Value) :
    (engine.evaluate (Expr.chain .and true operands) context = .ok value →
      ∃ truth, value = .ofTruth truth ∧
        engine.evaluate (.conjunction operands) context = .ok (.boolean (truth == some true))) ∧
    (engine.evaluate (Expr.chain .or false operands) context = .ok value →
      ∃ truth, value = .ofTruth truth ∧
        engine.evaluate (.disjunction operands) context = .ok (.boolean (truth == some true))) := by
  constructor
  · intro hchain
    obtain ⟨truths, htruths, hvalue⟩ := engine.eval_chain_eq_ok (fun _ _ => rfl) hchain
    refine ⟨_, hvalue, leaving_eq_ok_iff.mpr ?_⟩
    rw [Logic.foldl_and_isTrue]
    exact Eval.conjunction_of_haveTruths htruths
  · intro hchain
    obtain ⟨truths, htruths, hvalue⟩ := engine.eval_chain_eq_ok (fun _ _ => rfl) hchain
    refine ⟨_, hvalue, leaving_eq_ok_iff.mpr ?_⟩
    rw [Logic.foldl_or_isTrue]
    exact Eval.disjunction_of_haveTruths htruths

/-- The operands true, null and `x`. -/
def guards : List Expr := [.literal (.boolean true), .literal .null, .variable "x"]

def rowOfTruth : Context := ⟨[("x", .boolean true)], [], []⟩

/-- With `x` true, `((true AND true) AND null) AND x` is unknown and the conjunction of its operands
is false; `((false OR true) OR null) OR x` and the disjunction are true. -/
theorem evaluate_connectives_guards :
    standard.evaluate (Expr.chain .and true guards) rowOfTruth = .ok .null ∧
    standard.evaluate (.conjunction guards) rowOfTruth = .ok (.boolean false) ∧
    standard.evaluate (Expr.chain .or false guards) rowOfTruth = .ok (.boolean true) ∧
    standard.evaluate (.disjunction guards) rowOfTruth = .ok (.boolean true) := by
  have hand : standard.evaluate (Expr.chain .and true guards) rowOfTruth = .ok .null := rfl
  have hor : standard.evaluate (Expr.chain .or false guards) rowOfTruth =
      .ok (.boolean true) := rfl
  obtain ⟨truth, htruth, hconjunction⟩ :=
    (standard.evaluate_connectives_of_chain rowOfTruth guards _).1 hand
  obtain rfl : none = truth := Value.ofTruth_injective htruth
  obtain ⟨truth, htruth, hdisjunction⟩ :=
    (standard.evaluate_connectives_of_chain rowOfTruth guards _).2 hor
  obtain rfl : some true = truth := Value.ofTruth_injective htruth
  exact ⟨hand, hconjunction, hor, hdisjunction⟩

end Engine

end CypherExpr
