import CypherExpr.Proofs.Evaluation.Connectives
import CypherExpr.Proofs.Evaluation.Operators

/-!
# Membership as a disjunction of equalities

A membership test stops at the first element that is equal to the item and remembers on the way
whether a comparison was unknown.  What it remembers is the disjunction of the comparisons so far,
which is false or unknown as long as no element is equal, and once one is the disjunction is true
whatever follows.  The test therefore gives what joining all comparisons by OR gives, for values
and, where the depth limit admits the longer expression, for expressions.
-/

namespace CypherExpr

namespace Logic

theorem lift_ofTruth (connective : Option Bool → Option Bool → Option Bool)
    (left right : Option Bool) :
    lift connective (.ofTruth left) (.ofTruth right) = .ok (.ofTruth (connective left right)) :=
  lift_eq_ok_iff.mpr ⟨left, right, rfl, rfl, rfl⟩

theorem foldl_or_of_true (truths : List (Option Bool)) :
    truths.foldl or (some true) = some true := by
  simpa using foldl_or_isTrue (some true) truths

end Logic

namespace Container

/-- The search is a disjunction that begins with what was remembered. -/
theorem search_eq_foldl_or (item : Value) (uncertain : Bool) (candidates : List Value) :
    search item uncertain candidates =
      (candidates.map item.equal?).foldl Logic.or (if uncertain then none else some false) := by
  induction candidates generalizing uncertain with
  | nil => rfl
  | cons candidate rest ih =>
      rw [search, List.map_cons, List.foldl_cons]
      match item.equal? candidate with
      | some true =>
          -- the search has stopped, and the disjunction does not change any more
          have htrue : ∀ truth, Logic.or truth (some true) = some true := by
            rintro (_ | _ | _) <;> rfl
          rw [htrue, Logic.foldl_or_of_true]
      | some false =>
          have hkept : Logic.or (if uncertain then none else some false) (some false) =
              if uncertain then none else some false := by
            cases uncertain <;> rfl
          rw [hkept]
          exact ih uncertain
      | none =>
          have hunknown : Logic.or (if uncertain then none else some false) none = none := by
            cases uncertain <;> rfl
          rw [hunknown]
          exact ih true

theorem isIn_list (item : Value) (candidates : List Value) :
    isIn item (.list candidates) =
      .ok (.ofTruth ((candidates.map item.equal?).foldl Logic.or (some false))) := by
  cases candidates with
  | nil => rfl
  | cons candidate rest =>
      rw [isIn, List.isEmpty_cons, if_neg Bool.false_ne_true, search_eq_foldl_or]
      rfl

end Container

namespace Eval

/-- The value of `false OR item = v₁ OR … OR item = vₙ`, joined from the left. -/
def anyEqual (item : Value) (candidates : List Value) : Result Value :=
  candidates.foldlM
    (fun soFar candidate => do binary .or soFar (← binary .equal item candidate)) (.boolean false)

theorem anyEqual_eq (item : Value) (candidates : List Value) :
    anyEqual item candidates =
      .ok (.ofTruth ((candidates.map item.equal?).foldl Logic.or (some false))) := by
  suffices hfrom : ∀ truth, candidates.foldlM
      (fun soFar candidate => do binary .or soFar (← binary .equal item candidate))
      (.ofTruth truth) =
        .ok (.ofTruth ((candidates.map item.equal?).foldl Logic.or truth)) from hfrom (some false)
  induction candidates with
  | nil => exact fun truth => rfl
  | cons candidate rest ih =>
      intro truth
      have hstep : (do binary .or (.ofTruth truth) (← binary .equal item candidate)) =
          .ok (.ofTruth (Logic.or truth (item.equal? candidate))) :=
        Logic.lift_ofTruth Logic.or truth (item.equal? candidate)
      rw [List.foldlM_cons, hstep, Result.ok_bind]
      exact ih _

end Eval

namespace Engine

variable (engine : Engine) {context : Context}

/-- A chain that continues an expression with a truth value takes one level for each operand and
joins the truth values of the operands to it. -/
theorem eval_chain_of_haveTruths {op : BinaryOp}
    {connective : Option Bool → Option Bool → Option Bool}
    (hop : ∀ left right, Eval.binary op left right = Logic.lift connective left right)
    {operands : List Expr} {truths : List (Option Bool)} {below budget : Nat} {first : Expr}
    {truth : Option Bool}
    (htruths : Eval.HaveTruths (engine.eval below) context operands truths)
    (hle : below ≤ budget) (hfirst : engine.eval budget first context = .ok (.ofTruth truth)) :
    engine.eval (budget + operands.length) (operands.foldl (.binary op) first) context =
      .ok (.ofTruth (truths.foldl connective truth)) := by
  induction htruths generalizing budget first truth with
  | nil => exact hfirst
  | @cons operand next operands truths hoperand _ ih =>
      have hjoined : Eval.binary op (.ofTruth truth) (.ofTruth next) =
          .ok (.ofTruth (connective truth next)) := by
        rw [hop, Logic.lift_ofTruth]
      have hsecond := engine.eval_eq_ok_of_le hle hoperand
      have hrest := ih (Nat.le_succ_of_le hle) (engine.eval_binary_eq_ok hfirst hsecond hjoined)
      rw [List.length_cons, List.foldl_cons, Nat.add_comm operands.length, ← Nat.add_assoc]
      exact hrest

/-- Where the item and the elements of a list are evaluated from expressions, so are the equalities
between them, one level above. -/
theorem haveTruths_equalities {left : Expr} {terms : List Expr} {item : Value}
    {candidates : List Value} {budget : Nat} (hleft : engine.eval budget left context = .ok item)
    (hterms : List.Forall₂ (fun term candidate => engine.eval budget term context = .ok candidate)
      terms candidates) :
    Eval.HaveTruths (engine.eval (budget + 1)) context (terms.map (.binary .equal left))
      (candidates.map item.equal?) := by
  rw [Eval.HaveTruths, List.forall₂_map_left_iff, List.forall₂_map_right_iff]
  exact hterms.imp fun _ _ hterm => engine.eval_binary_eq_ok hleft hterm rfl

/-- A membership test in a list gives true, false or null just as the equalities of the item with
the elements do when they are joined by OR from the left, beginning with false.  So does the
disjunction as an expression, with expressions for the elements, under a depth limit that allows
for one level more for each of them. -/
theorem evaluate_isIn_eq_disjunction (context : Context) (left right : Expr) {item : Value}
    {candidates : List Value}
    (hleft : engine.eval engine.options.maxDepth left context = .ok item)
    (hright : engine.eval engine.options.maxDepth right context = .ok (.list candidates)) :
    ∃ truth : Option Bool,
      engine.evaluate (.binary .isIn left right) context = .ok (.ofTruth truth) ∧
      Eval.anyEqual item candidates = .ok (.ofTruth truth) ∧
      ∀ terms options,
        List.Forall₂ (fun term candidate => engine.evaluate term context = .ok candidate) terms
          candidates →
        engine.options.maxDepth + terms.length < options.maxDepth →
        (engine.withOptions options).evaluate
          (Expr.chain .or false (terms.map (.binary .equal left))) context =
            .ok (.ofTruth truth) := by
  refine ⟨_, engine.eval_binary_eq_ok hleft hright (Container.isIn_list item candidates),
    Eval.anyEqual_eq item candidates, fun terms options hterms hdepth => ?_⟩
  have hitem := engine.eval_eq_ok_of_le (Nat.le_succ _) hleft
  have hor : ∀ first second, Eval.binary .or first second = Logic.lift Logic.or first second :=
    fun _ _ => rfl
  have hstart : engine.eval (engine.options.maxDepth + 2) (.literal (.boolean false)) context =
      .ok (.ofTruth (some false)) := rfl
  have hchain := engine.eval_chain_of_haveTruths hor (engine.haveTruths_equalities hitem hterms)
    (Nat.le_refl _) hstart
  rw [evaluate_withOptions]
  refine engine.eval_eq_ok_of_le ?_ hchain
  rw [List.length_map]
  omega

/-- The row with 2 as `x` and the list of 1, null and 2.0 as `xs`. -/
def rowOfCandidates : Context :=
  ⟨[("x", .integer 2), ("xs", .list [.integer 1, .null, .float 2.0])], [], []⟩

/-- Whether 2 is one of 1, null and 2.0 is unknown, since it is equal to neither number, and
`((false OR x = 1) OR x = null) OR x = 2.0` is unknown too. -/
theorem evaluate_isIn_unknownElement :
    (standard.eval 512 (.variable "x") rowOfCandidates = .ok (.integer 2) ∧
      standard.eval 512 (.variable "xs") rowOfCandidates =
        .ok (.list [.integer 1, .null, .float 2.0])) ∧
    standard.evaluate (.binary .isIn (.variable "x") (.variable "xs")) rowOfCandidates =
      .ok .null ∧
    Eval.anyEqual (.integer 2) [.integer 1, .null, .float 2.0] = .ok .null ∧
    (standard.withOptions ⟨516, 64⟩).evaluate
      (Expr.chain .or false
        ([.literal (.integer 1), .literal .null, .literal (.float 2.0)].map
          (.binary .equal (.variable "x")))) rowOfCandidates = .ok .null := by
  obtain ⟨truth, hin, hany, hchain⟩ :=
    standard.evaluate_isIn_eq_disjunction rowOfCandidates (.variable "x") (.variable "xs") rfl rfl
  obtain rfl : truth = none := Value.ofTruth_injective (Except.ok.inj (hin.symm.trans rfl))
  refine ⟨⟨rfl, rfl⟩, hin, hany, hchain _ ⟨516, 64⟩ ?_ (by decide)⟩
  exact .cons rfl (.cons rfl (.cons rfl .nil))

end Engine

end CypherExpr
