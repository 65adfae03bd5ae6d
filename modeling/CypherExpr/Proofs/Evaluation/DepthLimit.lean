import CypherExpr.Proofs.Evaluation.FunctionCauses
import CypherExpr.Proofs.Evaluation.Level

/-!
# The depth limit is transparent

Below the limit evaluation does not see it: under a larger limit an expression has the outcome that
it has under a smaller one, or under the smaller one it runs into the limit.  An expression that is
no deeper than the limit never runs into it.
-/

namespace CypherExpr

/-- The first outcome hits the limit, or both are equal. -/
def OutcomeRelation.limitOrEqual : OutcomeRelation where
  Holds left right := left.HitsLimit ∨ left = right
  ok _ := .inr rfl
  fail _ _ := .inr rfl
  bind := by
    rintro α β left right next next' (hlimit | rfl) hnext
    · exact .inl (hlimit.bind next)
    · cases left with
      | ok value => exact hnext value
      | error error => exact .inr rfl

/-- The first outcome does not hit the limit. -/
def OutcomeRelation.withinLimit : OutcomeRelation where
  Holds left _ := ¬ left.HitsLimit
  ok _ := by simp
  fail _ hcause := by simpa using hcause
  bind := by
    intro α β left right next next' hleft hnext
    cases left with
    | ok value => exact hnext value
    | error error => exact hleft

namespace Engine

/-- A level uses the functions and the graph of an engine, not its options. -/
theorem level_withOptions (sub : Evaluator) (engine : Engine) (options : Options) :
    Eval.level sub (engine.withOptions options) = Eval.level sub engine := by
  funext expr context
  cases expr <;> rfl

theorem eval_withOptions (engine : Engine) (options : Options) (budget : Nat) :
    (engine.withOptions options).eval budget = engine.eval budget := by
  induction budget with
  | zero => rfl
  | succ budget ih =>
      funext expr context
      rw [eval, eval, level_withOptions, ih]

theorem evaluate_withOptions (engine : Engine) (options : Options) (expr : Expr)
    (context : Context) :
    (engine.withOptions options).evaluate expr context =
      engine.eval (options.maxDepth + 1) expr context := by
  rw [evaluate, eval_withOptions]
  rfl

/-- A larger budget changes nothing but the outcomes that hit the limit. -/
theorem eval_hitsLimit_or_eq (engine : Engine) {budget larger : Nat} (hle : budget ≤ larger)
    (expr : Expr) (context : Context) :
    (engine.eval budget expr context).HitsLimit ∨
      engine.eval budget expr context = engine.eval larger expr context := by
  induction budget generalizing larger expr context with
  | zero => exact .inl rfl
  | succ budget ih =>
      obtain ⟨larger, rfl⟩ := Nat.exists_eq_add_of_le' hle
      have hparts : Eval.PartsRelated .limitOrEqual (engine.eval budget)
          (engine.eval (larger + budget)) id context context expr.scopedParts :=
        fun part _ entries _ => ih (by omega) part.expr _
      exact Eval.level_related_same (R := .limitOrEqual) (fun _ _ _ _ => .inr rfl)
        (fun _ _ hrelated => hrelated.imp (by simp) (congrArg (Outcome.leaving · expr)))
        (fun _ => rfl) (fun _ _ => rfl) (fun _ _ => rfl) hparts

/-- A larger budget keeps every value. -/
theorem eval_eq_ok_of_le (engine : Engine) {budget larger : Nat} (hle : budget ≤ larger)
    {expr : Expr} {context : Context} {value : Value}
    (heval : engine.eval budget expr context = .ok value) :
    engine.eval larger expr context = .ok value := by
  rcases engine.eval_hitsLimit_or_eq hle expr context with hlimit | hequal
  · rw [heval] at hlimit
    exact hlimit.elim
  · rw [← hequal, heval]

/-- Within a budget that exceeds the level of every subexpression, the limit is not hit. -/
theorem eval_not_hitsLimit (engine : Engine) (hfunctions : engine.registry.StaysWithinLimit)
    {budget : Nat} {expr : Expr}
    (hdepth : ∀ level part, Expr.PartAt level part expr → level < budget)
    (context : Context) : ¬ (engine.eval budget expr context).HitsLimit := by
  induction budget generalizing expr context with
  | zero => exact absurd (hdepth 0 expr (.root expr)) (Nat.not_lt_zero 0)
  | succ budget ih =>
      have hparts : Eval.PartsRelated .withinLimit (engine.eval budget) (engine.eval budget) id
          context context expr.scopedParts := by
        intro part hpart entries _
        refine ih (fun level inner hinner => ?_) _
        have := hdepth (level + 1) inner (.deeper (Expr.mem_parts hpart) hinner)
        omega
      exact Eval.level_related_same (R := .withinLimit)
        (fun name function values hfound => hfunctions name function values hfound)
        (fun outcome _ hrelated => by simpa [OutcomeRelation.withinLimit] using hrelated)
        (fun _ => rfl) (fun _ _ => rfl) (fun _ _ => rfl) hparts

/-- Of two depth limits, the smaller one is hit or gives the outcome of the larger one; and it is
not hit by an expression whose subexpressions all stand within it, if the functions do not report
it themselves. -/
theorem evaluate_withOptions_limit (engine : Engine) (small large : Options)
    (hle : small.maxDepth ≤ large.maxDepth) (expr : Expr) (context : Context) :
    (((engine.withOptions small).evaluate expr context).HitsLimit ∨
      (engine.withOptions small).evaluate expr context =
        (engine.withOptions large).evaluate expr context) ∧
    (engine.registry.StaysWithinLimit →
      (∀ level part, Expr.PartAt level part expr → level ≤ small.maxDepth) →
      ¬ ((engine.withOptions small).evaluate expr context).HitsLimit) := by
  rw [evaluate_withOptions, evaluate_withOptions]
  refine ⟨eval_hitsLimit_or_eq engine (by omega) expr context, fun hfunctions hdepth => ?_⟩
  exact eval_not_hitsLimit engine hfunctions
    (fun level part hpart => Nat.lt_succ_of_le (hdepth level part hpart)) context

/-- The call `size([1, 2])`, which has literals two levels below it. -/
def sizeOfPair : Expr :=
  .call "size" [.list [.literal (.integer 1), .literal (.integer 2)]] false

theorem level_le_of_partAt_sizeOfPair {level : Nat} {part : Expr}
    (hpart : Expr.PartAt level part sizeOfPair) : level ≤ 2 := by
  cases hpart with
  | root => omega
  | deeper hcall hpart =>
      obtain rfl : _ = Expr.list [.literal (.integer 1), .literal (.integer 2)] := by
        simpa [sizeOfPair, Expr.parts, Expr.scopedParts, Expr.within] using hcall
      cases hpart with
      | root => omega
      | deeper hlist hpart =>
          simp only [Expr.parts, Expr.scopedParts, Expr.within, List.map_cons, List.map_nil,
            List.mem_cons, List.not_mem_nil, or_false] at hlist
          rcases hlist with rfl | rfl
          all_goals
            cases hpart with
            | root => omega
            | deeper hliteral _ => simp [Expr.parts, Expr.scopedParts] at hliteral

/-- The limit 2 suffices for `size([1, 2])`, so the limit 3 gives it the same outcome. -/
theorem evaluate_sizeOfPair_limit :
    (2 ≤ 3 ∧ standard.registry.StaysWithinLimit ∧
      ∀ level part, Expr.PartAt level part sizeOfPair → level ≤ 2) ∧
    ¬ ((standard.withOptions ⟨2, 0⟩).evaluate sizeOfPair .empty).HitsLimit ∧
      (standard.withOptions ⟨2, 0⟩).evaluate sizeOfPair .empty =
        (standard.withOptions ⟨3, 64⟩).evaluate sizeOfPair .empty := by
  have hdepth : ∀ level part, Expr.PartAt level part sizeOfPair → level ≤ 2 :=
    fun level part => level_le_of_partAt_sizeOfPair
  have hlimit := standard.evaluate_withOptions_limit ⟨2, 0⟩ ⟨3, 64⟩ (by decide) sizeOfPair .empty
  have hwithin := hlimit.2 Standard.registry_staysWithinLimit hdepth
  exact ⟨⟨by decide, Standard.registry_staysWithinLimit, hdepth⟩, hwithin,
    hlimit.1.resolve_left hwithin⟩

end Engine

end CypherExpr
