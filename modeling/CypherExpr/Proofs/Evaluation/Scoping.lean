import CypherExpr.Proofs.Evaluation.Level

/-!
# Evaluation depends on free names only

Two contexts that answer the free names of an expression alike give it the same outcome, value or
error.  A name bound by a loop is free only outside of it, so loop variables do not leak, and a
binding that an expression does not mention changes nothing.
-/

namespace CypherExpr

namespace Context

theorem lookup_bindAll_congr {left right : Context} {name : String}
    (entries : List (String × Value))
    (hname : name ∉ entries.map Prod.fst → left.lookup name = right.lookup name) :
    (left.bindAll entries).lookup name = (right.bindAll entries).lookup name := by
  induction entries generalizing left right with
  | nil => exact hname (by simp)
  | cons entry rest ih =>
      refine ih fun hrest => ?_
      rw [lookup_bind, lookup_bind]
      by_cases hentry : name = entry.1
      · rw [if_pos hentry, if_pos hentry]
      · rw [if_neg hentry, if_neg hentry]
        exact hname (by simpa [hentry] using hrest)

@[simp]
theorem parameter?_bindAll (context : Context) (entries : List (String × Value))
    (name : String) : (context.bindAll entries).parameter? name = context.parameter? name := by
  induction entries generalizing context with
  | nil => rfl
  | cons entry rest ih => exact ih (context.bind entry.1 entry.2)

@[simp]
theorem segment?_bindAll (context : Context) (entries : List (String × Value))
    (name : String) : (context.bindAll entries).segment? name = context.segment? name := by
  induction entries generalizing context with
  | nil => rfl
  | cons entry rest ih => exact ih (context.bind entry.1 entry.2)

/-- Two contexts answer alike whatever an expression can ask of them. -/
structure AgreeOn (expr : Expr) (left right : Context) : Prop where
  parameters : ∀ name, left.parameter? name = right.parameter? name
  lookup : ∀ name, expr.Free name → left.lookup name = right.lookup name
  segments : ∀ name, expr.UsesSegment name → left.segment? name = right.segment? name

/-- Contexts that agree on an expression agree on each part once the names around it are bound. -/
theorem AgreeOn.part {expr : Expr} {left right : Context} (hagree : AgreeOn expr left right)
    {part : ScopedPart} (hpart : part ∈ expr.scopedParts) {entries : List (String × Value)}
    (hentries : entries.map Prod.fst = part.bound) :
    AgreeOn part.expr (left.bindAll entries) (right.bindAll entries) where
  parameters name := by simpa using hagree.parameters name
  lookup name hfree := lookup_bindAll_congr entries fun hbound =>
    hagree.lookup name (.part hpart (hentries ▸ hbound) hfree)
  segments name huses := by
    simpa using hagree.segments name (huses.of_part (Expr.mem_parts hpart))

end Context

/-- Outcomes that are equal. -/
def OutcomeRelation.equality : OutcomeRelation where
  Holds left right := left = right
  ok _ := rfl
  fail _ _ := rfl
  bind hfirst hnext := by rw [hfirst, funext hnext]

namespace Engine

/-- Within every budget, the outcome depends on what the expression can ask of its context. -/
theorem eval_congr (engine : Engine) (budget : Nat) {expr : Expr} {left right : Context}
    (hagree : Context.AgreeOn expr left right) :
    engine.eval budget expr left = engine.eval budget expr right := by
  induction budget generalizing expr left right with
  | zero => rfl
  | succ budget ih =>
      have hparts : Eval.PartsRelated .equality (engine.eval budget) (engine.eval budget) id
          left right expr.scopedParts :=
        fun part hpart entries hentries => ih (hagree.part hpart hentries)
      exact Eval.level_related_same (R := .equality) (fun _ _ _ _ => rfl)
        (fun _ _ hequal => congrArg (Outcome.leaving · expr) hequal) hagree.parameters
        (fun name hname => hagree.lookup name (.here hname))
        (fun name hname => hagree.segments name ⟨expr, .self expr, hname⟩) hparts

/-- Contexts with the same parameters that agree on the free names of an expression and on the
segments of its paths give it the same outcome.  In particular a binding of a name that is not free
in the expression changes nothing. -/
theorem evaluate_eq_of_agreeOn (engine : Engine) (expr : Expr) (left right : Context)
    (hagree : Context.AgreeOn expr left right) :
    engine.evaluate expr left = engine.evaluate expr right ∧
      ∀ name value, ¬ expr.Free name →
        engine.evaluate expr (left.bind name value) = engine.evaluate expr left := by
  refine ⟨engine.eval_congr _ hagree, fun name value hfresh => engine.eval_congr _ ?_⟩
  refine ⟨fun _ => rfl, fun other hother => ?_, fun _ _ => rfl⟩
  have hne : other ≠ name := fun hequal => hfresh (hequal ▸ hother)
  rw [Context.lookup_bind, if_neg hne]

/-- The comprehension `[x IN xs | x + y]`. -/
def shiftedItems : Expr :=
  .comprehension "x" (.variable "xs") none
    (some (.binary .add (.variable "x") (.variable "y")))

def rowOfItems : Context :=
  ⟨[("xs", .list [.integer 1, .integer 2]), ("y", .integer 10)], [], []⟩

/-- Outside of its loop, the loop variable may be bound to one thing or another. -/
theorem evaluate_shiftedItems_rebound :
    Context.AgreeOn shiftedItems (rowOfItems.bind "x" .null)
        (rowOfItems.bind "x" (.integer 7)) ∧
      standard.evaluate shiftedItems (rowOfItems.bind "x" .null) =
        standard.evaluate shiftedItems (rowOfItems.bind "x" (.integer 7)) := by
  have hagree : Context.AgreeOn shiftedItems (rowOfItems.bind "x" .null)
      (rowOfItems.bind "x" (.integer 7)) := by
    refine ⟨fun _ => rfl, fun name hfree => ?_, fun _ _ => rfl⟩
    have hne : name ≠ "x" := by
      rintro rfl
      rw [shiftedItems, Expr.free_iff] at hfree
      simp [Expr.lookedUp, Expr.scopedParts, Expr.within] at hfree
    rw [Context.lookup_bind, Context.lookup_bind, if_neg hne, if_neg hne]
  exact ⟨hagree, (standard.evaluate_eq_of_agreeOn _ _ _ hagree).1⟩

end Engine

end CypherExpr
