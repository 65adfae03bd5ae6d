import CypherExpr.Proofs.Evaluation.Outcomes
import CypherExpr.Typing.Infer
import CypherExpr.Engine.Eval
import Mathlib.Data.List.Forall2

/-!
# Literal data

Expressions built from literals by lists and maps fail only by the depth limit.  Inference joins
the types of the elements of a list just as the type of its value is joined from those of the values
of the elements, and `any` stands for a null on both sides.  So what is inferred of literal data is
the very type of its value, however lists, maps and nulls are nested.
-/

namespace CypherExpr

/-- Expressions built from literals by lists and maps, to any depth. -/
inductive Expr.LiteralData : Expr → Prop
  | literal (value : Literal) : LiteralData (.literal value)
  | list {items : List Expr} (hitems : ∀ item ∈ items, LiteralData item) :
      LiteralData (.list items)
  | map {entries : List (String × Expr)} (hentries : ∀ entry ∈ entries, LiteralData entry.2) :
      LiteralData (.map entries)

namespace Outcome

variable {α β : Type}

/-- The outcome is a value of a kind, unless the depth limit was hit. -/
def GivesWithinLimit (outcome : Outcome α) (Kind : α → Prop) : Prop :=
  outcome.HitsLimit ∨ ∃ value, outcome = .ok value ∧ Kind value

theorem GivesWithinLimit.of_ok {Kind : α → Prop} {value : α} (hvalue : Kind value) :
    GivesWithinLimit (.ok value) Kind :=
  .inr ⟨value, rfl, hvalue⟩

theorem GivesWithinLimit.mono {outcome : Outcome α} {Kind Kind' : α → Prop}
    (houtcome : outcome.GivesWithinLimit Kind) (hkind : ∀ value, Kind value → Kind' value) :
    outcome.GivesWithinLimit Kind' :=
  houtcome.imp_right fun ⟨value, hvalue, hknown⟩ => ⟨value, hvalue, hkind value hknown⟩

theorem GivesWithinLimit.bind {outcome : Outcome α} {next : α → Outcome β} {Kind : α → Prop}
    {Kind' : β → Prop} (houtcome : outcome.GivesWithinLimit Kind)
    (hnext : ∀ value, Kind value → (next value).GivesWithinLimit Kind') :
    GivesWithinLimit (outcome >>= next) Kind' := by
  rcases houtcome with hlimit | ⟨value, rfl, hvalue⟩
  · exact .inl (hlimit.bind next)
  · exact hnext value hvalue

theorem GivesWithinLimit.leaving {outcome : Outcome α} {Kind : α → Prop}
    (houtcome : outcome.GivesWithinLimit Kind) (expr : Expr) :
    (outcome.leaving expr).GivesWithinLimit Kind := by
  rcases houtcome with hlimit | ⟨value, rfl, hvalue⟩
  · exact .inl ((hitsLimit_leaving _ expr).mpr hlimit)
  · exact .of_ok hvalue

end Outcome

namespace Eval

variable {sub : Evaluator} {context : Context}

theorem all_givesWithinLimit {Kind : Expr → Value → Prop} {exprs : List Expr}
    (hexprs : ∀ expr ∈ exprs, (sub expr context).GivesWithinLimit (Kind expr)) :
    (all sub context exprs).GivesWithinLimit fun values => List.Forall₂ Kind exprs values := by
  induction exprs with
  | nil => exact .of_ok .nil
  | cons expr rest ih =>
      obtain ⟨hexpr, hrest⟩ := List.forall_mem_cons.mp hexprs
      refine hexpr.bind fun value hvalue => (ih hrest).bind fun values hvalues => ?_
      exact .of_ok (.cons hvalue hvalues)

theorem entries_givesWithinLimit {properties : List (String × Expr)} (soFar : Properties Value)
    (hentries : ∀ entry ∈ properties, (sub entry.2 context).GivesWithinLimit fun _ => True) :
    (entries sub context soFar properties).GivesWithinLimit fun _ => True := by
  induction properties generalizing soFar with
  | nil => exact .of_ok trivial
  | cons entry rest ih =>
      obtain ⟨hentry, hrest⟩ := List.forall_mem_cons.mp hentries
      exact hentry.bind fun value _ => ih _ hrest

end Eval

/-- Elements that are each inferred to be of the type of their value, `any` where nothing is
inferred, have the types of their values. -/
theorem Typing.inferElements_of_forall₂ {registry : Registry} {types : TypeContext}
    {items : List Expr} {values : List Value}
    (hitems : List.Forall₂
      (fun item value => value.type = (infer registry types item).getD .any) items values) :
    inferElements registry types items = Value.types values := by
  induction hitems with
  | nil => rfl
  | cons htype _ ih => rw [inferElements, Value.types, ih, htype]

namespace Engine

/-- Within the depth limit literal data has a value of the type inferred for it. -/
theorem eval_literalData (engine : Engine) (types : TypeContext) (context : Context) {expr : Expr}
    (hdata : expr.LiteralData) (budget : Nat) :
    (engine.eval budget expr context).GivesWithinLimit fun value =>
      value.type = (engine.inferType expr types).getD .any := by
  -- on the budget, since every constructor evaluates its parts one level down
  induction budget generalizing expr with
  | zero => exact .inl rfl
  | succ below ih =>
      cases hdata with
      | literal literal => cases literal <;> exact .of_ok rfl
      | list hitems =>
          have hvalues := Eval.all_givesWithinLimit fun item hitem => ih (hitems item hitem)
          refine (hvalues.bind fun values htypes => .of_ok ?_).leaving _
          rw [Value.type, inferType, Typing.infer, Typing.inferElements_of_forall₂ htypes]
          rfl
      | @map properties hentries =>
          have hvalues : ∀ entry ∈ properties,
              (engine.eval below entry.2 context).GivesWithinLimit fun _ => True :=
            fun entry hentry => (ih (hentries entry hentry)).mono fun _ _ => trivial
          exact (Eval.entries_givesWithinLimit [] hvalues).bind fun _ _ => .of_ok rfl

/-- Static and runtime types of literal data coincide: a value of such an expression is of the type
inferred for it, which is read as `any` where none is.  There is a value unless the expression is
nested more deeply than the limit allows. -/
theorem evaluate_literalData_type (engine : Engine) (types : TypeContext) (context : Context)
    (expr : Expr) (hdata : expr.LiteralData) :
    (∀ value, engine.evaluate expr context = .ok value →
      value.type = (engine.inferType expr types).getD .any) ∧
    ((engine.evaluate expr context).HitsLimit ∨
      ∃ value, engine.evaluate expr context = .ok value) := by
  have hgives : (engine.evaluate expr context).GivesWithinLimit _ :=
    engine.eval_literalData types context hdata (engine.options.maxDepth + 1)
  refine ⟨fun value hvalue => ?_, hgives.imp_right fun ⟨value, hvalue, _⟩ => ⟨value, hvalue⟩⟩
  rcases hgives with hlimit | ⟨known, hknown, htype⟩
  · rw [hvalue] at hlimit
    exact hlimit.elim
  · cases hvalue.symm.trans hknown
    exact htype

/-- The list `[[1, null], [], null, [2.5]]`. -/
def ragged : Expr :=
  .list [.list [.literal (.integer 1), .literal .null], .list [], .literal .null,
    .list [.literal (.float 2.5)]]

theorem literalData_ragged : ragged.LiteralData := by
  refine .list ?_
  simp only [List.forall_mem_cons]
  refine ⟨.list ?_, .list (List.forall_mem_nil _), .literal _, .list ?_, List.forall_mem_nil _⟩
  · simp only [List.forall_mem_cons]
    exact ⟨.literal _, .literal _, List.forall_mem_nil _⟩
  · simp only [List.forall_mem_cons]
    exact ⟨.literal _, List.forall_mem_nil _⟩

/-- With lists of integers, of nothing and of floats, and nulls on either level, both types are that
of lists of numbers. -/
theorem evaluate_ragged_type :
    ragged.LiteralData ∧
    standard.inferType ragged .empty = some (.list (.list .number)) ∧
    ∃ value, standard.evaluate ragged .empty = .ok value ∧ value.type = .list (.list .number) := by
  have hdata := literalData_ragged
  have htype := (standard.evaluate_literalData_type .empty .empty ragged hdata).1
  exact ⟨hdata, rfl, _, rfl, htype _ rfl⟩

end Engine

end CypherExpr
