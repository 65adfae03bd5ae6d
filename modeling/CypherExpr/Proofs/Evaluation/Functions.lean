import CypherExpr.Function.Standard
import CypherExpr.Proofs.Evaluation.Outcomes

/-!
# Functions that a registry knows

A registry built from a list knows functions of that list only.  The standard functions fail with a
cause alone; to mark the error is left to the expression that calls them.  Most of them are made for
one kind of argument, and what they ensure is a matter of that kind.
-/

namespace CypherExpr

namespace Registry

theorem find?_register (registry : Registry) (function : Function) (name : String) :
    (registry.register function).find? name =
      if Text.toLower name = Text.toLower function.name then some function
      else registry.find? name :=
  Properties.get?_set registry.functions _ _ function

theorem mem_of_find?_foldl {functions : List Function} {registry : Registry} {name : String}
    {function : Function}
    (hfound : (functions.foldl register registry).find? name = some function) :
    function ∈ functions ∨ registry.find? name = some function := by
  induction functions generalizing registry with
  | nil => exact .inr hfound
  | cons first rest ih =>
      rcases ih hfound with hrest | hregistry
      · exact .inl (List.mem_cons_of_mem first hrest)
      · rw [find?_register] at hregistry
        split at hregistry
        · cases hregistry
          exact .inl List.mem_cons_self
        · exact .inr hregistry

theorem mem_of_find?_ofFunctions {functions : List Function} {name : String}
    {function : Function} (hfound : (ofFunctions functions).find? name = some function) :
    function ∈ functions := by
  rcases mem_of_find?_foldl hfound with hmem | hempty
  · exact hmem
  · exact absurd hempty (by simp [find?, empty, Properties.get?])

end Registry

namespace Function

/-- The errors of the function bear no marks. -/
def Unmarked (function : Function) : Prop :=
  ∃ run : List Value → Result Value, function.run = fun args => .ofResult (run args)

@[simp]
theorem unmarked_scalar (name : String) (returns : ValueType)
    (run : List Value → Result Value) : (scalar name returns run).Unmarked :=
  ⟨run, rfl⟩

@[simp]
theorem unmarked_aggregate (name : String) (returns : ValueType)
    (run : List Value → Result Value) : (aggregate name returns run).Unmarked :=
  ⟨run, rfl⟩

@[simp]
theorem unmarked_withArity (function : Function) (least : Nat) (most : Option Nat) :
    (function.withArity least most).Unmarked ↔ function.Unmarked := Iff.rfl

theorem Unmarked.eq_ofCause {function : Function} (hunmarked : function.Unmarked)
    {args : List Value} {error : EvalError} (hrun : function.run args = .error error) :
    ∃ cause, error = .ofCause cause := by
  obtain ⟨run, hfunction⟩ := hunmarked
  rw [hfunction] at hrun
  cases hresult : run args with
  | ok value => simp [hresult, Outcome.ofResult] at hrun
  | error cause =>
      simp only [hresult, Outcome.ofResult, Except.error.injEq] at hrun
      exact ⟨cause, hrun.symm⟩

end Function

/-! ## Functions of one kind of argument -/

namespace Scalar

variable {pre post : Value → Prop} {args : List Value}

theorem onValue_ensures (name : String) {run : Value → Result Value} (hnull : post .null)
    (hrun : ∀ value, pre value → Ensures (run value) post) (hargs : ∀ value ∈ args, pre value) :
    Ensures (onValue name run args) post := by
  match args with
  | [] | _ :: _ :: _ => exact .error _
  | [value] =>
      unfold onValue single
      split
      · exact .ok hnull
      · next value' _ heq =>
        cases heq
        exact hrun value (hargs value List.mem_cons_self)
      · exact .error _

theorem onList_ensures (name : String) {run : List Value → Value} (hnull : post .null)
    (hrun : ∀ items, pre (.list items) → post (run items)) (hargs : ∀ value ∈ args, pre value) :
    Ensures (onList name run args) post := by
  refine onValue_ensures name hnull (fun value hvalue => ?_) hargs
  cases value with
  | list items => exact .ok (hrun items hvalue)
  | _ => exact .error _

theorem onString_ensures (name : String) (run : String → String) (hnull : post .null)
    (hrun : ∀ text, post (.string text)) (args : List Value) :
    Ensures (onString name run args) post := by
  refine onValue_ensures name hnull (fun value (_ : True) => ?_) fun _ _ => trivial
  cases value with
  | string text => exact .ok (hrun _)
  | _ => exact .error _

theorem onProperties_ensures (name : String) {run : Properties Value → Value} (hnull : post .null)
    (hrun : ∀ value, pre value → ∀ properties ∈ value.properties?, post (run properties))
    (hargs : ∀ value ∈ args, pre value) : Ensures (onProperties name run args) post := by
  refine onValue_ensures name hnull (fun value hvalue => ?_) hargs
  split
  · next properties hproperties => exact .ok (hrun value hvalue properties hproperties)
  · exact .error _

end Scalar

namespace Standard

theorem unmarked_of_mem {function : Function} (hfunction : function ∈ functions) :
    function.Unmarked := by
  suffices hall : ∀ standard ∈ functions, standard.Unmarked from hall function hfunction
  simp [functions, listFunctions, entityFunctions, conversionFunctions, aggregateFunctions]

end Standard

end CypherExpr
