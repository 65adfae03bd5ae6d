import CypherExpr.Proofs.Evaluation.Functions
import CypherExpr.Proofs.Evaluation.Outcomes

/-!
# Causes of functions

A function that evaluates no expression has no depth to exceed.  The standard functions never report
the depth limit, whatever they are called with, so with their registry that cause always comes from
the descent itself.
-/

namespace CypherExpr

/-! ## Scalar functions -/

namespace Scalar

theorem onValue_ne_limit (name : String) {run : Value → Result Value}
    (hrun : ∀ value, run value ≠ .error .recursionLimit) (args : List Value) :
    onValue name run args ≠ .error .recursionLimit := by
  match args with
  | [] | _ :: _ :: _ => simp [onValue, single]
  | [value] =>
      by_cases hnull : value = .null
      · simp [hnull, onValue, single]
      · simpa [onValue, single, hnull] using hrun value

theorem onList_ne_limit (name : String) (run : List Value → Value) (args : List Value) :
    onList name run args ≠ .error .recursionLimit :=
  onValue_ne_limit name (fun value => by cases value <;> simp [Cause.mismatch]) args

theorem onString_ne_limit (name : String) (run : String → String) (args : List Value) :
    onString name run args ≠ .error .recursionLimit :=
  onValue_ne_limit name (fun value => by cases value <;> simp [Cause.mismatch]) args

theorem onProperties_ne_limit (name : String) (run : Properties Value → Value)
    (args : List Value) : onProperties name run args ≠ .error .recursionLimit := by
  refine onValue_ne_limit name (fun value => ?_) args
  split <;> simp [Cause.mismatch]

theorem integerArgument_ne_limit (value : Value) :
    integerArgument value ≠ .error .recursionLimit := by
  cases value <;> simp [integerArgument, Cause.mismatch]

theorem rangeBetween_ne_limit (start stop step : Value) :
    rangeBetween start stop step ≠ .error .recursionLimit := by
  refine Result.bind_ne_limit (integerArgument_ne_limit start) fun first => ?_
  refine Result.bind_ne_limit (integerArgument_ne_limit stop) fun last => ?_
  refine Result.bind_ne_limit (integerArgument_ne_limit step) fun distance => ?_
  split <;> simp

theorem range_ne_limit (args : List Value) : range args ≠ .error .recursionLimit := by
  unfold range
  split
  · split
    · simp
    · exact rangeBetween_ne_limit _ _ _
  · split
    · simp
    · exact rangeBetween_ne_limit _ _ _
  · simp

theorem toText_ne_limit (args : List Value) : toText args ≠ .error .recursionLimit := by
  refine onValue_ne_limit _ (fun value => ?_) args
  split <;> simp [Cause.mismatch]

theorem ofChecked_ne_limit (operation : String) (result : Option Int64) :
    ofChecked operation result ≠ .error .recursionLimit := by
  cases result <;> simp [ofChecked]

theorem abs_ne_limit (args : List Value) : abs args ≠ .error .recursionLimit := by
  refine onValue_ne_limit _ (fun value => ?_) args
  cases value with
  | integer number => exact ofChecked_ne_limit _ _
  | _ => simp [Cause.mismatch]

theorem sqrt_ne_limit (args : List Value) : sqrt args ≠ .error .recursionLimit := by
  refine onValue_ne_limit _ (fun value => ?_) args
  split <;> simp [Cause.mismatch]

end Scalar

/-! ## Aggregating functions -/

namespace Aggregate

theorem column_ne_limit (name : String) (args : List Value) :
    column name args ≠ .error .recursionLimit := by
  unfold column
  split <;> simp [Cause.mismatch]

theorem count_ne_limit (args : List Value) : count args ≠ .error .recursionLimit := by
  refine Result.bind_ne_limit (column_ne_limit _ args) fun entries => ?_
  split <;> simp

theorem addEntry_ne_limit (total entry : Value) :
    addEntry total entry ≠ .error .recursionLimit := by
  unfold addEntry
  split
  all_goals split <;> simp [Cause.mismatch]

theorem sum_ne_limit (args : List Value) : sum args ≠ .error .recursionLimit :=
  Result.bind_ne_limit (column_ne_limit _ args) fun entries =>
    Result.foldlM_ne_limit addEntry_ne_limit entries _

theorem numbers_ne_limit (entries : List Value) :
    numbers entries ≠ .error .recursionLimit := by
  induction entries with
  | nil => simp [numbers]
  | cons entry rest ih =>
      rw [numbers]
      split
      · exact Result.map_ne_limit ih _
      · simp [Cause.mismatch]

theorem avg_ne_limit (args : List Value) : avg args ≠ .error .recursionLimit := by
  refine Result.bind_ne_limit (column_ne_limit _ args) fun entries => ?_
  refine Result.bind_ne_limit (numbers_ne_limit entries) fun values => ?_
  split <;> simp

theorem better_ne_limit (name : String) (wanted : Ordering) (best entry : Value) :
    better name wanted best entry ≠ .error .recursionLimit := by
  rw [better]
  split <;> simp

theorem extreme_ne_limit (name : String) (wanted : Ordering) (args : List Value) :
    extreme name wanted args ≠ .error .recursionLimit := by
  refine Result.bind_ne_limit (column_ne_limit name args) fun entries => ?_
  cases entries with
  | nil => simp
  | cons first rest => exact Result.foldlM_ne_limit (better_ne_limit name wanted) rest first

end Aggregate

/-! ## The standard registry -/

/-- No function of the registry reports the depth limit by itself. -/
def Registry.StaysWithinLimit (registry : Registry) : Prop :=
  ∀ name function args, registry.find? name = some function → ¬ (function.run args).HitsLimit

namespace Standard

theorem not_hitsLimit_of_mem {function : Function} (hfunction : function ∈ functions)
    (args : List Value) : ¬ (function.run args).HitsLimit := by
  suffices hall : ∀ standard ∈ functions, ¬ (standard.run args).HitsLimit from
    hall function hfunction
  simp only [functions, listFunctions, entityFunctions, conversionFunctions, aggregateFunctions,
    List.forall_mem_append, List.forall_mem_cons, Function.scalar, Function.aggregate,
    Function.withArity, Outcome.hitsLimit_ofResult]
  have hnone := List.forall_mem_nil fun standard : Function => ¬ (standard.run args).HitsLimit
  refine ⟨⟨⟨⟨?size, ?length, ?head, ?last, ?tail, ?reverse, ?range, hnone⟩,
    ?keys, ?labels, ?kind, ?id, ?properties, ?nodes, ?relationships, hnone⟩,
    ?coalesce, ?toUpper, ?toLower, ?trim, ?toText, ?toInteger, ?toFloat, ?abs, ?sqrt, hnone⟩,
    ?count, ?sum, ?avg, ?min, ?max, ?collect, hnone⟩
  case head | last | tail => apply Scalar.onList_ne_limit
  case keys | properties => apply Scalar.onProperties_ne_limit
  case toUpper | toLower | trim => apply Scalar.onString_ne_limit
  case range => exact Scalar.range_ne_limit args
  case coalesce => simp [Scalar.coalesce]
  case toText => exact Scalar.toText_ne_limit args
  case abs => exact Scalar.abs_ne_limit args
  case sqrt => exact Scalar.sqrt_ne_limit args
  case count => exact Aggregate.count_ne_limit args
  case collect => exact Result.map_ne_limit (Aggregate.column_ne_limit _ args) _
  case sum => exact Aggregate.sum_ne_limit args
  case avg => exact Aggregate.avg_ne_limit args
  case min | max => apply Aggregate.extreme_ne_limit
  -- the others look at the constructor of their argument and fail with a mismatch
  all_goals
    refine Scalar.onValue_ne_limit _ (fun value => ?_) args
    cases value <;> simp [Cause.mismatch]

theorem registry_staysWithinLimit : registry.StaysWithinLimit :=
  fun _ _ args hfound => not_hitsLimit_of_mem (Registry.mem_of_find?_ofFunctions hfound) args

end Standard

end CypherExpr
