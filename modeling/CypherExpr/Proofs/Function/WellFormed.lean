import CypherExpr.Proofs.Evaluation.Functions
import CypherExpr.Proofs.Value.WellFormed

/-!
# Functions give well-formed values

The standard functions hand on values that stand in their arguments, or make values that hold
nothing.  Called with well-formed values they give well-formed values, and so does every function of
a registry to which only such functions were added.
-/

namespace CypherExpr

open Value (wellFormed_null wellFormed_of_empty wellFormed_list_iff wellFormed_list_map
  wellFormed_list_of_subset wellFormed_map_iff wellFormed_of_mem_map wellFormed_ofOption)

variable {args : List Value}

/-! ## Scalar functions -/

namespace Scalar

theorem head_wellFormed (hargs : ∀ value ∈ args, value.WellFormed) :
    Ensures (head args) Value.WellFormed := by
  refine onList_ensures _ wellFormed_null (fun items hitems => wellFormed_ofOption ?_) hargs
  exact fun item hitem => wellFormed_list_iff.mp hitems item (List.mem_of_head? hitem)

theorem last_wellFormed (hargs : ∀ value ∈ args, value.WellFormed) :
    Ensures (last args) Value.WellFormed := by
  refine onList_ensures _ wellFormed_null (fun items hitems => wellFormed_ofOption ?_) hargs
  exact fun item hitem => wellFormed_list_iff.mp hitems item (List.mem_of_getLast? hitem)

theorem tail_wellFormed (hargs : ∀ value ∈ args, value.WellFormed) :
    Ensures (tail args) Value.WellFormed := by
  refine onList_ensures _ wellFormed_null (fun items hitems => ?_) hargs
  exact wellFormed_list_of_subset hitems (List.drop_subset 1 items)

theorem reverse_wellFormed (hargs : ∀ value ∈ args, value.WellFormed) :
    Ensures (reverse args) Value.WellFormed := by
  refine onValue_ensures _ wellFormed_null (fun value hvalue => ?_) hargs
  split
  · exact .ok (wellFormed_list_of_subset hvalue (List.reverse_subset.mpr (List.Subset.refl _)))
  · exact .ok (wellFormed_of_empty rfl rfl)
  · exact .error _

theorem rangeBetween_wellFormed (start stop step : Value) :
    Ensures (rangeBetween start stop step) Value.WellFormed := by
  refine .bind (.any _) fun first _ => .bind (.any _) fun last _ => .bind (.any _) fun _ _ => ?_
  split
  · exact .error _
  · exact .ok (wellFormed_list_map (fun _ => wellFormed_of_empty rfl rfl) _)

theorem range_wellFormed (args : List Value) : Ensures (range args) Value.WellFormed := by
  unfold range
  split
  · split
    · exact .ok wellFormed_null
    · exact rangeBetween_wellFormed _ _ _
  · split
    · exact .ok wellFormed_null
    · exact rangeBetween_wellFormed _ _ _
  · exact .error _

theorem keys_wellFormed (args : List Value) : Ensures (keys args) Value.WellFormed := by
  refine onProperties_ensures _ wellFormed_null (fun value (_ : True) properties _ => ?_)
    fun _ _ => trivial
  exact wellFormed_list_map (fun _ => wellFormed_of_empty rfl rfl) _

theorem properties_wellFormed (hargs : ∀ value ∈ args, value.WellFormed) :
    Ensures (properties args) Value.WellFormed := by
  refine onProperties_ensures _ wellFormed_null (fun value hvalue properties hmem => ?_) hargs
  exact wellFormed_map_iff.mpr (hvalue.properties? properties hmem)

theorem nodes_wellFormed (hargs : ∀ value ∈ args, value.WellFormed) :
    Ensures (nodes args) Value.WellFormed := by
  refine onValue_ensures _ wellFormed_null (fun value hvalue => ?_) hargs
  split
  · exact .ok (wellFormed_list_iff.mpr (List.forall_mem_map.mpr hvalue.nodes))
  · exact .error _

theorem relationships_wellFormed (hargs : ∀ value ∈ args, value.WellFormed) :
    Ensures (relationships args) Value.WellFormed := by
  refine onValue_ensures _ wellFormed_null (fun value hvalue => ?_) hargs
  split
  · exact .ok (wellFormed_list_iff.mpr (List.forall_mem_map.mpr hvalue.relationships))
  · exact .error _

theorem coalesce_wellFormed (hargs : ∀ value ∈ args, value.WellFormed) :
    Ensures (coalesce args) Value.WellFormed :=
  .ok (wellFormed_ofOption fun value hvalue => hargs value (List.mem_of_find?_eq_some hvalue))

/-- A function whose values hold nothing. -/
theorem onValue_wellFormed (name : String) {run : Value → Result Value}
    (hrun : ∀ value, Ensures (run value) Value.WellFormed) (args : List Value) :
    Ensures (onValue name run args) Value.WellFormed :=
  onValue_ensures name wellFormed_null (fun value (_ : True) => hrun value) fun _ _ => trivial

theorem labels_wellFormed (args : List Value) : Ensures (labels args) Value.WellFormed := by
  refine onValue_wellFormed _ (fun value => ?_) args
  split
  · exact .ok (wellFormed_list_map (fun _ => wellFormed_of_empty rfl rfl) _)
  · exact .error _

theorem toInteger_wellFormed (args : List Value) : Ensures (toInteger args) Value.WellFormed := by
  have hinteger {number : Int64} : (Value.integer number).WellFormed :=
    wellFormed_of_empty rfl rfl
  refine onValue_wellFormed _ (fun value => ?_) args
  split
  case h_2 | h_4 => exact .ok (wellFormed_ofOption (wellFormed_of_mem_map fun _ _ => hinteger))
  case h_1 | h_3 => exact .ok hinteger
  case h_5 => exact .error _

theorem toFloat_wellFormed (args : List Value) : Ensures (toFloat args) Value.WellFormed := by
  have hfloat {number : Float} : (Value.float number).WellFormed := wellFormed_of_empty rfl rfl
  refine onValue_wellFormed _ (fun value => ?_) args
  split
  case h_3 => exact .ok (wellFormed_ofOption (wellFormed_of_mem_map fun _ _ => hfloat))
  case h_1 | h_2 => exact .ok hfloat
  case h_4 => exact .error _

theorem abs_wellFormed (args : List Value) : Ensures (abs args) Value.WellFormed := by
  refine onValue_wellFormed _ (fun value => ?_) args
  split
  · next number =>
    cases hmagnitude : Checked.magnitude number with
    | none => exact .error _
    | some magnitude => exact .ok (wellFormed_of_empty rfl rfl)
  · exact .ok (wellFormed_of_empty rfl rfl)
  · exact .error _

end Scalar

/-! ## Aggregating functions -/

namespace Aggregate

theorem column_wellFormed (name : String) (hargs : ∀ value ∈ args, value.WellFormed) :
    Ensures (column name args) fun entries => ∀ entry ∈ entries, entry.WellFormed := by
  unfold column
  split
  · next items rest =>
    refine .ok fun entry hentry => ?_
    have hitems := hargs (.list items) List.mem_cons_self
    exact wellFormed_list_iff.mp hitems entry (List.mem_filter.mp hentry).1
  · exact .error _
  · exact .error _

theorem count_wellFormed (args : List Value) : Ensures (count args) Value.WellFormed := by
  refine .bind (.any _) fun entries _ => ?_
  split
  · exact .ok (wellFormed_of_empty rfl rfl)
  · exact .error _

theorem addEntry_wellFormed (total entry : Value) :
    Ensures (addEntry total entry) Value.WellFormed := by
  unfold addEntry
  split
  all_goals split
  all_goals first | exact .error _ | exact .ok (wellFormed_of_empty rfl rfl)

theorem sum_wellFormed (args : List Value) : Ensures (sum args) Value.WellFormed := by
  refine .bind (.any _) fun entries _ => ?_
  exact .foldlM (wellFormed_of_empty rfl rfl) fun total _ entry _ => addEntry_wellFormed total entry

theorem avg_wellFormed (args : List Value) : Ensures (avg args) Value.WellFormed := by
  refine .bind (.any _) fun entries _ => .bind (.any _) fun values _ => ?_
  split
  · exact .ok wellFormed_null
  · exact .ok (wellFormed_of_empty rfl rfl)

theorem better_wellFormed (name : String) (wanted : Ordering) {best entry : Value}
    (hbest : best.WellFormed) (hentry : entry.WellFormed) :
    Ensures (better name wanted best entry) Value.WellFormed := by
  rw [better]
  split
  · split
    · exact .ok hentry
    · exact .ok hbest
  · exact .error _

theorem extreme_wellFormed (name : String) (wanted : Ordering)
    (hargs : ∀ value ∈ args, value.WellFormed) :
    Ensures (extreme name wanted args) Value.WellFormed := by
  refine .bind (column_wellFormed name hargs) fun entries hentries => ?_
  cases entries with
  | nil => exact .ok wellFormed_null
  | cons first rest =>
      rw [List.forall_mem_cons] at hentries
      refine .foldlM hentries.1 fun best hbest entry hentry => ?_
      exact better_wellFormed name wanted hbest (hentries.2 entry hentry)

theorem collect_wellFormed (hargs : ∀ value ∈ args, value.WellFormed) :
    Ensures (collect args) Value.WellFormed :=
  .map (column_wellFormed _ hargs) fun _ hentries => wellFormed_list_iff.mpr hentries

end Aggregate

/-! ## Registries -/

/-- Called with well-formed values, the function gives well-formed values. -/
def Function.KeepsWellFormed (function : Function) : Prop :=
  ∀ args : List Value, (∀ value ∈ args, value.WellFormed) →
    Ensures (function.run args) Value.WellFormed

/-- All functions of the registry give well-formed values for well-formed ones. -/
def Registry.KeepsWellFormed (registry : Registry) : Prop :=
  ∀ name function, registry.find? name = some function → function.KeepsWellFormed

theorem Registry.KeepsWellFormed.register {registry : Registry}
    (hregistry : registry.KeepsWellFormed) {function : Function}
    (hfunction : function.KeepsWellFormed) : (registry.register function).KeepsWellFormed := by
  intro name found hfound
  rw [find?_register] at hfound
  split at hfound
  · cases hfound
    exact hfunction
  · exact hregistry name found hfound

namespace Standard

theorem keepsWellFormed_of_mem {function : Function} (hfunction : function ∈ functions) :
    function.KeepsWellFormed := by
  suffices hall : ∀ standard ∈ functions, standard.KeepsWellFormed from hall function hfunction
  intro standard hstandard args hargs
  revert standard
  simp only [functions, listFunctions, entityFunctions, conversionFunctions, aggregateFunctions,
    List.forall_mem_append, List.forall_mem_cons, Function.scalar, Function.aggregate,
    Function.withArity, Ensures.ofResult_iff]
  have hnone := List.forall_mem_nil fun standard : Function =>
    Ensures (standard.run args) Value.WellFormed
  refine ⟨⟨⟨⟨?size, ?length, ?head, ?last, ?tail, ?reverse, ?range, hnone⟩,
    ?keys, ?labels, ?kind, ?id, ?properties, ?nodes, ?relationships, hnone⟩,
    ?coalesce, ?toUpper, ?toLower, ?trim, ?toText, ?toInteger, ?toFloat, ?abs, ?sqrt, hnone⟩,
    ?count, ?sum, ?avg, ?min, ?max, ?collect, hnone⟩
  case head => exact Scalar.head_wellFormed hargs
  case last => exact Scalar.last_wellFormed hargs
  case tail => exact Scalar.tail_wellFormed hargs
  case reverse => exact Scalar.reverse_wellFormed hargs
  case range => exact Scalar.range_wellFormed args
  case keys => exact Scalar.keys_wellFormed args
  case labels => exact Scalar.labels_wellFormed args
  case properties => exact Scalar.properties_wellFormed hargs
  case nodes => exact Scalar.nodes_wellFormed hargs
  case relationships => exact Scalar.relationships_wellFormed hargs
  case coalesce => exact Scalar.coalesce_wellFormed hargs
  case toUpper | toLower | trim =>
    exact Scalar.onString_ensures _ _ wellFormed_null (fun _ => wellFormed_of_empty rfl rfl) args
  case toInteger => exact Scalar.toInteger_wellFormed args
  case toFloat => exact Scalar.toFloat_wellFormed args
  case abs => exact Scalar.abs_wellFormed args
  case count => exact Aggregate.count_wellFormed args
  case sum => exact Aggregate.sum_wellFormed args
  case avg => exact Aggregate.avg_wellFormed args
  case min | max => exact Aggregate.extreme_wellFormed _ _ hargs
  case collect => exact Aggregate.collect_wellFormed hargs
  -- the others give a number or a text for each kind of value that they accept
  all_goals
    refine Scalar.onValue_wellFormed _ (fun value => ?_) args
    split
    all_goals first | exact .error _ | exact .ok (wellFormed_of_empty rfl rfl)

theorem registry_keepsWellFormed : registry.KeepsWellFormed :=
  fun _ _ hfound => keepsWellFormed_of_mem (Registry.mem_of_find?_ofFunctions hfound)

end Standard

end CypherExpr
