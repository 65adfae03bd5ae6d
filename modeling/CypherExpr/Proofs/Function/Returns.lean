import CypherExpr.Proofs.Evaluation.Functions
import CypherExpr.Proofs.Typing.Soundness

/-!
# Declared return types

The standard functions are registered with return types that inference relies on.  Each is compared
here with what the implementation gives: null, or a value of a type that the declared one accepts.
A function looks at the kind of its argument and gives values of one kind for each, so most return
types are read off.  Where a list is built, its type is the join of the types of the elements, all
of which stand below the declared element type; where a column is folded, every step gives a value
of the declared type.
-/

namespace CypherExpr

namespace ValueType

/-- A list is of a list type if the types of its elements stand below the element type. -/
theorem admits_list {element : ValueType} {items : List Value}
    (hitems : ∀ item ∈ items, item.type.Below element) : (list element).Admits (.list items) := by
  have htypes : ∀ type ∈ items.map Value.type, type.Below element := by
    simpa only [List.forall_mem_map] using hitems
  have hjoin : (joinAll (items.map Value.type)).Below element := by
    rw [joinAll_eq_foldl]
    exact (foldl_join_below (.unknown element) htypes).2.2
  rw [← Value.types_eq_map] at hjoin
  exact .inr (Below.list hjoin).accepts

theorem admits_list_map {α : Type} {element : ValueType} (wrap : α → Value)
    (hwrap : ∀ content, (wrap content).type = element) (contents : List α) :
    (list element).Admits (.list (contents.map wrap)) := by
  refine admits_list (List.forall_mem_map.mpr fun content _ => ?_)
  rw [hwrap]
  exact .refl element

theorem admits_ofOption_map {α : Type} {type : ValueType} (wrap : α → Value)
    (hwrap : ∀ content, (wrap content).type = type) (content : Option α) :
    type.Admits (.ofOption (content.map wrap)) := by
  cases content with
  | none => exact .inl rfl
  | some content => exact .of_type (.inr (hwrap content))

end ValueType

/-! ## Scalar functions -/

namespace Scalar

variable {type : ValueType}

theorem onValue_admits (name : String) {run : Value → Result Value}
    (hrun : ∀ value, Ensures (run value) type.Admits) (args : List Value) :
    Ensures (onValue name run args) type.Admits :=
  onValue_ensures name (.inl rfl) (fun value (_ : True) => hrun value) fun _ _ => trivial

theorem rangeBetween_admits (start stop step : Value) :
    Ensures (rangeBetween start stop step) (ValueType.list .integer).Admits := by
  refine .bind (.any _) fun first _ => .bind (.any _) fun last _ => .bind (.any _) fun _ _ => ?_
  split
  · exact .error _
  · exact .ok (ValueType.admits_list_map .integer (fun _ => rfl) _)

theorem range_admits (args : List Value) :
    Ensures (range args) (ValueType.list .integer).Admits := by
  unfold range
  split
  · split
    · exact .ok (.inl rfl)
    · exact rangeBetween_admits _ _ _
  · split
    · exact .ok (.inl rfl)
    · exact rangeBetween_admits _ _ _
  · exact .error _

theorem toInteger_admits (args : List Value) :
    Ensures (toInteger args) ValueType.integer.Admits := by
  refine onValue_admits _ (fun value => ?_) args
  split
  · exact .ok (.inr rfl)
  · exact .ok (ValueType.admits_ofOption_map .integer (fun _ => rfl) _)
  · exact .ok (.inr rfl)
  · exact .ok (ValueType.admits_ofOption_map .integer (fun _ => rfl) _)
  · exact .error _

theorem toFloat_admits (args : List Value) : Ensures (toFloat args) ValueType.float.Admits := by
  refine onValue_admits _ (fun value => ?_) args
  split
  · exact .ok (.inr rfl)
  · exact .ok (.inr rfl)
  · exact .ok (ValueType.admits_ofOption_map .float (fun _ => rfl) _)
  · exact .error _

theorem ofChecked_admits (operation : String) (result : Option Int64) :
    Ensures (ofChecked operation result) ValueType.number.Admits := by
  cases result with
  | none => exact .error _
  | some value => exact .ok (.inr rfl)

theorem abs_admits (args : List Value) : Ensures (abs args) ValueType.number.Admits := by
  refine onValue_admits _ (fun value => ?_) args
  split
  · exact ofChecked_admits _ _
  · exact .ok (.inr rfl)
  · exact .error _

end Scalar

/-! ## Aggregating functions -/

namespace Aggregate

theorem count_admits (args : List Value) : Ensures (count args) ValueType.integer.Admits := by
  refine .bind (.any _) fun entries _ => ?_
  split
  · exact .ok (.inr rfl)
  · exact .error _

theorem addEntry_admits (total entry : Value) :
    Ensures (addEntry total entry) ValueType.number.Admits := by
  unfold addEntry
  split
  all_goals split
  all_goals first | exact .error _ | exact .ok (.inr rfl)

theorem sum_admits (args : List Value) : Ensures (sum args) ValueType.number.Admits := by
  refine .bind (.any _) fun entries _ => ?_
  exact .foldlM (.inr rfl) fun total _ entry _ => addEntry_admits total entry

theorem avg_admits (args : List Value) : Ensures (avg args) ValueType.float.Admits := by
  refine .bind (.any _) fun entries _ => .bind (.any _) fun values _ => ?_
  split
  · exact .ok (.inl rfl)
  · exact .ok (.inr rfl)

theorem collect_admits (args : List Value) :
    Ensures (collect args) (ValueType.list .any).Admits :=
  .map (.any _) fun _ _ => .inr rfl

end Aggregate

/-- Every value that the function gives is null or of a type that its return type accepts. -/
def Function.HonoursReturns (function : Function) : Prop :=
  ∀ args value, function.run args = .ok value → function.returns.Admits value

namespace Standard

theorem honoursReturns_of_mem {function : Function} (hfunction : function ∈ functions) :
    function.HonoursReturns := by
  suffices hall : ∀ standard ∈ functions, standard.HonoursReturns from hall function hfunction
  simp only [functions, listFunctions, entityFunctions, conversionFunctions, aggregateFunctions,
    List.forall_mem_append, List.forall_mem_cons, Function.HonoursReturns, Function.scalar,
    Function.aggregate, Function.withArity, Outcome.ofResult_eq_ok_iff]
  have hnone := List.forall_mem_nil fun standard : Function => ∀ args value,
    standard.run args = .ok value → standard.returns.Admits value
  refine ⟨⟨⟨⟨?size, ?length, ?head, ?last, ?tail, ?reverse, ?range, hnone⟩,
    ?keys, ?labels, ?kind, ?id, ?properties, ?nodes, ?relationships, hnone⟩,
    ?coalesce, ?toUpper, ?toLower, ?trim, ?toText, ?toInteger, ?toFloat, ?abs, ?sqrt, hnone⟩,
    ?count, ?sum, ?avg, ?min, ?max, ?collect, hnone⟩
  case head | last | reverse | coalesce | min | max => exact fun args value _ => .inr rfl
  case tail =>
    exact fun args =>
      Scalar.onList_ensures _ (.inl rfl) (fun items (_ : True) => .inr rfl) fun _ _ => trivial
  case range => exact Scalar.range_admits
  case keys =>
    refine fun args => Scalar.onProperties_ensures _ (.inl rfl) (fun value (_ : True) => ?_)
      fun _ _ => trivial
    exact fun properties _ => ValueType.admits_list_map .string (fun _ => rfl) properties.keys
  case properties =>
    refine fun args => Scalar.onProperties_ensures _ (.inl rfl) (fun value (_ : True) => ?_)
      fun _ _ => trivial
    exact fun properties _ => .inr rfl
  case toUpper | toLower | trim =>
    exact Scalar.onString_ensures _ _ (.inl rfl) fun text => .inr rfl
  case labels | nodes | relationships =>
    refine Scalar.onValue_admits _ fun value => ?_
    split
    · refine .ok (ValueType.admits_list_map _ ?_ _)
      exact fun _ => rfl
    · exact .error _
  case toInteger => exact Scalar.toInteger_admits
  case toFloat => exact Scalar.toFloat_admits
  case abs => exact Scalar.abs_admits
  case count => exact Aggregate.count_admits
  case sum => exact Aggregate.sum_admits
  case avg => exact Aggregate.avg_admits
  case collect => exact Aggregate.collect_admits
  -- the others give one kind of value for each constructor that they accept
  all_goals
    refine Scalar.onValue_admits _ fun value => ?_
    split
    all_goals first | exact .error _ | exact .ok (.inr rfl)

/-- Declared return types are honoured: whatever arguments a standard function is called with, a
value that it gives is null or of a type that the declared one accepts.  The registry of the
standard functions knows no others. -/
theorem returns_accept_results :
    (∀ function ∈ functions, ∀ args value, function.run args = .ok value →
      value = .null ∨ function.returns.accepts value.type = true) ∧
    ∀ name function, registry.find? name = some function → function ∈ functions :=
  ⟨fun _ hfunction => honoursReturns_of_mem hfunction,
    fun _ _ hfound => Registry.mem_of_find?_ofFunctions hfound⟩

/-- The keys of a map make a list of strings, as declared, and the sum of 1, null and 2 is an
integer, which is a number, as declared. -/
theorem returns_accept_keysAndSum :
    (∃ function ∈ functions, function.name = "keys" ∧ function.returns = .list .string ∧
      function.run [.map [("a", .integer 1), ("b", .null)]] =
        .ok (.list [.string "a", .string "b"]) ∧
      (Value.list [.string "a", .string "b"] = .null ∨
        function.returns.accepts (.list .string) = true)) ∧
    ∃ function ∈ functions, function.name = "sum" ∧ function.returns = .number ∧
      function.run [.list [.integer 1, .null, .integer 2]] = .ok (.integer 3) ∧
      (Value.integer 3 = .null ∨ function.returns.accepts .integer = true) := by
  obtain ⟨haccept, hknown⟩ := returns_accept_results
  refine ⟨⟨.scalar "keys" (.list .string) Scalar.keys, hknown "keys" _ rfl, rfl, rfl, ?keys, ?_⟩,
    ⟨.aggregate "sum" .number Aggregate.sum, hknown "sum" _ rfl, rfl, rfl, ?sum, ?_⟩⟩
  case keys | sum => rfl
  · exact haccept _ (hknown "keys" _ rfl) [.map [("a", .integer 1), ("b", .null)]] _ rfl
  · exact haccept _ (hknown "sum" _ rfl) [.list [.integer 1, .null, .integer 2]] (.integer 3) rfl

end Standard

end CypherExpr
