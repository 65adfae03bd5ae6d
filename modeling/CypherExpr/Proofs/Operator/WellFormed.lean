import CypherExpr.Engine.Eval
import CypherExpr.Proofs.Evaluation.Outcomes
import CypherExpr.Proofs.Value.WellFormed

/-!
# Operators give well-formed values

Comparisons, logic and arithmetic make values that hold nothing.  Only `+` on lists, subscripts,
slices and the access to properties and components give values that hold others, and these stand in
the operands already.
-/

namespace CypherExpr

open Value (wellFormed_null wellFormed_of_empty wellFormed_list_iff
  wellFormed_list_of_subset wellFormed_ofOption wellFormed_ofTruth wellFormed_of_mem_map)

variable {left right : Value}

/-! ## Arithmetic -/

namespace Arithmetic

theorem checked_wellFormed {α : Type} {wrap : α → Value} {result : Option α}
    (hresult : ∀ content ∈ result, (wrap content).WellFormed) (operation : String) :
    Ensures (checked operation wrap result) Value.WellFormed := by
  cases result with
  | none => exact .error _
  | some content => exact .ok (hresult content rfl)

theorem checked_integer_wellFormed (operation : String) (result : Option Int64) :
    Ensures (checked operation .integer result) Value.WellFormed :=
  checked_wellFormed (fun _ _ => wellFormed_of_empty rfl rfl) operation

theorem checked_duration_wellFormed (operation : String) (result : Option Duration) :
    Ensures (checked operation .duration result) Value.WellFormed :=
  checked_wellFormed (fun _ _ => wellFormed_of_empty rfl rfl) operation

theorem promoted_wellFormed (symbol : String) (operation : Float → Float → Float)
    (left right : Value) : Ensures (promoted symbol operation left right) Value.WellFormed := by
  unfold promoted
  split
  · exact .ok (wellFormed_of_empty rfl rfl)
  · exact .error _

/-- A moved point is a calendar point again. -/
theorem wellFormed_of_shift? {duration : Duration} {point : Value} {result : Option Value}
    (hshift : shift? duration point = some result) : ∀ value ∈ result, value.WellFormed := by
  cases point with
  | date | time | localDateTime | dateTime =>
      cases hshift
      exact wellFormed_of_mem_map fun _ _ => wellFormed_of_empty rfl rfl
  | _ => cases hshift

theorem moved_wellFormed (symbol : String) (duration : Duration) (point left right : Value) :
    Ensures (moved symbol duration point left right) Value.WellFormed := by
  unfold moved
  split
  · next result hshift => exact checked_wellFormed (wellFormed_of_shift? hshift) symbol
  · exact .error _

theorem add_wellFormed (hleft : left.WellFormed) (hright : right.WellFormed) :
    Ensures (add left right) Value.WellFormed := by
  unfold add
  split
  case h_1 | h_2 => exact .ok wellFormed_null
  case h_3 => exact checked_integer_wellFormed _ _
  case h_4 | h_8 => exact .ok (wellFormed_of_empty rfl rfl)
  case h_5 =>
    exact .ok (wellFormed_list_iff.mpr (List.forall_mem_append.mpr
      ⟨wellFormed_list_iff.mp hleft, wellFormed_list_iff.mp hright⟩))
  case h_6 =>
    exact .ok (wellFormed_list_iff.mpr (List.forall_mem_append.mpr
      ⟨wellFormed_list_iff.mp hleft, List.forall_mem_singleton.mpr hright⟩))
  case h_7 =>
    exact .ok (wellFormed_list_iff.mpr (List.forall_mem_cons.mpr
      ⟨hleft, wellFormed_list_iff.mp hright⟩))
  case h_9 => exact checked_duration_wellFormed _ _
  case h_10 | h_11 => exact moved_wellFormed _ _ _ _ _
  case h_12 => exact promoted_wellFormed _ _ _ _

theorem subtract_wellFormed (left right : Value) :
    Ensures (subtract left right) Value.WellFormed := by
  unfold subtract
  split
  case h_1 | h_2 => exact .ok wellFormed_null
  case h_3 => exact checked_integer_wellFormed _ _
  case h_4 => exact checked_duration_wellFormed _ _
  case h_5 =>
    split
    · exact moved_wellFormed _ _ _ _ _
    · split <;> exact .error _
  case h_6 => exact promoted_wellFormed _ _ _ _

theorem multiply_wellFormed (left right : Value) :
    Ensures (multiply left right) Value.WellFormed := by
  unfold multiply
  split
  case h_1 | h_2 => exact .ok wellFormed_null
  case h_3 => exact checked_integer_wellFormed _ _
  case h_4 | h_5 => exact checked_duration_wellFormed _ _
  case h_6 => exact promoted_wellFormed _ _ _ _

theorem divide_wellFormed (left right : Value) : Ensures (divide left right) Value.WellFormed := by
  unfold divide
  split
  case h_1 | h_2 => exact .ok wellFormed_null
  case h_3 =>
    split
    · exact .error _
    · exact checked_integer_wellFormed _ _
  case h_4 =>
    split
    · exact .error _
    · exact checked_duration_wellFormed _ _
  case h_5 => exact promoted_wellFormed _ _ _ _

theorem modulo_wellFormed (left right : Value) : Ensures (modulo left right) Value.WellFormed := by
  unfold modulo
  split
  case h_1 | h_2 => exact .ok wellFormed_null
  case h_3 =>
    split
    · exact .error _
    · exact checked_integer_wellFormed _ _
  case h_4 => exact .error _

theorem power_wellFormed (left right : Value) : Ensures (power left right) Value.WellFormed := by
  unfold power
  split
  case h_1 | h_2 => exact .ok wellFormed_null
  case h_3 => exact promoted_wellFormed _ _ _ _

theorem negate_wellFormed (operand : Value) : Ensures (negate operand) Value.WellFormed := by
  unfold negate
  split
  · exact .ok wellFormed_null
  · exact checked_integer_wellFormed _ _
  · exact .ok (wellFormed_of_empty rfl rfl)
  · exact checked_duration_wellFormed _ _
  · exact .error _

end Arithmetic

/-! ## Logic and strings -/

namespace Logic

theorem lift_wellFormed (connective : Option Bool → Option Bool → Option Bool)
    (left right : Value) : Ensures (lift connective left right) Value.WellFormed := by
  unfold lift
  split
  · exact .error _
  · split
    · exact .error _
    · exact .ok (wellFormed_ofTruth _)

theorem negation_wellFormed (operand : Value) : Ensures (negation operand) Value.WellFormed := by
  unfold negation
  split
  · exact .error _
  · exact .ok (wellFormed_ofTruth _)

end Logic

theorem StringPredicate.lift_wellFormed (test : String → String → Result Bool)
    (left right : Value) : Ensures (lift test left right) Value.WellFormed := by
  unfold lift
  split
  · exact .ok (wellFormed_of_empty rfl rfl)
  · exact .ok wellFormed_null
  · exact .map (.any _) fun _ _ => wellFormed_of_empty rfl rfl
  · exact .error _
  · exact .error _

/-! ## Containers -/

namespace Container

theorem isIn_wellFormed (item source : Value) : Ensures (isIn item source) Value.WellFormed := by
  unfold isIn
  split
  · exact .ok wellFormed_null
  · exact .ok (wellFormed_ofTruth _)
  · exact .error _

theorem mem_of_at? {items : List Value} {position : Int} {item : Value}
    (hitem : at? items position = some item) : item ∈ items := by
  unfold at? at hitem
  simp only at hitem
  split at hitem
  · cases hitem
  · exact List.mem_of_getElem? hitem

theorem subscript_wellFormed {container : Value} (hcontainer : container.WellFormed)
    (key : Value) : Ensures (subscript container key) Value.WellFormed := by
  unfold subscript
  split
  · exact .ok wellFormed_null
  · exact .ok wellFormed_null
  · refine .ok (wellFormed_ofOption fun item hitem => ?_)
    exact wellFormed_list_iff.mp hcontainer item (mem_of_at? hitem)
  · exact .error _
  · split
    · next properties name hproperties _ _ =>
      exact .ok (wellFormed_ofOption ((hcontainer.properties? properties hproperties).get? name))
    · exact .error _
    · exact .error _

theorem slice_wellFormed {source : Value} (hsource : source.WellFormed)
    (lower upper : Option Value) : Ensures (slice source lower upper) Value.WellFormed := by
  unfold slice
  split
  · exact .ok wellFormed_null
  · split
    · exact .error _
    · split
      · exact .error _
      · split
        · refine .ok (wellFormed_list_of_subset hsource ?_)
          exact List.Subset.trans (List.drop_subset _ _) (List.take_subset _ _)
        · exact .ok wellFormed_null
  · exact .error _

end Container

/-! ## Operators of the evaluator -/

namespace Eval

theorem binary_wellFormed (op : BinaryOp) (hleft : left.WellFormed) (hright : right.WellFormed) :
    Ensures (binary op left right) Value.WellFormed := by
  cases op with
  | and | or | xor => exact Logic.lift_wellFormed _ left right
  | equal | notEqual | less | lessOrEqual | greater | greaterOrEqual =>
      exact .ok (wellFormed_ofTruth _)
  | startsWith | endsWith | contains | regexMatch =>
      exact StringPredicate.lift_wellFormed _ left right
  | isIn => exact Container.isIn_wellFormed left right
  | add => exact Arithmetic.add_wellFormed hleft hright
  | subtract => exact Arithmetic.subtract_wellFormed left right
  | multiply => exact Arithmetic.multiply_wellFormed left right
  | divide => exact Arithmetic.divide_wellFormed left right
  | modulo => exact Arithmetic.modulo_wellFormed left right
  | power => exact Arithmetic.power_wellFormed left right

theorem unary_wellFormed (op : UnaryOp) (operand : Value) :
    Ensures (unary op operand) Value.WellFormed := by
  cases op with
  | not => exact Logic.negation_wellFormed operand
  | negate => exact Arithmetic.negate_wellFormed operand
  | isNull | isNotNull => exact .ok (wellFormed_of_empty rfl rfl)

theorem literal_wellFormed (value : Literal) : (literal value).WellFormed := by
  cases value <;> exact wellFormed_of_empty rfl rfl

theorem property_wellFormed {subject : Value} (hsubject : subject.WellFormed) (key : String) :
    Ensures (property key subject) Value.WellFormed := by
  unfold property
  split
  · exact .ok wellFormed_null
  · split
    · exact .ok (wellFormed_ofOption (hsubject.component? key))
    · exact .error _

end Eval

end CypherExpr
