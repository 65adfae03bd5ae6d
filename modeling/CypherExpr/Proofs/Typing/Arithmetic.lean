import CypherExpr.Proofs.Evaluation.Outcomes
import CypherExpr.Proofs.Typing.Join
import CypherExpr.Engine.Eval
import CypherExpr.Typing.Infer

/-!
# Static types of arithmetic

Applied to the types of two values, inference names the very type of the result of an arithmetic
operator, with one exception: a sum with a list on the right.  There a string on the left makes the
sum a string, where inference expects a list; and the elements are joined with those of the left
operand one by one, where inference joins the two joins, which may have forgotten different clashes.
-/

namespace CypherExpr

namespace Value

theorem type_ne_any {value : Value} (hvalue : value ≠ .null) : value.type ≠ .any := by
  cases value with
  | null => exact absurd rfl hvalue
  | _ => nofun

/-- The types that an operand of a concatenation brings along: those of its elements, or its own. -/
def itemTypes : Value → List ValueType
  | .list items => items.map type
  | other => [other.type]

theorem type_list (items : List Value) :
    (Value.list items).type = .list (.joinAll (items.map type)) := by
  rw [type, types_eq_map]

end Value

namespace Arithmetic

open Typing ValueType

/-! ## Types of operations -/

theorem arithmeticType_numeric {op : BinaryOp} {left right : ValueType}
    (hop : op = .add ∨ op = .subtract ∨ op = .multiply ∨ op = .divide)
    (hleft : left.isNumeric = true) (hright : right.isNumeric = true) :
    arithmeticType op (some left) (some right) = numericType left right := by
  rcases hop with rfl | rfl | rfl | rfl
  all_goals cases left <;> cases hleft <;> cases right <;> cases hright <;> rfl

theorem arithmeticType_append {element : ValueType} {right : Value} (hright : right ≠ .null)
    (hlist : ∀ items, right ≠ .list items) :
    arithmeticType .add (some (.list element)) (some right.type) =
      some (.list (element.join right.type)) := by
  cases right with
  | null => exact absurd rfl hright
  | list items => exact absurd rfl (hlist items)
  | _ => rfl

theorem arithmeticType_list_right {left : Value} (hleft : left ≠ .null) (element : ValueType) :
    arithmeticType .add (some left.type) (some (.list element)) =
      some (.list ((joinAll left.itemTypes).join element)) := by
  cases left with
  | null => exact absurd rfl hleft
  | list items =>
      rw [Value.type_list]
      rfl
  | _ => exact congrArg (some ∘ ValueType.list) (join_comm element _)

/-! ## Results of operations -/

theorem checked_eq_ok {α : Type} {operation : String} {wrap : α → Value} {result : Option α}
    {value : Value} (hchecked : checked operation wrap result = .ok value) :
    ∃ inner, result = some inner ∧ value = wrap inner := by
  cases result with
  | none => cases hchecked
  | some inner =>
      cases hchecked
      exact ⟨inner, rfl, rfl⟩

/-- Operands that are promoted are numbers, not both integers, and give a float. -/
theorem promoted_type {op : BinaryOp}
    (hop : op = .add ∨ op = .subtract ∨ op = .multiply ∨ op = .divide)
    {symbol : String} {operation : Float → Float → Float} {left right value : Value}
    (hpromoted : promoted symbol operation left right = .ok value)
    (hmixed : ∀ l r, left = .integer l → right = .integer r → False) :
    arithmeticType op (some left.type) (some right.type) = some value.type := by
  unfold promoted at hpromoted
  split at hpromoted
  · next l r hleft hright =>
    cases hpromoted
    cases left with
    | integer i =>
        cases right with
        | integer j => exact (hmixed i j rfl rfl).elim
        | float j => exact arithmeticType_numeric hop rfl rfl
        | _ => cases hright
    | float i =>
        cases right with
        | integer j => exact arithmeticType_numeric hop rfl rfl
        | float j => exact arithmeticType_numeric hop rfl rfl
        | _ => cases hright
    | _ => cases hleft
  · cases hpromoted

/-- Moving a calendar point keeps its kind. -/
theorem moved_type {symbol : String} {duration : Duration} {point left right value : Value}
    (hmoved : moved symbol duration point left right = .ok value) :
    point.type.isPoint = true ∧ value.type = point.type := by
  unfold moved at hmoved
  split at hmoved
  · next result hshift =>
    obtain ⟨inner, hresult, rfl⟩ := checked_eq_ok hmoved
    subst hresult
    cases point with
    | date | time | localDateTime | dateTime =>
        obtain ⟨moment, _, rfl⟩ := Option.map_eq_some_iff.mp (Option.some.inj hshift)
        exact ⟨rfl, rfl⟩
    | _ => cases hshift
  · cases hmoved

/-! ## Operators

Each operator is split as it is defined; its last case promotes numbers. -/

theorem add_type {left right value : Value} (hadd : add left right = .ok value)
    (hleft : left ≠ .null) (hright : right ≠ .null) (hlist : ∀ items, right ≠ .list items) :
    arithmeticType .add (some left.type) (some right.type) = some value.type := by
  unfold add at hadd
  split at hadd
  · exact absurd rfl hleft
  · exact absurd rfl hright
  · obtain ⟨sum, _, rfl⟩ := checked_eq_ok hadd
    rfl
  · cases hadd
    cases right with
    | null => exact absurd rfl hright
    | list items => exact absurd rfl (hlist items)
    | _ => rfl
  · next items => exact absurd rfl (hlist items)
  · cases hadd
    rw [Value.type_list, Value.type_list, arithmeticType_append hright hlist, List.map_append,
      joinAll_append]
    rfl
  · next items _ _ _ => exact absurd rfl (hlist items)
  · next hnolist =>
    cases hadd
    cases left with
    | null => exact absurd rfl hleft
    | list items => exact absurd rfl (hnolist items)
    | _ => rfl
  · obtain ⟨sum, _, rfl⟩ := checked_eq_ok hadd
    rfl
  · obtain ⟨hpoint, htype⟩ := moved_type hadd
    rw [htype]
    cases left <;> first | rfl | cases hpoint
  · obtain ⟨hpoint, htype⟩ := moved_type hadd
    rw [htype]
    cases right <;> first | rfl | cases hpoint
  · next hmixed _ _ => exact promoted_type (.inl rfl) hadd hmixed

theorem subtract_type {left right value : Value} (hsubtract : subtract left right = .ok value)
    (hleft : left ≠ .null) (hright : right ≠ .null) :
    arithmeticType .subtract (some left.type) (some right.type) = some value.type := by
  unfold subtract at hsubtract
  split at hsubtract
  · exact absurd rfl hleft
  · exact absurd rfl hright
  · obtain ⟨difference, _, rfl⟩ := checked_eq_ok hsubtract
    rfl
  · obtain ⟨difference, _, rfl⟩ := checked_eq_ok hsubtract
    rfl
  · split at hsubtract
    · obtain ⟨hpoint, htype⟩ := moved_type hsubtract
      rw [htype]
      cases left <;> first | rfl | cases hpoint
    · split at hsubtract <;> cases hsubtract
  · next hmixed _ => exact promoted_type (.inr (.inl rfl)) hsubtract hmixed

theorem multiply_type {left right value : Value} (hmultiply : multiply left right = .ok value)
    (hleft : left ≠ .null) (hright : right ≠ .null) :
    arithmeticType .multiply (some left.type) (some right.type) = some value.type := by
  unfold multiply at hmultiply
  split at hmultiply
  · exact absurd rfl hleft
  · exact absurd rfl hright
  · obtain ⟨product, _, rfl⟩ := checked_eq_ok hmultiply
    rfl
  · obtain ⟨product, _, rfl⟩ := checked_eq_ok hmultiply
    rfl
  · obtain ⟨product, _, rfl⟩ := checked_eq_ok hmultiply
    rfl
  · next hmixed _ _ => exact promoted_type (.inr (.inr (.inl rfl))) hmultiply hmixed

theorem divide_type {left right value : Value} (hdivide : divide left right = .ok value)
    (hleft : left ≠ .null) (hright : right ≠ .null) :
    arithmeticType .divide (some left.type) (some right.type) = some value.type := by
  unfold divide at hdivide
  split at hdivide
  · exact absurd rfl hleft
  · exact absurd rfl hright
  · split at hdivide
    · cases hdivide
    · obtain ⟨quotient, _, rfl⟩ := checked_eq_ok hdivide
      rfl
  · split at hdivide
    · cases hdivide
    · obtain ⟨quotient, _, rfl⟩ := checked_eq_ok hdivide
      rfl
  · next hmixed _ => exact promoted_type (.inr (.inr (.inr rfl))) hdivide hmixed

theorem modulo_type {left right value : Value} (hmodulo : modulo left right = .ok value)
    (hleft : left ≠ .null) (hright : right ≠ .null) :
    arithmeticType .modulo (some left.type) (some right.type) = some value.type := by
  unfold modulo at hmodulo
  split at hmodulo
  · exact absurd rfl hleft
  · exact absurd rfl hright
  · split at hmodulo
    · cases hmodulo
    · obtain ⟨remainder, _, rfl⟩ := checked_eq_ok hmodulo
      rfl
  · cases hmodulo

theorem power_type {left right value : Value} (hpower : power left right = .ok value)
    (hleft : left ≠ .null) (hright : right ≠ .null) : value.type = .float := by
  unfold power at hpower
  split at hpower
  · exact absurd rfl hleft
  · exact absurd rfl hright
  · unfold promoted at hpower
    split at hpower
    · cases hpower
      rfl
    · cases hpower

/-- An arithmetic operator gives null as soon as one of its operands is null. -/
theorem binary_null {op : BinaryOp} (hop : op.isArithmetic = true) {left right : Value}
    (hnull : left = .null ∨ right = .null) : Eval.binary op left right = .ok .null := by
  rcases hnull with rfl | rfl
  · cases op <;> cases hop <;> rfl
  · cases op <;> cases hop <;> cases left <;> rfl

/-- Applied to the types of two values, inference names the type of the result, unless a list stands
on the right of a sum. -/
theorem binary_type {op : BinaryOp} (hop : op.isArithmetic = true) {left right value : Value}
    (hbinary : Eval.binary op left right = .ok value) (hleft : left ≠ .null)
    (hright : right ≠ .null) (hlist : op = .add → ∀ items, right ≠ .list items) :
    arithmeticType op (some left.type) (some right.type) = some value.type := by
  cases op with
  | add => exact add_type hbinary hleft hright (hlist rfl)
  | subtract => exact subtract_type hbinary hleft hright
  | multiply => exact multiply_type hbinary hleft hright
  | divide => exact divide_type hbinary hleft hright
  | modulo => exact modulo_type hbinary hleft hright
  | power => exact congrArg some (power_type hbinary hleft hright).symm
  | _ => cases hop

/-! ## Sums with a list on the right -/

/-- Inference foresees the type of a sum: if a list stands on the right, the left operand is no
string, and the join of the two joins accepts the join of all elements in their order. -/
def SumForeseen (left right : Value) : Prop :=
  ∀ items, right = .list items →
    (∀ text, left ≠ .string text) ∧
    ((joinAll left.itemTypes).join (joinAll (items.map Value.type))).accepts
      (joinAll (left.itemTypes ++ items.map Value.type)) = true

/-- The elements of the right list may be anything that has a common bound. -/
theorem sumForeseen_of_bounded {left right : Value} (hstring : ∀ text, left ≠ .string text)
    (hbounded : ∀ items, right = .list items →
      ∃ bound, ∀ item ∈ items, item.type.Below bound) : SumForeseen left right := by
  intro items hright
  obtain ⟨bound, hbelow⟩ := hbounded items hright
  refine ⟨hstring, ?_⟩
  rw [joinAll_append]
  exact join_accepts_foldl (below_joinAll (List.forall_mem_map.mpr hbelow))

theorem add_list_type {left : Value} (hleft : left ≠ .null)
    (hstring : ∀ text, left ≠ .string text) (items : List Value) :
    ∃ value, add left (.list items) = .ok value ∧
      value.type = .list (joinAll (left.itemTypes ++ items.map Value.type)) := by
  cases left with
  | null => exact absurd rfl hleft
  | string text => exact absurd rfl (hstring text)
  | list lefts =>
      refine ⟨.list (lefts ++ items), rfl, ?_⟩
      rw [Value.type_list, List.map_append]
      rfl
  | _ => exact ⟨.list (_ :: items), rfl, Value.type_list _⟩

/-- Inference accepts the result of a sum with a list on the right exactly where it foresees it. -/
theorem add_list_accepts_iff {left : Value} (hleft : left ≠ .null) (items : List Value) :
    (∀ type value, arithmeticType .add (some left.type) (some (Value.list items).type) = some type →
      add left (.list items) = .ok value → type.accepts value.type = true) ↔
    SumForeseen left (.list items) := by
  rw [Value.type_list, arithmeticType_list_right hleft]
  constructor
  · rintro haccepts _ ⟨rfl⟩
    have hstring : ∀ text, left ≠ .string text := by
      rintro text rfl
      cases haccepts _ _ rfl rfl
    obtain ⟨value, hadd, htype⟩ := add_list_type hleft hstring items
    have hvalue := haccepts _ _ rfl hadd
    rw [htype] at hvalue
    exact ⟨hstring, hvalue⟩
  · rintro hforeseen _ value ⟨rfl⟩ hadd
    obtain ⟨hstring, haccepts⟩ := hforeseen items rfl
    obtain ⟨sum, hsum, htype⟩ := add_list_type hleft hstring items
    cases hsum.symm.trans hadd
    rw [htype]
    exact haccepts

end Arithmetic

/-! ## Expressions -/

namespace Engine

open Arithmetic

/-- The operation `a op b` on two variables. -/
def operation (op : BinaryOp) : Expr := .binary op (.variable "a") (.variable "b")

theorem inferType_operation (engine : Engine) (types : TypeContext) {op : BinaryOp}
    (hop : op.isArithmetic = true) (left right : ValueType) :
    engine.inferType (operation op) ((types.declare "a" left).declare "b" right) =
      Typing.arithmeticType op (some left) (some right) := by
  have hpredicate : op.isPredicate = false := by rw [BinaryOp.isPredicate, hop]; rfl
  rw [inferType, operation, Typing.infer, hpredicate]
  rfl

theorem evaluate_operation_eq_ok_iff (engine : Engine) (context : Context) (op : BinaryOp)
    {left right value : Value} :
    engine.evaluate (operation op) ((context.bind "a" left).bind "b" right) = .ok value ↔
      engine.options.maxDepth ≠ 0 ∧ Eval.binary op left right = .ok value := by
  rw [evaluate]
  cases engine.options.maxDepth with
  | zero => exact ⟨nofun, fun hdepth => absurd rfl hdepth.1⟩
  | succ depth =>
      have hlevel : engine.eval (depth + 1 + 1) (operation op)
          ((context.bind "a" left).bind "b" right) =
            (Outcome.ofResult (Eval.binary op left right)).leaving (operation op) := rfl
      rw [hlevel, Outcome.leaving_eq_ok_iff]
      cases Eval.binary op left right <;> simp [Outcome.ofResult]

/-- With operands declared as what they are, the static type of an arithmetic operation accepts its
value exactly where a sum with a list on the right is foreseen, which it is where the left operand
is no string and the elements of the list have a common bound. -/
theorem evaluate_operation_accepted_iff (engine : Engine) (types : TypeContext) (context : Context)
    (op : BinaryOp) (hop : op.isArithmetic = true) (left right : Value) (hleft : left ≠ .null)
    (hright : right ≠ .null) :
    ((∀ type value,
        engine.inferType (operation op)
          ((types.declare "a" left.type).declare "b" right.type) = some type →
        engine.evaluate (operation op) ((context.bind "a" left).bind "b" right) = .ok value →
        type.accepts value.type = true) ↔
      engine.options.maxDepth = 0 ∨ (op = .add → SumForeseen left right)) ∧
    ((∀ text, left ≠ .string text) →
      (∀ items, right = .list items → ∃ bound, ∀ item ∈ items, item.type.Below bound) →
      SumForeseen left right) := by
  refine ⟨?_, sumForeseen_of_bounded⟩
  simp only [inferType_operation engine types hop, evaluate_operation_eq_ok_iff]
  by_cases hdepth : engine.options.maxDepth = 0
  · simp [hdepth]
  · by_cases hlist : op = .add ∧ ∃ items, right = .list items
    · obtain ⟨rfl, items, rfl⟩ := hlist
      simpa [hdepth, Eval.binary] using add_list_accepts_iff hleft items
    · have hforeseen : op = .add → SumForeseen left right :=
        fun hadd items hitems => (hlist ⟨hadd, items, hitems⟩).elim
      refine iff_of_true ?_ (.inr hforeseen)
      rintro type value hinfer ⟨_, hvalue⟩
      have htype := binary_type hop hvalue hleft hright
        fun hadd items hitems => hlist ⟨hadd, items, hitems⟩
      cases hinfer.symm.trans htype
      exact ValueType.accepts_self _

/-- The sum `[1] + ['x', 'y']` is inferred to be a list of anything, which it is. -/
theorem evaluate_operation_integers_strings :
    BinaryOp.add.isArithmetic = true ∧ Value.list [.integer 1] ≠ .null ∧
    Value.list [.string "x", .string "y"] ≠ .null ∧
    ∃ type value,
      standard.inferType (operation .add)
          ((TypeContext.empty.declare "a" (.list .integer)).declare "b" (.list .string)) =
        some type ∧
      standard.evaluate (operation .add)
          ((Context.empty.bind "a" (.list [.integer 1])).bind "b"
            (.list [.string "x", .string "y"])) = .ok value ∧
      type.accepts value.type = true := by
  have hleft : Value.list [.integer 1] ≠ .null := by simp
  have hright : Value.list [.string "x", .string "y"] ≠ .null := by simp
  have hstring : ∀ text, Value.list [.integer 1] ≠ .string text := by simp
  have hbounded : ∀ items, Value.list [.string "x", .string "y"] = .list items →
      ∃ bound, ∀ item ∈ items, item.type.Below bound := by
    rintro _ ⟨rfl⟩
    exact ⟨.string, by simp [Value.type, ValueType.Below.refl]⟩
  have hiff := standard.evaluate_operation_accepted_iff .empty .empty .add rfl
    (.list [.integer 1]) (.list [.string "x", .string "y"]) hleft hright
  exact ⟨rfl, hleft, hright, _, _, rfl, rfl,
    hiff.1.mpr (.inr fun _ => hiff.2 hstring hbounded) _ _ rfl rfl⟩

/-- The sum `'x' + [1]` is a string, and inferred to be a list.  The sum `[1] + ['x', true]` is a
list of Booleans by the join of its elements, and inferred to be a list of integers. -/
theorem evaluate_operation_string_list :
    (standard.inferType (operation .add)
        ((TypeContext.empty.declare "a" .string).declare "b" (.list .integer)) =
      some (.list .any) ∧
    standard.evaluate (operation .add)
        ((Context.empty.bind "a" (.string "x")).bind "b" (.list [.integer 1])) =
      .ok (.string "x[1]") ∧
    (ValueType.list .any).accepts (Value.string "x[1]").type = false) ∧
    standard.inferType (operation .add)
        ((TypeContext.empty.declare "a" (.list .integer)).declare "b"
          (Value.list [.string "x", .boolean true]).type) =
      some (.list .integer) ∧
    standard.evaluate (operation .add)
        ((Context.empty.bind "a" (.list [.integer 1])).bind "b"
          (.list [.string "x", .boolean true])) =
      .ok (.list [.integer 1, .string "x", .boolean true]) ∧
    (ValueType.list .integer).accepts
      (Value.list [.integer 1, .string "x", .boolean true]).type = false := by
  exact ⟨⟨rfl, rfl, rfl⟩, rfl, rfl, rfl⟩

end Engine

end CypherExpr
