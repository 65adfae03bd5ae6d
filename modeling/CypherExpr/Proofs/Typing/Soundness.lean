import CypherExpr.Proofs.Typing.Arithmetic

/-!
# Inference is sound where no list is typed

A value is compared with the type inferred for its expression by induction on the expressions whose
types inference derives from those of scalars.  Values of predicates, quantifiers, maps and paths
have their type whatever their operands are.  Arithmetic is where the two meet: the types of the
operands may be known less precisely than those of their values, and inference is monotone in that.
No type on the way is a list type, so the exception made for sums of lists does not arise.
-/

namespace CypherExpr

/-- The value is null or of a type that the static type accepts. -/
def ValueType.Admits (type : ValueType) (value : Value) : Prop :=
  value = .null ∨ type.accepts value.type = true

theorem ValueType.Admits.of_type {type : ValueType} {value : Value}
    (htype : value = .null ∨ value.type = type) : type.Admits value := by
  refine htype.imp_right fun htype => ?_
  rw [htype]
  exact accepts_self type

namespace Eval

open Outcome

variable {sub : Evaluator} {context : Context} {value : Value}

/-! ## Kinds of values -/

theorem ofTruth_kind (truth : Option Bool) :
    Value.ofTruth truth = .null ∨ (Value.ofTruth truth).type = .boolean := by
  cases truth with
  | none => exact .inl rfl
  | some value => exact .inr rfl

theorem lift_kind {connective : Option Bool → Option Bool → Option Bool} {left right : Value}
    (hlift : Logic.lift connective left right = .ok value) :
    value = .null ∨ value.type = .boolean := by
  unfold Logic.lift at hlift
  split at hlift
  · cases hlift
  · split at hlift
    · cases hlift
    · cases hlift
      exact ofTruth_kind _

theorem stringPredicate_kind {test : String → String → Result Bool} {left right : Value}
    (hlift : StringPredicate.lift test left right = .ok value) :
    value = .null ∨ value.type = .boolean := by
  unfold StringPredicate.lift at hlift
  split at hlift
  · cases hlift
    exact .inr rfl
  · cases hlift
    exact .inl rfl
  · next text part =>
    cases htest : test text part with
    | error cause =>
        rw [htest] at hlift
        cases hlift
    | ok truth =>
        rw [htest] at hlift
        cases hlift
        exact .inr rfl
  · cases hlift
  · cases hlift

theorem isIn_kind {item source : Value} (hin : Container.isIn item source = .ok value) :
    value = .null ∨ value.type = .boolean := by
  unfold Container.isIn at hin
  split at hin
  · cases hin
    exact .inl rfl
  · cases hin
    exact ofTruth_kind _
  · cases hin

theorem predicate_kind {op : BinaryOp} (hop : op.isPredicate = true) {left right : Value}
    (hbinary : binary op left right = .ok value) : value = .null ∨ value.type = .boolean := by
  cases op with
  | and | or | xor => exact lift_kind hbinary
  | equal | notEqual | less | lessOrEqual | greater | greaterOrEqual =>
      cases hbinary
      exact ofTruth_kind _
  | startsWith | endsWith | contains | regexMatch => exact stringPredicate_kind hbinary
  | isIn => exact isIn_kind hbinary
  | _ => cases hop

theorem test_kind {op : UnaryOp} (hop : op ≠ .negate) {operand : Value}
    (hunary : unary op operand = .ok value) : value = .null ∨ value.type = .boolean := by
  cases op with
  | not =>
      change Logic.negation operand = .ok value at hunary
      unfold Logic.negation at hunary
      split at hunary
      · cases hunary
      · cases hunary
        exact ofTruth_kind _
  | negate => exact absurd rfl hop
  | isNull | isNotNull =>
      cases hunary
      exact .inr rfl

theorem negate_kind {operand : Value} (hnegate : Arithmetic.negate operand = .ok value) :
    value = .null ∨ value.type = operand.type := by
  unfold Arithmetic.negate at hnegate
  split at hnegate
  · cases hnegate
    exact .inl rfl
  · obtain ⟨negated, _, rfl⟩ := Arithmetic.checked_eq_ok hnegate
    exact .inr rfl
  · cases hnegate
    exact .inr rfl
  · obtain ⟨negated, _, rfl⟩ := Arithmetic.checked_eq_ok hnegate
    exact .inr rfl
  · cases hnegate

theorem conjunction_kind {operands : List Expr}
    (hconjunction : conjunction sub context operands = .ok value) : value.type = .boolean := by
  induction operands with
  | nil =>
      cases hconjunction
      rfl
  | cons operand rest ih =>
      rw [conjunction] at hconjunction
      obtain ⟨first, _, hrest⟩ := bind_eq_ok_iff.mp hconjunction
      obtain ⟨truth, _, hrest⟩ := bind_eq_ok_iff.mp hrest
      split at hrest
      · exact ih hrest
      · cases hrest
        rfl

theorem disjunction_kind {operands : List Expr}
    (hdisjunction : disjunction sub context operands = .ok value) : value.type = .boolean := by
  induction operands with
  | nil =>
      cases hdisjunction
      rfl
  | cons operand rest ih =>
      rw [disjunction] at hdisjunction
      obtain ⟨first, _, hrest⟩ := bind_eq_ok_iff.mp hdisjunction
      obtain ⟨truth, _, hrest⟩ := bind_eq_ok_iff.mp hrest
      split at hrest
      · cases hrest
        rfl
      · exact ih hrest

theorem quantified_kind {quantifier : Quantifier} {binder : String} {list : Expr}
    {predicate : Option Expr}
    (hquantified : quantified sub context quantifier binder list predicate = .ok value) :
    value = .null ∨ value.type = .boolean := by
  obtain ⟨container, _, hrest⟩ := bind_eq_ok_iff.mp hquantified
  obtain ⟨items, _, hrest⟩ := bind_eq_ok_iff.mp hrest
  cases items with
  | none =>
      cases hrest
      exact .inl rfl
  | some items =>
      obtain ⟨truth, _, hvalue⟩ := bind_eq_ok_iff.mp hrest
      cases hvalue
      exact .inr rfl

theorem mapProjection_kind {subject : String} {items : List (ProjectionItem Expr)}
    (hprojection : mapProjection sub context subject items = .ok value) :
    value = .null ∨ value.type = .map := by
  obtain ⟨source, _, hrest⟩ := bind_eq_ok_iff.mp hprojection
  split at hrest
  · cases hrest
    exact .inl rfl
  · split at hrest
    · obtain ⟨properties, _, hvalue⟩ := bind_eq_ok_iff.mp hrest
      cases hvalue
      exact .inr rfl
    · cases hrest

theorem path_kind {steps : PathStep Expr} (hpath : path sub context steps = .ok value) :
    value = .null ∨ value.type = .path := by
  obtain ⟨elements, _, hrest⟩ := bind_eq_ok_iff.mp hpath
  cases elements with
  | none =>
      cases hrest
      exact .inl rfl
  | some elements =>
      simp only at hrest
      split at hrest
      · cases hrest
      · split at hrest
        · cases hrest
          exact .inr rfl
        · cases hrest

end Eval

/-! ## Arithmetic on less precise types -/

namespace Typing

open ValueType

theorem arithmeticType_number_right {op : BinaryOp} (hop : op.isArithmetic = true)
    {left right type type' : ValueType} (hright : right.isNumeric = true)
    (hlist : left.element? = none) (htype : arithmeticType op (some left) (some right) = some type)
    (htype' : arithmeticType op (some left) (some .number) = some type') : type.Below type' := by
  cases right <;> cases hright
  all_goals cases op <;> cases hop
  all_goals cases left <;> cases hlist <;> cases htype <;> cases htype' <;> constructor <;> rfl

theorem arithmeticType_number_left {op : BinaryOp} (hop : op.isArithmetic = true)
    {left right type type' : ValueType} (hleft : left.isNumeric = true)
    (hlist : right.element? = none) (htype : arithmeticType op (some left) (some right) = some type)
    (htype' : arithmeticType op (some .number) (some right) = some type') : type.Below type' := by
  cases left <;> cases hleft
  all_goals cases op <;> cases hop
  all_goals cases right <;> cases hlist <;> cases htype <;> cases htype' <;> constructor <;> rfl

/-- An operand that is known less precisely, as a number of either kind, makes the result known less
precisely. -/
theorem arithmeticType_mono {op : BinaryOp} (hop : op.isArithmetic = true)
    {left left' right right' type type' : ValueType} (hleft : left.Below left')
    (hright : right.Below right') (hleftAny : left ≠ .any) (hrightAny : right ≠ .any)
    (hleftList : left'.element? = none) (hrightList : right'.element? = none)
    (htype : arithmeticType op (some left) (some right) = some type)
    (htype' : arithmeticType op (some left') (some right') = some type') : type.Below type' := by
  cases hleft with
  | unknown => exact absurd rfl hleftAny
  | list => cases hleftList
  | refl =>
      cases hright with
      | unknown => exact absurd rfl hrightAny
      | list => cases hrightList
      | refl =>
          cases htype.symm.trans htype'
          exact .refl type
      | number hnumeric => exact arithmeticType_number_right hop hnumeric hleftList htype htype'
  | number hnumeric =>
      cases hright with
      | unknown => exact absurd rfl hrightAny
      | list => cases hrightList
      | refl => exact arithmeticType_number_left hop hnumeric hrightList htype htype'
      | number hright =>
          have hmiddle : ∃ middle, arithmeticType op (some left) (some .number) = some middle := by
            cases left <;> cases hnumeric
            all_goals cases op <;> cases hop
            all_goals first | exact ⟨_, rfl⟩ | cases htype'
          obtain ⟨middle, hmiddle⟩ := hmiddle
          have hlist : left.element? = none := by cases left <;> cases hnumeric <;> rfl
          have hfirst := arithmeticType_number_right hop hright hlist htype hmiddle
          exact hfirst.trans (arithmeticType_number_left hop hnumeric rfl hmiddle htype')

theorem element?_numericType {left right type : ValueType}
    (htype : numericType left right = some type) : type.element? = none := by
  unfold numericType at htype
  split at htype
  · cases htype
    rfl
  · split at htype
    · split at htype <;> cases htype <;> rfl
    · cases htype

theorem element?_addType {left right type : ValueType} (hleft : left.element? = none)
    (hright : right.element? = none) (htype : addType left right = some type) :
    type.element? = none := by
  unfold addType at htype
  split at htype
  · cases hleft
  · cases hleft
  · cases hright
  · cases htype
    rfl
  · cases htype
    rfl
  · cases htype
    rfl
  · split at htype
    · cases htype
      exact hleft
    · exact element?_numericType htype
  · split at htype
    · cases htype
      exact hright
    · exact element?_numericType htype
  · exact element?_numericType htype

theorem element?_subtractType {left right type : ValueType} (hleft : left.element? = none)
    (htype : subtractType left right = some type) : type.element? = none := by
  unfold subtractType at htype
  split at htype
  · cases htype
    rfl
  · split at htype
    · cases htype
      exact hleft
    · exact element?_numericType htype
  · exact element?_numericType htype

/-- Operands of types that are not list types are never typed as a list. -/
theorem element?_arithmeticType {op : BinaryOp} {left right : Option ValueType} {type : ValueType}
    (hleft : ∀ known, left = some known → known.element? = none)
    (hright : ∀ known, right = some known → known.element? = none)
    (htype : arithmeticType op left right = some type) : type.element? = none := by
  unfold arithmeticType at htype
  split at htype
  · cases htype
    rfl
  · split at htype
    · next l r =>
      split at htype
      · cases htype
      · cases op with
        | add => exact element?_addType (hleft l rfl) (hright r rfl) htype
        | subtract => exact element?_subtractType (hleft l rfl) htype
        | multiply =>
            simp only [multiplyType] at htype
            split at htype
            · cases htype
              rfl
            · cases htype
              rfl
            · exact element?_numericType htype
        | divide =>
            simp only [divideType] at htype
            split at htype
            · cases htype
              rfl
            · exact element?_numericType htype
        | modulo =>
            simp only [moduloType] at htype
            split at htype
            · cases htype
              rfl
            · cases htype
        | _ => cases htype
    · cases htype

/-- An arithmetic operation but `^` is typed only if both operands are, and not as anything. -/
theorem arithmeticType_eq_some {op : BinaryOp} (hop : op ≠ .power)
    {left right : Option ValueType} {type : ValueType}
    (htype : arithmeticType op left right = some type) :
    ∃ l r, left = some l ∧ right = some r ∧ l.isAny = false ∧ r.isAny = false := by
  unfold arithmeticType at htype
  rw [if_neg hop] at htype
  split at htype
  · next l r =>
    split at htype
    · cases htype
    · next hany =>
      rw [Bool.or_eq_true, not_or, Bool.not_eq_true, Bool.not_eq_true] at hany
      exact ⟨l, r, rfl, rfl, hany.1, hany.2⟩
  · cases htype

/-- A type that names a kind is above that of every value it admits. -/
theorem below_of_admits {type : ValueType} {value : Value} (hadmits : type.Admits value)
    (hvalue : value ≠ .null) (hany : type.isAny = false) (hlist : type.element? = none) :
    value.type.Below type := by
  rcases accepts_iff.mp (hadmits.resolve_left hvalue) with rfl | hbelow | ⟨_, _, rfl, _⟩
  · cases hany
  · exact hbelow
  · cases hlist

theorem arithmetic_admits {op : BinaryOp} (hop : op.isArithmetic = true)
    {left right : Option ValueType} {leftValue rightValue value : Value} {type : ValueType}
    (hleft : ∀ known, left = some known → known.Admits leftValue ∧ known.element? = none)
    (hright : ∀ known, right = some known → known.Admits rightValue ∧ known.element? = none)
    (htype : arithmeticType op left right = some type)
    (hvalue : Eval.binary op leftValue rightValue = .ok value) :
    type.Admits value ∧ type.element? = none := by
  have hlist := element?_arithmeticType (fun known hknown => (hleft known hknown).2)
    (fun known hknown => (hright known hknown).2) htype
  refine ⟨?_, hlist⟩
  by_cases hnull : leftValue = .null ∨ rightValue = .null
  · cases (Arithmetic.binary_null hop hnull).symm.trans hvalue
    exact .inl rfl
  · rw [not_or] at hnull
    by_cases hpower : op = .power
    · subst hpower
      cases htype
      exact .of_type (.inr (Arithmetic.power_type hvalue hnull.1 hnull.2))
    · obtain ⟨l, r, rfl, rfl, hlAny, hrAny⟩ := arithmeticType_eq_some hpower htype
      obtain ⟨hlAdmits, hlList⟩ := hleft l rfl
      obtain ⟨hrAdmits, hrList⟩ := hright r rfl
      have hlBelow := below_of_admits hlAdmits hnull.1 hlAny hlList
      have hrBelow := below_of_admits hrAdmits hnull.2 hrAny hrList
      have hnolist : ∀ items, rightValue ≠ .list items := by
        rintro items rfl
        cases hrBelow with
        | refl | list => cases hrList
        | number hnumeric => cases hnumeric
      have hexact := Arithmetic.binary_type hop hvalue hnull.1 hnull.2 fun _ => hnolist
      have hbelow := arithmeticType_mono hop hlBelow hrBelow (Value.type_ne_any hnull.1)
        (Value.type_ne_any hnull.2) hlList hrList hexact htype
      exact .inr hbelow.accepts

end Typing

/-! ## Expressions -/

/-- Expressions whose values are scalars as far as inference looks.  Operands that it does not look
at may be of any form. -/
inductive Expr.Scalar : Expr → Prop
  | literal (value : Literal) : Scalar (.literal value)
  | reference (name : String) : Scalar (.variable name)
  | parameter (name : String) : Scalar (.parameter name)
  | property (subject : Expr) (key : String) : Scalar (.property subject key)
  | predicate {op : BinaryOp} (hop : op.isPredicate = true) (left right : Expr) :
      Scalar (.binary op left right)
  | arithmetic {op : BinaryOp} {left right : Expr} (hop : op.isArithmetic = true)
      (hleft : Scalar left) (hright : Scalar right) : Scalar (.binary op left right)
  | test {op : UnaryOp} (hop : op ≠ .negate) (operand : Expr) : Scalar (.unary op operand)
  | negation {operand : Expr} (hoperand : Scalar operand) : Scalar (.unary .negate operand)
  | conjunction (operands : List Expr) : Scalar (.conjunction operands)
  | disjunction (operands : List Expr) : Scalar (.disjunction operands)
  | quantified (quantifier : Quantifier) (binder : String) (list : Expr)
      (predicate : Option Expr) : Scalar (.quantified quantifier binder list predicate)
  | map (entries : List (String × Expr)) : Scalar (.map entries)
  | mapProjection (subject : String) (items : List (ProjectionItem Expr)) :
      Scalar (.mapProjection subject items)
  | countRows : Scalar .countRows
  | path (steps : PathStep Expr) : Scalar (.path steps)

/-- No name is declared to be a list. -/
structure TypeContext.ListFree (types : TypeContext) : Prop where
  names {name : String} {type : ValueType} (htype : types.typeOf name = some type) :
    type.element? = none
  parameters {name : String} {type : ValueType} (htype : types.typeOfParameter name = some type) :
    type.element? = none

/-- What is bound under a declared name is null or of a type that the declared one accepts. -/
structure Context.Conforms (context : Context) (types : TypeContext) : Prop where
  names {name : String} {type : ValueType} {value : Value}
    (htype : types.typeOf name = some type) (hvalue : context.lookup name = some value) :
    type.Admits value
  parameters {name : String} {type : ValueType} {value : Value}
    (htype : types.typeOfParameter name = some type)
    (hvalue : context.parameter? name = some value) : type.Admits value

namespace Engine

open Outcome ValueType

/-- An expression that has a value has been entered. -/
theorem exists_level_of_eval (engine : Engine) {budget : Nat} {expr : Expr} {context : Context}
    {value : Value} (heval : engine.eval budget expr context = .ok value) :
    ∃ below, Eval.level (engine.eval below) engine expr context = .ok value := by
  cases budget with
  | zero => cases heval
  | succ below => exact ⟨below, heval⟩

theorem eval_admits (engine : Engine) {types : TypeContext} {context : Context}
    (hfree : types.ListFree) (hconforms : context.Conforms types) {expr : Expr}
    (hscalar : expr.Scalar) {budget : Nat} {type : ValueType} {value : Value}
    (hinfer : Typing.infer engine.registry types expr = some type)
    (heval : engine.eval budget expr context = .ok value) :
    type.Admits value ∧ type.element? = none := by
  induction hscalar generalizing budget type value with
  | property => cases hinfer
  | literal literal =>
      obtain ⟨_, hlevel⟩ := engine.exists_level_of_eval heval
      cases hlevel
      cases literal <;> cases hinfer <;> exact ⟨.inr rfl, rfl⟩
  | reference name =>
      obtain ⟨_, hlevel⟩ := engine.exists_level_of_eval heval
      have hvalue := ofResult_eq_ok_iff.mp (leaving_eq_ok_iff.mp hlevel)
      rw [Eval.valueOf] at hvalue
      split at hvalue
      · next hlookup =>
        cases hvalue
        exact ⟨hconforms.names hinfer hlookup, hfree.names hinfer⟩
      · cases hvalue
  | parameter name =>
      obtain ⟨_, hlevel⟩ := engine.exists_level_of_eval heval
      have hvalue := ofResult_eq_ok_iff.mp (leaving_eq_ok_iff.mp hlevel)
      rw [Eval.parameterOf] at hvalue
      split at hvalue
      · next hlookup =>
        cases hvalue
        exact ⟨hconforms.parameters hinfer hlookup, hfree.parameters hinfer⟩
      · cases hvalue
  | predicate hop left right =>
      rw [Typing.infer, if_pos hop] at hinfer
      cases hinfer
      obtain ⟨_, hlevel⟩ := engine.exists_level_of_eval heval
      obtain ⟨_, _, hrest⟩ := bind_eq_ok_iff.mp (leaving_eq_ok_iff.mp hlevel)
      obtain ⟨_, _, hrest⟩ := bind_eq_ok_iff.mp hrest
      exact ⟨.of_type (Eval.predicate_kind hop (ofResult_eq_ok_iff.mp hrest)), rfl⟩
  | @arithmetic op left right hop _ _ ihleft ihright =>
      have hpredicate : op.isPredicate ≠ true := by simp [BinaryOp.isPredicate, hop]
      rw [Typing.infer, if_neg hpredicate] at hinfer
      obtain ⟨_, hlevel⟩ := engine.exists_level_of_eval heval
      obtain ⟨first, hfirst, hrest⟩ := bind_eq_ok_iff.mp (leaving_eq_ok_iff.mp hlevel)
      obtain ⟨second, hsecond, hrest⟩ := bind_eq_ok_iff.mp hrest
      exact Typing.arithmetic_admits hop (fun known hknown => ihleft hknown hfirst)
        (fun known hknown => ihright hknown hsecond) hinfer (ofResult_eq_ok_iff.mp hrest)
  | @test op hop operand =>
      have hboolean : type = .boolean := by
        cases op with
        | negate => exact absurd rfl hop
        | _ =>
            cases hinfer
            rfl
      subst hboolean
      obtain ⟨_, hlevel⟩ := engine.exists_level_of_eval heval
      obtain ⟨_, _, hrest⟩ := bind_eq_ok_iff.mp (leaving_eq_ok_iff.mp hlevel)
      exact ⟨.of_type (Eval.test_kind hop (ofResult_eq_ok_iff.mp hrest)), rfl⟩
  | @negation operand _ ih =>
      rw [Typing.infer, Option.filter_eq_some_iff] at hinfer
      obtain ⟨_, hlevel⟩ := engine.exists_level_of_eval heval
      obtain ⟨first, hfirst, hrest⟩ := bind_eq_ok_iff.mp (leaving_eq_ok_iff.mp hlevel)
      obtain ⟨hadmits, hlist⟩ := ih hinfer.1 hfirst
      refine ⟨?_, hlist⟩
      rcases Eval.negate_kind (ofResult_eq_ok_iff.mp hrest) with rfl | htype
      · exact .inl rfl
      · right
        rw [htype]
        rcases hadmits with rfl | haccepts
        · exact accepts_any type
        · exact haccepts
  | conjunction operands =>
      cases hinfer
      obtain ⟨_, hlevel⟩ := engine.exists_level_of_eval heval
      have hkind := Eval.conjunction_kind (leaving_eq_ok_iff.mp hlevel)
      exact ⟨.of_type (.inr hkind), rfl⟩
  | disjunction operands =>
      cases hinfer
      obtain ⟨_, hlevel⟩ := engine.exists_level_of_eval heval
      have hkind := Eval.disjunction_kind (leaving_eq_ok_iff.mp hlevel)
      exact ⟨.of_type (.inr hkind), rfl⟩
  | quantified quantifier binder list predicate =>
      cases hinfer
      obtain ⟨_, hlevel⟩ := engine.exists_level_of_eval heval
      exact ⟨.of_type (Eval.quantified_kind (leaving_eq_ok_iff.mp hlevel)), rfl⟩
  | map entries =>
      cases hinfer
      obtain ⟨_, hlevel⟩ := engine.exists_level_of_eval heval
      obtain ⟨properties, _, hvalue⟩ := bind_eq_ok_iff.mp hlevel
      cases hvalue
      exact ⟨.inr rfl, rfl⟩
  | mapProjection subject items =>
      cases hinfer
      obtain ⟨_, hlevel⟩ := engine.exists_level_of_eval heval
      exact ⟨.of_type (Eval.mapProjection_kind (leaving_eq_ok_iff.mp hlevel)), rfl⟩
  | countRows =>
      obtain ⟨_, hlevel⟩ := engine.exists_level_of_eval heval
      cases hlevel
  | path steps =>
      cases hinfer
      obtain ⟨_, hlevel⟩ := engine.exists_level_of_eval heval
      exact ⟨.of_type (Eval.path_kind (leaving_eq_ok_iff.mp hlevel)), rfl⟩

/-- Inference is sound on scalar expressions: under declarations that name no list type, in a
context that conforms to them, what an expression evaluates to is null or of a type that the
inferred one accepts. -/
theorem evaluate_scalar_accepted (engine : Engine) (types : TypeContext) (context : Context)
    (hfree : types.ListFree) (hconforms : context.Conforms types) (expr : Expr)
    (hscalar : expr.Scalar) (type : ValueType) (value : Value)
    (hinfer : engine.inferType expr types = some type)
    (heval : engine.evaluate expr context = .ok value) :
    value = .null ∨ type.accepts value.type = true :=
  (engine.eval_admits hfree hconforms hscalar hinfer heval).1

/-- The difference `x * 2 - $shift`, of a number and a float. -/
def scaled : Expr :=
  .binary .subtract (.binary .multiply (.variable "x") (.literal (.integer 2))) (.parameter "shift")

/-- With `x` declared as a number and `$shift` as a float, the difference is inferred to be a
number, and for the integer 3 and the float 0.5 it is a float. -/
theorem evaluate_scaled_accepted :
    ∃ types context type value,
      TypeContext.ListFree types ∧ Context.Conforms context types ∧ scaled.Scalar ∧
      standard.inferType scaled types = some type ∧
      standard.evaluate scaled context = .ok value ∧
      type = .number ∧ value.type = .float ∧
      (value = .null ∨ type.accepts value.type = true) := by
  let types : TypeContext := (TypeContext.empty.declare "x" .number).declareParameter "shift" .float
  let context : Context := (Context.empty.bind "x" (.integer 3)).withParameter "shift" (.float 0.5)
  have hfree : types.ListFree := by
    constructor
    · intro name type htype
      cases List.mem_singleton.mp (Properties.mem_of_get? htype)
      rfl
    · intro name type htype
      cases List.mem_singleton.mp (Properties.mem_of_get? htype)
      rfl
  have hconforms : context.Conforms types := by
    constructor
    · intro name type value htype hvalue
      cases List.mem_singleton.mp (Properties.mem_of_get? htype)
      cases hvalue
      exact .inr rfl
    · intro name type value htype hvalue
      cases List.mem_singleton.mp (Properties.mem_of_get? htype)
      cases hvalue
      exact .inr rfl
  have hscalar : scaled.Scalar :=
    .arithmetic rfl (.arithmetic rfl (.reference "x") (.literal _)) (.parameter "shift")
  exact ⟨types, context, _, _, hfree, hconforms, hscalar, rfl, rfl, rfl, rfl,
    standard.evaluate_scalar_accepted types context hfree hconforms scaled hscalar _ _ rfl rfl⟩

end Engine

end CypherExpr
