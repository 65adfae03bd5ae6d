import CypherExpr.Engine.Basic

/-!
# Type inference

Inference gives an expression a static type, or none where the type depends on data that is not
known: property values, undeclared names and mixtures of kinds.
-/

namespace CypherExpr

/-- Declared types of variables and parameters; the first entry for a name counts. -/
structure TypeContext where
  variableTypes : List (String × ValueType)
  parameterTypes : List (String × ValueType)

namespace TypeContext

def empty : TypeContext := ⟨[], []⟩

def typeOf (types : TypeContext) (name : String) : Option ValueType :=
  types.variableTypes.lookup name

def typeOfParameter (types : TypeContext) (name : String) : Option ValueType :=
  types.parameterTypes.lookup name

def declare (types : TypeContext) (name : String) (type : ValueType) : TypeContext :=
  { types with variableTypes := (name, type) :: types.variableTypes }

def declareParameter (types : TypeContext) (name : String) (type : ValueType) : TypeContext :=
  { types with parameterTypes := (name, type) :: types.parameterTypes }

end TypeContext

namespace Typing

def literalType : Literal → Option ValueType
  | .null => none
  | .boolean _ => some .boolean
  | .integer _ => some .integer
  | .float _ => some .float
  | .string _ => some .string

/-- Integers stay integers; with a float or an unknown number the result is as little known. -/
def numericType (left right : ValueType) : Option ValueType :=
  if left = .integer ∧ right = .integer then some .integer
  else if left.isNumeric && right.isNumeric then
    if left = .number ∨ right = .number then some .number else some .float
  else none

def addType : ValueType → ValueType → Option ValueType
  | .list left, .list right => some (.list (left.join right))
  | .list element, item => some (.list (element.join item))
  | item, .list element => some (.list (element.join item))
  | .string, _ => some .string
  | _, .string => some .string
  | .duration, .duration => some .duration
  | point, .duration => if point.isPoint then some point else numericType point .duration
  | .duration, point => if point.isPoint then some point else numericType .duration point
  | left, right => numericType left right

def subtractType : ValueType → ValueType → Option ValueType
  | .duration, .duration => some .duration
  | point, .duration => if point.isPoint then some point else numericType point .duration
  | left, right => numericType left right

def multiplyType : ValueType → ValueType → Option ValueType
  | .duration, .integer => some .duration
  | .integer, .duration => some .duration
  | left, right => numericType left right

def divideType : ValueType → ValueType → Option ValueType
  | .duration, .integer => some .duration
  | left, right => numericType left right

def moduloType (left right : ValueType) : Option ValueType :=
  if left = .integer ∧ right = .integer then some .integer else none

/-- The type of an arithmetic operation, none as soon as an operand may be of any type. -/
def arithmeticType (op : BinaryOp) (left right : Option ValueType) : Option ValueType :=
  if op = .power then some .float
  else
    match left, right with
    | some l, some r =>
        if l.isAny || r.isAny then none
        else
          match op with
          | .add => addType l r
          | .subtract => subtractType l r
          | .multiply => multiplyType l r
          | .divide => divideType l r
          | .modulo => moduloType l r
          | _ => none
    | _, _ => none

mutual

def infer (registry : Registry) (types : TypeContext) : Expr → Option ValueType
  | .literal value => literalType value
  | .variable name => types.typeOf name
  | .parameter name => types.typeOfParameter name
  | .property _ _ => none
  | .index container _ => (infer registry types container).bind ValueType.element?
  | .slice list _ _ =>
      match infer registry types list with
      | some (.list element) => some (.list element)
      | _ => none
  | .binary op left right =>
      if op.isPredicate then some .boolean
      else arithmeticType op (infer registry types left) (infer registry types right)
  | .unary .negate operand =>
      (infer registry types operand).filter fun type => type.isNumeric || decide (type = .duration)
  | .unary _ _ => some .boolean
  | .conjunction _ => some .boolean
  | .disjunction _ => some .boolean
  | .call name _ _ => (registry.find? name).map Function.returns
  | .countRows => some .integer
  | .list items => some (.list (ValueType.joinAll (inferElements registry types items)))
  | .map _ => some .map
  | .mapProjection _ _ => some .map
  | .case _ alternatives fallback =>
      match inferResults registry types alternatives, inferFallback registry types fallback with
      | some results, some others => some (ValueType.joinAll (results ++ others))
      | _, _ => none
  | .comprehension binder list _ projection =>
      let element := ((infer registry types list).bind ValueType.element?).getD .any
      some (.list (inferProjection registry (types.declare binder element) element projection))
  | .reduce _ init _ _ _ => infer registry types init
  | .quantified _ _ _ _ => some .boolean
  | .pattern _ => some (.list .path)
  | .patternComprehension _ _ _ _ => none
  | .path _ => some .path
termination_by structural expr => expr

/-- The types of list elements, `any` where there is none. -/
def inferElements (registry : Registry) (types : TypeContext) : List Expr → List ValueType
  | [] => []
  | expr :: rest => (infer registry types expr).getD .any :: inferElements registry types rest
termination_by structural exprs => exprs

/-- The types of the results of all alternatives, none as soon as one has none. -/
def inferResults (registry : Registry) (types : TypeContext) :
    List (Expr × Expr) → Option (List ValueType)
  | [] => some []
  | (_, result) :: rest =>
      match infer registry types result, inferResults registry types rest with
      | some type, some others => some (type :: others)
      | _, _ => none
termination_by structural alternatives => alternatives

def inferFallback (registry : Registry) (types : TypeContext) :
    Option Expr → Option (List ValueType)
  | none => some []
  | some expr => (infer registry types expr).map fun type => [type]
termination_by structural expr => expr

/-- The type of a projection, that of the elements where it is absent. -/
def inferProjection (registry : Registry) (types : TypeContext) (element : ValueType) :
    Option Expr → ValueType
  | none => element
  | some expr => (infer registry types expr).getD .any
termination_by structural expr => expr

end

end Typing

/-- The static type of an expression under declarations. -/
def Engine.inferType (engine : Engine) (expr : Expr) (types : TypeContext) : Option ValueType :=
  Typing.infer engine.registry types expr

end CypherExpr
