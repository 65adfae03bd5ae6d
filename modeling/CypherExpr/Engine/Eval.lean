import CypherExpr.Context
import CypherExpr.Engine.Basic
import CypherExpr.Operator.Arithmetic
import CypherExpr.Operator.Comparison
import CypherExpr.Operator.Container
import CypherExpr.Operator.Logic
import CypherExpr.Operator.StringPredicate

/-!
# Evaluation

One level of an expression is evaluated by a function that is given the evaluator for the levels
below.  The evaluator proper takes a budget of levels and spends one on each, so it is total, and
running out of budget is the recursion limit.
-/

namespace CypherExpr

/-- An evaluator for the parts of an expression. -/
abbrev Evaluator := Expr → Context → Outcome Value

namespace Eval

open Outcome (ofResult fail)

/-! ## Operators -/

def binary (op : BinaryOp) (left right : Value) : Result Value :=
  match op with
  | .and => Logic.lift Logic.and left right
  | .or => Logic.lift Logic.or left right
  | .xor => Logic.lift Logic.xor left right
  | .equal => .ok (Comparison.equal left right)
  | .notEqual => .ok (Comparison.notEqual left right)
  | .less => .ok (Comparison.less left right)
  | .lessOrEqual => .ok (Comparison.lessOrEqual left right)
  | .greater => .ok (Comparison.greater left right)
  | .greaterOrEqual => .ok (Comparison.greaterOrEqual left right)
  | .startsWith => StringPredicate.startsWith left right
  | .endsWith => StringPredicate.endsWith left right
  | .contains => StringPredicate.contains left right
  | .regexMatch => StringPredicate.regexMatch left right
  | .isIn => Container.isIn left right
  | .add => Arithmetic.add left right
  | .subtract => Arithmetic.subtract left right
  | .multiply => Arithmetic.multiply left right
  | .divide => Arithmetic.divide left right
  | .modulo => Arithmetic.modulo left right
  | .power => Arithmetic.power left right

def unary (op : UnaryOp) (operand : Value) : Result Value :=
  match op with
  | .not => Logic.negation operand
  | .negate => Arithmetic.negate operand
  | .isNull => .ok (.boolean operand.isNull)
  | .isNotNull => .ok (.boolean !operand.isNull)

def literal : Literal → Value
  | .null => .null
  | .boolean value => .boolean value
  | .integer value => .integer value
  | .float value => .float value
  | .string value => .string value

/-- The value of `subject.key`: null for a missing key and for a null subject. -/
def property (key : String) (subject : Value) : Result Value :=
  if subject.isNull then .ok .null
  else if subject.hasComponents then .ok (.ofOption (subject.component? key))
  else .error (.mismatch "Map, Node, Relationship or temporal value" subject)

def valueOf (context : Context) (name : String) : Result Value :=
  match context.lookup name with
  | some value => .ok value
  | none => .error (.unboundVariable name)

def parameterOf (context : Context) (name : String) : Result Value :=
  match context.parameter? name with
  | some value => .ok value
  | none => .error (.unboundParameter name)

variable (sub : Evaluator)

/-! ## Sequences of parts -/

/-- The values of expressions from left to right, up to the first error. -/
def all (context : Context) : List Expr → Outcome (List Value)
  | [] => .ok []
  | expr :: rest => do
      let value ← sub expr context
      let values ← all context rest
      return value :: values

/-- The value of an expression that may be absent. -/
def optional (context : Context) : Option Expr → Outcome (Option Value)
  | none => .ok none
  | some expr => (sub expr context).map some

/-- The property list of entries evaluated from left to right. -/
def entries (context : Context) (soFar : Properties Value) :
    List (String × Expr) → Outcome (Properties Value)
  | [] => .ok soFar
  | (key, expr) :: rest => do
      let value ← sub expr context
      entries context (soFar.set key value) rest

/-- Whether every operand is true, up to the first that is not. -/
def conjunction (context : Context) : List Expr → Outcome Value
  | [] => .ok (.boolean true)
  | expr :: rest => do
      let value ← sub expr context
      if ← ofResult (Logic.isTruthy value) then conjunction context rest
      else return .boolean false

/-- Whether some operand is true, up to the first that is. -/
def disjunction (context : Context) : List Expr → Outcome Value
  | [] => .ok (.boolean false)
  | expr :: rest => do
      let value ← sub expr context
      if ← ofResult (Logic.isTruthy value) then return .boolean true
      else disjunction context rest

/-! ## Conditionals -/

/-- Whether an alternative is taken: its guard is true, or equals the subject. -/
def guardHolds (subject : Option Value) (guard : Value) : Bool :=
  guard.isTrue || subject.any fun value => value.equal? guard == some true

/-- The first alternative that is taken, or else the default, or else null. -/
def alternatives (context : Context) (subject : Option Value) (fallback : Option Expr) :
    List (Expr × Expr) → Outcome Value
  | [] =>
      match fallback with
      | some expr => sub expr context
      | none => .ok .null
  | (condition, result) :: rest => do
      let guard ← sub condition context
      if guardHolds subject guard then sub result context
      else alternatives context subject fallback rest

def case (context : Context) (subject : Option Expr) (branches : List (Expr × Expr))
    (fallback : Option Expr) : Outcome Value := do
  match ← optional sub context subject with
  | some .null => return .null
  | value => alternatives sub context value fallback branches

/-! ## Loops over lists -/

/-- The elements of a source list, absent for a null source. -/
def source : Value → Result (Option (List Value))
  | .null => .ok none
  | .list items => .ok (some items)
  | other => .error (.mismatch "List" other)

/-- Whether the predicate holds in a scope.  An absent one holds, an unknown one does not. -/
def holds (predicate : Option Expr) (scope : Context) : Outcome Bool :=
  match predicate with
  | none => .ok true
  | some expr => do
      let value ← sub expr scope
      ofResult (Logic.keeps value)

/-- The value of the projection in a scope, the element itself where there is none. -/
def projected (projection : Option Expr) (scope : Context) (item : Value) : Outcome Value :=
  match projection with
  | none => .ok item
  | some expr => sub expr scope

/-- Filters and projects the elements one after the other. -/
def comprehend (context : Context) (binder : String) (predicate projection : Option Expr) :
    List Value → Outcome (List Value)
  | [] => .ok []
  | item :: rest => do
      let scope := context.bind binder item
      if ← holds sub predicate scope then
        let value ← projected sub projection scope item
        let values ← comprehend context binder predicate projection rest
        return value :: values
      else comprehend context binder predicate projection rest

def comprehension (context : Context) (binder : String) (list : Expr)
    (predicate projection : Option Expr) : Outcome Value := do
  match ← ofResult (source (← sub list context)) with
  | none => return .null
  | some items => return .list (← comprehend sub context binder predicate projection items)

/-- Folds the elements from the left.  The element is bound after the accumulator. -/
def fold (context : Context) (accumulator binder : String) (body : Expr) (value : Value) :
    List Value → Outcome Value
  | [] => .ok value
  | item :: rest => do
      let next ← sub body ((context.bind accumulator value).bind binder item)
      fold context accumulator binder body next rest

def reduce (context : Context) (accumulator : String) (init : Expr) (binder : String)
    (list body : Expr) : Outcome Value := do
  let first ← sub init context
  match ← ofResult (source (← sub list context)) with
  | none => return .null
  | some items => fold sub context accumulator binder body first items

/-- The elements from the first on which the predicate has the given outcome, without that one;
absent if there is none. -/
def afterFirst (context : Context) (binder : String) (predicate : Option Expr) (wanted : Bool) :
    List Value → Outcome (Option (List Value))
  | [] => .ok none
  | item :: rest => do
      if (← holds sub predicate (context.bind binder item)) == wanted then return some rest
      else afterFirst context binder predicate wanted rest

/-- Quantifiers look at no more elements than decide them. -/
def quantify (context : Context) (quantifier : Quantifier) (binder : String)
    (predicate : Option Expr) (items : List Value) : Outcome Bool :=
  let search := afterFirst sub context binder predicate
  match quantifier with
  | .all => do return (← search false items).isNone
  | .any => do return (← search true items).isSome
  | .none => do return (← search true items).isNone
  | .single => do
      match ← search true items with
      | none => return false
      | some rest => return (← search true rest).isNone

def quantified (context : Context) (quantifier : Quantifier) (binder : String) (list : Expr)
    (predicate : Option Expr) : Outcome Value := do
  match ← ofResult (source (← sub list context)) with
  | none => return .null
  | some items => return .boolean (← quantify sub context quantifier binder predicate items)

/-! ## Map projection -/

/-- Adds what the items define, from left to right. -/
def projectItems (context : Context) (properties soFar : Properties Value) :
    List (ProjectionItem Expr) → Outcome (Properties Value)
  | [] => .ok soFar
  | item :: rest => do
      let next ←
        match item with
        | .property key => pure (soFar.set key (.ofOption (properties.get? key)))
        | .entry key expr => do
            let value ← sub expr context
            pure (soFar.set key value)
        | .variable name => do
            let value ← ofResult (valueOf context name)
            pure (soFar.set name value)
        | .allProperties => pure (soFar.setAll properties)
      projectItems context properties next rest

def mapProjection (context : Context) (subject : String) (items : List (ProjectionItem Expr)) :
    Outcome Value := do
  let value ← ofResult (valueOf context subject)
  if value.isNull then return .null
  else
    match value.properties? with
    | some properties => return .map (← projectItems sub context properties [] items)
    | none => fail (.mismatch "Map, Node or Relationship" value)

/-! ## Calls -/

/-- Calls a function on the arguments of one row.  An aggregating function cannot fold one row; its
arguments are handed on as a list. -/
def call (engine : Engine) (context : Context) (name : String) (args : List Expr) :
    Outcome Value :=
  match engine.registry.find? name with
  | none => fail (.undefinedFunction name)
  | some function =>
      if function.accepts args.length then do
        let values ← all sub context args
        if function.aggregating then return .list values
        else function.run values
      else fail (function.arityCause name args.length)

/-! ## Paths -/

/-- An expression that must give a node; absent for null. -/
def nodeOf (context : Context) (expr : Expr) : Outcome (Option (Node Value)) := do
  match ← sub expr context with
  | .null => return none
  | .node node => return some node
  | other => fail (.mismatch "Node" other)

/-- An expression that must give a relationship; absent for null. -/
def relationshipOf (context : Context) (expr : Expr) : Outcome (Option (Relationship Value)) := do
  match ← sub expr context with
  | .null => return none
  | .relationship relationship => return some relationship
  | other => fail (.mismatch "Relationship" other)

/-- The cause where a relationship step has no node to lead to. -/
def missingDestination (relationship : Expr) : Cause :=
  .pathConstruction ("relationship `" ++ relationship.render ++ "` has no destination node")

/-- The elements of a chain of steps, absent once a null is met.  A segment brings its own first
node, so the node before one is left out and not evaluated. -/
def assemble (context : Context) : PathStep Expr → Outcome (Option (List (PathElement Value)))
  | .done => .ok (some [])
  | .node expr next =>
      if next.isSegment then assemble context next
      else do
        match ← nodeOf sub context expr with
        | none => return none
        | some node => return (← assemble context next).map (.node node :: ·)
  | .relationship expr target next =>
      match target with
      | none => fail (missingDestination expr)
      | some target => do
          match ← relationshipOf sub context expr with
          | none => return none
          | some relationship =>
              if next.isSegment then
                return (← assemble context next).map (.relationship relationship :: ·)
              else
                match ← nodeOf sub context target with
                | none => return none
                | some node =>
                    return (← assemble context next).map
                      fun rest => .relationship relationship :: .node node :: rest
  | .segment name next =>
      match context.segment? name with
      | none => fail (.unboundVariable name)
      | some path => do return (← assemble context next).map (path.elements ++ ·)

def path (context : Context) (steps : PathStep Expr) : Outcome Value := do
  match ← assemble sub context steps with
  | none => return .null
  | some elements =>
      if elements.isEmpty then fail (.pathConstruction "path has no steps")
      else
        match Path.ofElements elements with
        | .ok path => return .path path
        | .error defect => fail (.pathConstruction defect.message)

/-! ## Patterns -/

/-- What a pattern variable is bound to: nothing, the entity with an id, or null. -/
inductive Endpoint where
  | free
  | bound (id : Int64)
  | null
  deriving DecidableEq

def Endpoint.admits (endpoint : Endpoint) (id : Int64) : Bool :=
  match endpoint with
  | .free => true
  | .bound expected => expected == id
  | .null => false

def nodeId? : Value → Option Int64
  | .node node => some node.id
  | _ => none

def relationshipId? : Value → Option Int64
  | .relationship relationship => some relationship.id
  | _ => none

/-- What the variable of a pattern part is bound to, which must be an entity of the right kind. -/
def endpoint (context : Context) (expected : String) (idOf : Value → Option Int64)
    (name : Option String) : Result Endpoint :=
  match name.bind context.lookup with
  | none => .ok .free
  | some value =>
      if value.isNull then .ok .null
      else
        match idOf value with
        | some id => .ok (.bound id)
        | none => .error (.mismatch expected value)

def nodeFilter (context : Context) (pattern : NodePattern Expr) : Outcome NodeFilter := do
  return ⟨pattern.labels, ← entries sub context [] pattern.properties⟩

def relationshipFilter (context : Context) (pattern : RelationshipPattern Expr) :
    Outcome RelationshipFilter := do
  return ⟨pattern.kinds, ← entries sub context [] pattern.properties⟩

/-- Whether a path agrees with the variables bound already. -/
def agrees (start finish relationship : Endpoint) (path : Path Value) : Bool :=
  start.admits path.start.id && finish.admits path.last.id
    && path.relationships.head?.any fun first => relationship.admits first.id

/-- The paths over one hop.  All filters are evaluated before the graph is asked. -/
def oneHop (graph : PathSource) (context : Context) (start : NodePattern Expr)
    (relationship : RelationshipPattern Expr) (finish : NodePattern Expr) : Outcome Value := do
  let startBound ← ofResult (endpoint context "Node" nodeId? start.name?)
  let finishBound ← ofResult (endpoint context "Node" nodeId? finish.name?)
  let hopBound ←
    ofResult (endpoint context "Relationship" relationshipId? relationship.name?)
  if startBound = .null ∨ finishBound = .null ∨ hopBound = .null then return .null
  else
    let startFilter ← nodeFilter sub context start
    let hopFilter ← relationshipFilter sub context relationship
    let finishFilter ← nodeFilter sub context finish
    match graph.paths startFilter hopFilter finishFilter relationship.direction 1 1 with
    | .error message => fail (.graph message)
    | .ok found =>
        return .list ((found.filter (agrees startBound finishBound hopBound)).map .path)

def pattern (engine : Engine) (context : Context) (pattern : Pattern Expr) : Outcome Value :=
  match pattern.chain with
  | [(relationship, finish)] =>
      if relationship.isSingleHop then
        match engine.graph with
        | none => fail .missingGraph
        | some graph => oneHop sub graph context pattern.start relationship finish
      else fail (.unsupported "variable-length relationship in pattern expression")
  | _ => fail (.unsupported ("pattern expression with " ++ toString pattern.hops ++ " hops"))

/-! ## One level -/

/-- Evaluates an expression, given the evaluator for its parts.  An error that leaves the expression
is marked with it; only a subscript and a map hand on the errors of their parts as they are. -/
def level (engine : Engine) (expr : Expr) (context : Context) : Outcome Value :=
  let leave (outcome : Outcome Value) : Outcome Value := outcome.leaving expr
  match expr with
  | .literal value => .ok (literal value)
  | .variable name => leave (ofResult (valueOf context name))
  | .parameter name => leave (ofResult (parameterOf context name))
  | .property subject key => leave do
      let value ← sub subject context
      ofResult (property key value)
  | .index container position => do
      let value ← sub container context
      let key ← sub position context
      leave (ofResult (Container.subscript value key))
  | .slice list lower upper => leave do
      let value ← sub list context
      let first ← optional sub context lower
      let last ← optional sub context upper
      ofResult (Container.slice value first last)
  | .binary op left right => leave do
      let first ← sub left context
      let second ← sub right context
      ofResult (binary op first second)
  | .unary op operand => leave do
      let value ← sub operand context
      ofResult (unary op value)
  | .conjunction operands => leave (conjunction sub context operands)
  | .disjunction operands => leave (disjunction sub context operands)
  | .call name args _ => leave (call sub engine context name args)
  | .countRows => leave (fail (.invocation "count(*)" "only valid as an aggregation"))
  | .list items => leave do return .list (← all sub context items)
  | .map properties => do return .map (← entries sub context [] properties)
  | .mapProjection subject items => leave (mapProjection sub context subject items)
  | .case subject branches fallback => leave (case sub context subject branches fallback)
  | .comprehension binder list predicate projection =>
      leave (comprehension sub context binder list predicate projection)
  | .reduce accumulator init binder list body =>
      leave (reduce sub context accumulator init binder list body)
  | .quantified quantifier binder list predicate =>
      leave (quantified sub context quantifier binder list predicate)
  | .pattern shape => leave (pattern sub engine context shape)
  | .patternComprehension .. => leave (fail (.unsupported "pattern comprehension"))
  | .path steps => leave (path sub context steps)

end Eval

namespace Engine

/-- Evaluates an expression within a budget of levels.  Without budget an expression is not entered,
so the error bears no mark yet. -/
def eval (engine : Engine) : Nat → Evaluator
  | 0, _, _ => Outcome.fail .recursionLimit
  | budget + 1, expr, context => Eval.level (engine.eval budget) engine expr context

/-- Evaluates an expression in a context. -/
def evaluate (engine : Engine) (expr : Expr) (context : Context) : Outcome Value :=
  engine.eval (engine.options.maxDepth + 1) expr context

/-- The filter that a node pattern stands for in a context. -/
def nodeFilter (engine : Engine) (pattern : NodePattern Expr) (context : Context) :
    Outcome NodeFilter :=
  Eval.nodeFilter engine.evaluate context pattern

/-- The filter that a relationship pattern stands for in a context. -/
def relationshipFilter (engine : Engine) (pattern : RelationshipPattern Expr) (context : Context) :
    Outcome RelationshipFilter :=
  Eval.relationshipFilter engine.evaluate context pattern

end Engine

end CypherExpr
