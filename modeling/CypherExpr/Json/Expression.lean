import CypherExpr.Expr.Basic
import CypherExpr.Json.Basic

/-!
# Expressions as JSON documents

An expression is an object with the name of its kind as the only key.  An operator is named by a
string, and so is everything without parts; a part that may be absent is null.
-/

namespace CypherExpr

namespace Json

/-- A member that is missing or null is absent; otherwise it must be read. -/
def optional? {α : Type} (document : Json) (key : String) (read : Json → Option α) :
    Option (Option α) :=
  match document.member? key with
  | none => some none
  | some .null => some none
  | some found => (read found).map some

def required? {α : Type} (document : Json) (key : String) (read : Json → Option α) : Option α :=
  (document.member? key).bind read

def listOf? {α : Type} (read : Json → Option α) (document : Json) : Option (List α) :=
  document.array?.bind fun items => items.mapM read

/-- An array, empty if it is missing or null. -/
def list? {α : Type} (document : Json) (key : String) (read : Json → Option α) : Option (List α) :=
  (document.optional? key (listOf? read)).map fun items => items.getD []

def pair? {α : Type} (read : Json → Option α) : Json → Option (String × α)
  | .array [.string key, value] => (read value).map fun found => (key, found)
  | _ => none

def natural? : Json → Option Nat
  | .integer value => if 0 ≤ value then some value.toNat else none
  | _ => none

/-- The entry of a table that a string names. -/
def named? {α : Type} (table : List (String × α)) (document : Json) : Option α :=
  document.string?.bind fun name => table.lookup name

mutual

/-- The number of levels of a document. -/
def depth : Json → Nat
  | .array items => depthOfItems items + 1
  | .object members => depthOfMembers members + 1
  | _ => 1
termination_by structural document => document

def depthOfItems : List Json → Nat
  | [] => 0
  | item :: rest => max (depth item) (depthOfItems rest)
termination_by structural items => items

def depthOfMembers : List (String × Json) → Nat
  | [] => 0
  | (_, value) :: rest => max (depth value) (depthOfMembers rest)
termination_by structural members => members

end

end Json

/-! ## Names -/

def BinaryOp.table : List (String × BinaryOp) := [
  ("And", .and), ("Or", .or), ("Xor", .xor), ("Equal", .equal), ("NotEqual", .notEqual),
  ("LessThan", .less), ("LessThanOrEqual", .lessOrEqual), ("GreaterThan", .greater),
  ("GreaterThanOrEqual", .greaterOrEqual), ("StartsWith", .startsWith), ("EndsWith", .endsWith),
  ("Contains", .contains), ("RegexMatch", .regexMatch), ("In", .isIn), ("Add", .add),
  ("Subtract", .subtract), ("Multiply", .multiply), ("Divide", .divide), ("Modulo", .modulo),
  ("Power", .power)]

def UnaryOp.table : List (String × UnaryOp) := [
  ("Not", .not), ("Negate", .negate), ("IsNull", .isNull), ("IsNotNull", .isNotNull)]

def Quantifier.table : List (String × Quantifier) := [
  ("All", .all), ("Any", .any), ("None", .none), ("Single", .single)]

def Direction.table : List (String × Direction) := [
  ("Outgoing", .outgoing), ("Incoming", .incoming), ("Both", .both)]

/-! ## Leaves -/

def Literal.ofJson? : Json → Option Literal
  | .string "Null" => some .null
  | .object [("Boolean", value)] => value.boolean?.map .boolean
  | .object [("Integer", value)] => value.integer?.map .integer
  | .object [("Float", value)] => value.float?.map .float
  | .object [("String", value)] => value.string?.map .string
  | _ => none

def HopRange.ofJson? (document : Json) : Option HopRange := do
  let least ← document.optional? "min" Json.natural?
  let most ← document.optional? "max" Json.natural?
  return ⟨least, most⟩

/-! ## Parts of an expression, given how the expressions in them are read -/

section Parts

variable (sub : Json → Option Expr)

def NodePattern.ofJson? (document : Json) : Option (NodePattern Expr) := do
  let name ← document.optional? "variable" Json.string?
  let labels ← document.list? "labels" Json.string?
  let properties ← document.list? "properties" (Json.pair? sub)
  return ⟨name, labels, properties⟩

def RelationshipPattern.ofJson? (document : Json) : Option (RelationshipPattern Expr) := do
  let name ← document.optional? "variable" Json.string?
  let kinds ← document.list? "types" Json.string?
  let properties ← document.list? "properties" (Json.pair? sub)
  let direction ← document.required? "direction" (Json.named? Direction.table)
  let range ← document.optional? "length" HopRange.ofJson?
  return ⟨name, kinds, properties, direction, range⟩

/-- A relationship pattern with the node pattern it leads to. -/
def Pattern.linkOfJson? : Json → Option (RelationshipPattern Expr × NodePattern Expr)
  | .array [left, right] => do
      let relationship ← RelationshipPattern.ofJson? sub left
      let node ← NodePattern.ofJson? sub right
      return (relationship, node)
  | _ => none

def Pattern.ofJson? (document : Json) : Option (Pattern Expr) := do
  let start ← document.required? "start" (NodePattern.ofJson? sub)
  let chain ← document.list? "chain" (Pattern.linkOfJson? sub)
  return ⟨start, chain⟩

def ProjectionItem.ofJson? : Json → Option (ProjectionItem Expr)
  | .string "AllProperties" => some .allProperties
  | .object [("Property", key)] => key.string?.map .property
  | .object [("Variable", name)] => name.string?.map .variable
  | .object [("Literal", content)] => do
      let key ← content.required? "key" Json.string?
      let value ← content.required? "value" sub
      return .entry key value
  | _ => none

/-- A condition with its result. -/
def Expr.alternativeOfJson? (document : Json) : Option (Expr × Expr) := do
  let condition ← document.required? "when" sub
  let result ← document.required? "then" sub
  return (condition, result)

def PathStep.ofJson? (next : Json → Option (PathStep Expr)) : Json → Option (PathStep Expr)
  | .string "End" => some .done
  | .object [("Node", content)] => do
      let node ← content.required? "node" sub
      let rest ← content.required? "next" next
      return .node node rest
  | .object [("Relationship", content)] => do
      let relationship ← content.required? "relationship" sub
      let node ← content.optional? "node" sub
      let rest ← content.required? "next" next
      return .relationship relationship node rest
  | .object [("MultiHop", content)] => do
      let name ← content.required? "relationship" Json.string?
      let rest ← content.required? "next" next
      return .segment name rest
  | _ => none

/-- The expression of a kind with the given content. -/
def Expr.ofContent? (steps : Json → Option (PathStep Expr)) (kind : String) (content : Json) :
    Option Expr :=
  match kind with
  | "Literal" => (Literal.ofJson? content).map .literal
  | "Variable" => content.string?.map .variable
  | "Parameter" => content.string?.map .parameter
  | "Property" => do
      let subject ← content.required? "subject" sub
      let key ← content.required? "key" Json.string?
      return .property subject key
  | "Index" => do
      let container ← content.required? "container" sub
      let index ← content.required? "index" sub
      return .index container index
  | "Slice" => do
      let list ← content.required? "list" sub
      let lower ← content.optional? "from" sub
      let upper ← content.optional? "to" sub
      return .slice list lower upper
  | "Binary" => do
      let op ← content.required? "op" (Json.named? BinaryOp.table)
      let left ← content.required? "left" sub
      let right ← content.required? "right" sub
      return .binary op left right
  | "Unary" => do
      let op ← content.required? "op" (Json.named? UnaryOp.table)
      let operand ← content.required? "operand" sub
      return .unary op operand
  | "Ands" => (Json.listOf? sub content).map .conjunction
  | "Ors" => (Json.listOf? sub content).map .disjunction
  | "List" => (Json.listOf? sub content).map .list
  | "Map" => (Json.listOf? (Json.pair? sub) content).map .map
  | "FunctionCall" => do
      let name ← content.required? "name" Json.string?
      let args ← content.list? "args" sub
      let distinct ← content.required? "distinct" Json.boolean?
      return .call name args distinct
  | "MapProjection" => do
      let subject ← content.required? "variable" Json.string?
      let items ← content.list? "items" (ProjectionItem.ofJson? sub)
      return .mapProjection subject items
  | "Case" => do
      let subject ← content.optional? "subject" sub
      let alternatives ← content.list? "alternatives" (Expr.alternativeOfJson? sub)
      let fallback ← content.optional? "default" sub
      return .case subject alternatives fallback
  | "ListComprehension" => do
      let binder ← content.required? "variable" Json.string?
      let list ← content.required? "list" sub
      let predicate ← content.optional? "predicate" sub
      let projection ← content.optional? "projection" sub
      return .comprehension binder list predicate projection
  | "Reduce" => do
      let accumulator ← content.required? "accumulator" Json.string?
      let init ← content.required? "init" sub
      let binder ← content.required? "variable" Json.string?
      let list ← content.required? "list" sub
      let body ← content.required? "expression" sub
      return .reduce accumulator init binder list body
  | "Quantified" => do
      let quantifier ← content.required? "quantifier" (Json.named? Quantifier.table)
      let binder ← content.required? "variable" Json.string?
      let list ← content.required? "list" sub
      let predicate ← content.optional? "predicate" sub
      return .quantified quantifier binder list predicate
  | "Pattern" => (Pattern.ofJson? sub content).map .pattern
  | "PatternComprehension" => do
      let name ← content.optional? "path_variable" Json.string?
      let pattern ← content.required? "pattern" (Pattern.ofJson? sub)
      let predicate ← content.optional? "predicate" sub
      let projection ← content.required? "projection" sub
      return .patternComprehension name pattern predicate projection
  | "Path" => (steps content).map .path
  | _ => none

end Parts

namespace Expr

/-- Readers of expressions and of path steps with at most the given number of levels. -/
def readers : Nat → (Json → Option Expr) × (Json → Option (PathStep Expr))
  | 0 => (fun _ => none, fun _ => none)
  | levels + 1 =>
      let inner := readers levels
      let expr : Json → Option Expr := fun document =>
        match document with
        | .string "CountStar" => some .countRows
        | .object [(kind, content)] => ofContent? inner.1 inner.2 kind content
        | _ => none
      (expr, PathStep.ofJson? inner.1 inner.2)

/-- The expression that a document describes. -/
def ofJson? (document : Json) : Option Expr := (readers document.depth).1 document

end Expr

end CypherExpr
